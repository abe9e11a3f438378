import TypeAtlas.Attribute
import TypeAtlas.Proofs.Outcome
import TypeAtlas.Proofs.Text.Trim

/-!
Where a list of attributes is split. The splitter goes over the bytes with one of three states and cuts at a
comma outside quotes, so a list falls apart into stretches without such a comma. White space at the ends
changes no state, and it is trimmed off every entry; so it does not matter whether a list is trimmed first.
-/

namespace TypeAtlas.Attribute

def comma : UInt8 := 0x2C

/-- Where the splitter stands: outside quotes, inside them, or inside them after a backslash. -/
inductive Quoting where
  | outside
  | inside
  | escaped
  deriving DecidableEq, Repr

namespace Quoting

def step : Quoting → UInt8 → Quoting
  | .outside, b => if b == Text.quoteMark then .inside else .outside
  | .inside, b =>
    if b == Text.backslash then .escaped else if b == Text.quoteMark then .outside else .inside
  | .escaped, _ => .inside

/-- The state when a text has been read. -/
def after (q : Quoting) (t : Text) : Quoting :=
  t.foldl step q

variable {q : Quoting}

@[simp]
theorem after_nil : q.after [] = q :=
  rfl

@[simp]
theorem after_cons (b : UInt8) (t : Text) : q.after (b :: t) = (q.step b).after t :=
  rfl

@[simp]
theorem after_append (s t : Text) : q.after (s ++ t) = (q.after s).after t :=
  List.foldl_append

theorem step_eq_outside_iff {b : UInt8} (plain : b ≠ Text.quoteMark) : q.step b = .outside ↔ q = .outside := by
  cases q with
  | outside => simp [step, plain]
  | inside =>
    simp only [step, beq_iff_eq, if_neg plain]
    split <;> simp
  | escaped => simp [step]

/-- Only a quotation mark leads out of quotes or into them. -/
theorem after_eq_outside_iff {t : Text} (plain : Text.quoteMark ∉ t) : q.after t = .outside ↔ q = .outside := by
  induction t generalizing q with
  | nil => rfl
  | cons b rest ih =>
    have others : Text.quoteMark ∉ rest := fun member => plain (List.mem_cons_of_mem b member)
    have first : b ≠ Text.quoteMark := fun same => plain (same ▸ List.mem_cons_self)
    rw [after_cons, ih others, step_eq_outside_iff first]

end Quoting

open Quoting

/-! ### Stretches without a cut -/

/-- Every comma of the text is read inside quotes. -/
def Uncut (q : Quoting) (t : Text) : Prop :=
  ∀ before more, t = before ++ comma :: more → q.after before ≠ .outside

variable {q : Quoting} {s t : Text}

theorem uncut_of_not_mem (absent : comma ∉ t) : Uncut q t := by
  rintro before more rfl
  simp at absent

theorem uncut_cons_iff {b : UInt8} : Uncut q (b :: t) ↔ (b = comma → q ≠ .outside) ∧ Uncut (q.step b) t := by
  constructor
  · intro uncut
    refine ⟨?_, ?_⟩
    · rintro rfl
      exact uncut [] t rfl
    · rintro before more rfl
      exact uncut (b :: before) more rfl
  · rintro ⟨first, others⟩ before more whole
    cases before with
    | nil => exact first (List.cons.inj whole).1
    | cons c before =>
      obtain ⟨rfl, rest⟩ := List.cons.inj whole
      exact others before more rest

theorem uncut_append_iff : Uncut q (s ++ t) ↔ Uncut q s ∧ Uncut (q.after s) t := by
  induction s generalizing q with
  | nil => simp [uncut_of_not_mem]
  | cons b rest ih => rw [List.cons_append, uncut_cons_iff, uncut_cons_iff, ih, and_assoc, after_cons]

/-- A text is one stretch, or it has a first cut. -/
theorem uncut_or_exists (q : Quoting) (t : Text) :
    Uncut q t ∨ ∃ before more, t = before ++ comma :: more ∧ Uncut q before ∧ q.after before = .outside := by
  induction t generalizing q with
  | nil => exact .inl (uncut_of_not_mem List.not_mem_nil)
  | cons b rest ih =>
    by_cases cut : b = comma ∧ q = .outside
    · obtain ⟨rfl, rfl⟩ := cut
      exact .inr ⟨[], rest, rfl, uncut_of_not_mem List.not_mem_nil, rfl⟩
    · have kept : b = comma → q ≠ .outside := fun same outside => cut ⟨same, outside⟩
      rcases ih (q.step b) with uncut | ⟨before, more, rfl, uncut, out⟩
      · exact .inl (uncut_cons_iff.mpr ⟨kept, uncut⟩)
      · exact .inr ⟨b :: before, more, rfl, uncut_cons_iff.mpr ⟨kept, uncut⟩, out⟩

/-- Going over a text from cut to cut. -/
@[elab_as_elim]
theorem cut_induction {motive : Quoting → Text → Prop} (last : ∀ q t, Uncut q t → motive q t)
    (first : ∀ q before more, Uncut q before → q.after before = .outside → motive .outside more →
      motive q (before ++ comma :: more)) (q : Quoting) (t : Text) : motive q t := by
  induction size : t.length using Nat.strongRecOn generalizing q t with
  | ind n ih =>
    rcases uncut_or_exists q t with uncut | ⟨before, more, rfl, uncut, out⟩
    · exact last q t uncut
    · refine first q before more uncut out (ih more.length ?_ .outside more rfl)
      rw [← size, List.length_append, List.length_cons]
      omega

/-! ### The entries, by state -/

/-- The entries of a text that is read from the given state. -/
def pieces : Quoting → Text → List Entry
  | q, [] => [⟨[], q == .outside⟩]
  | q, b :: rest =>
    if q == .outside && b == comma then ⟨[], true⟩ :: pieces .outside rest
    else Entry.push b (pieces (q.step b) rest)

theorem pieces_push {b : UInt8} (kept : b = comma → q ≠ .outside) (rest : Text) :
    pieces q (b :: rest) = Entry.push b (pieces (q.step b) rest) := by
  have test : ¬ (q == .outside && b == comma) = true := by
    rw [Bool.and_eq_true, beq_iff_eq, beq_iff_eq]
    exact fun both => kept both.2 both.1
  rw [pieces, if_neg test]

/-- The states tell in one byte what the splitter finds by looking one byte ahead. -/
theorem entries_eq_pieces (quoted : Bool) (t : Text) :
    entries quoted t = pieces (if quoted then .inside else .outside) t := by
  fun_induction entries quoted t with
  | case1 quoted => cases quoted <;> rfl
  | case2 quoted b slash =>
    obtain ⟨rfl, rfl⟩ : quoted = true ∧ b = Text.backslash := by simpa using slash
    rfl
  | case3 quoted b slash c rest ih =>
    obtain ⟨rfl, rfl⟩ : quoted = true ∧ b = Text.backslash := by simpa using slash
    rw [ih]
    rfl
  | case4 quoted b rest slash mark ih =>
    obtain rfl : b = Text.quoteMark := beq_iff_eq.mp mark
    rw [ih]
    cases quoted <;> rfl
  | case5 quoted b rest slash mark cut ih =>
    obtain ⟨rfl, rfl⟩ : b = comma ∧ quoted = false := by simpa [comma] using cut
    rw [ih]
    rfl
  | case6 quoted b rest slash mark cut ih =>
    rw [ih]
    cases quoted with
    | false =>
      have kept : b ≠ comma := by simpa [comma] using cut
      have stays : Quoting.outside.step b = .outside := if_neg mark
      show Entry.push b (pieces .outside rest) = pieces .outside (b :: rest)
      rw [pieces_push (fun same => absurd same kept), stays]
    | true =>
      have stays : Quoting.inside.step b = .inside := by
        rw [Quoting.step, if_neg (by simpa using slash), if_neg mark]
      show Entry.push b (pieces .inside rest) = pieces .inside (b :: rest)
      rw [pieces_push (fun _ => by decide), stays]

theorem foldr_push (t : Text) (e : Entry) (rest : List Entry) :
    t.foldr Entry.push (e :: rest) = ⟨t ++ e.text, e.closed⟩ :: rest := by
  induction t with
  | nil => rfl
  | cons b t ih => rw [List.foldr_cons, ih]; rfl

theorem pieces_uncut_append (uncut : Uncut q s) (t : Text) :
    pieces q (s ++ t) = s.foldr Entry.push (pieces (q.after s) t) := by
  induction s generalizing q with
  | nil => rfl
  | cons b rest ih =>
    obtain ⟨kept, others⟩ := uncut_cons_iff.mp uncut
    rw [List.cons_append, pieces_push kept, ih others, List.foldr_cons, after_cons]

theorem pieces_uncut (uncut : Uncut q t) : pieces q t = [⟨t, q.after t == .outside⟩] := by
  have whole := pieces_uncut_append uncut []
  rwa [List.append_nil, pieces, foldr_push, List.append_nil] at whole

theorem pieces_cut (uncut : Uncut q s) (out : q.after s = .outside) (t : Text) :
    pieces q (s ++ comma :: t) = ⟨s, true⟩ :: pieces .outside t := by
  have cut : pieces .outside (comma :: t) = ⟨[], true⟩ :: pieces .outside t := rfl
  rw [pieces_uncut_append uncut, out, cut, foldr_push, List.append_nil]

theorem pieces_ne_nil (q : Quoting) (t : Text) : pieces q t ≠ [] := by
  induction q, t using cut_induction with
  | last q t uncut => simp [pieces_uncut uncut]
  | first q before more uncut out _ => simp [pieces_cut uncut out]

/-- No entry has a comma outside quotes, and it is closed if its own quotes are. -/
theorem uncut_of_mem_pieces (t : Text) :
    ∀ e ∈ pieces .outside t, Uncut .outside e.text ∧ e.closed = (Quoting.outside.after e.text == .outside) := by
  generalize start : Quoting.outside = q
  induction q, t using cut_induction with
  | last q t uncut =>
    subst start
    intro e member
    rw [pieces_uncut uncut] at member
    obtain rfl := List.mem_singleton.mp member
    exact ⟨uncut, rfl⟩
  | first q before more uncut out ih =>
    subst start
    intro e member
    rw [pieces_cut uncut out] at member
    rcases List.mem_cons.mp member with rfl | later
    · exact ⟨uncut, by rw [out]; rfl⟩
    · exact ih rfl e later

/-- A list goes on after a comma with the entries of what follows, if no quote is left open. -/
theorem pieces_append_comma (closed : ∀ e ∈ pieces q s, e.closed = true) (t : Text) :
    pieces q (s ++ comma :: t) = pieces q s ++ pieces .outside t := by
  induction q, s using cut_induction with
  | last q s uncut =>
    rw [pieces_uncut uncut] at closed ⊢
    have out : q.after s = .outside := by simpa using closed
    rw [pieces_cut uncut out, out]
    rfl
  | first q before more uncut out ih =>
    rw [pieces_cut uncut out] at closed ⊢
    rw [List.append_assoc, List.cons_append, pieces_cut uncut out,
      ih fun e member => closed e (List.mem_cons_of_mem _ member), List.cons_append]

/-- The last entry reaches back to a comma, or it is the whole list. -/
theorem last_piece {e : Entry} (last : (pieces q t).getLast? = some e) :
    t = e.text ∨ ∃ before, t = before ++ comma :: e.text := by
  induction q, t using cut_induction with
  | last q t uncut =>
    rw [pieces_uncut uncut] at last
    cases last
    exact .inl rfl
  | first q before more uncut out ih =>
    obtain ⟨next, rest, split⟩ := List.exists_cons_of_ne_nil (pieces_ne_nil .outside more)
    rw [pieces_cut uncut out, split, List.getLast?_cons_cons, ← split] at last
    rcases ih last with rfl | ⟨middle, rfl⟩
    · exact .inr ⟨before, rfl⟩
    · exact .inr ⟨before ++ comma :: middle, by simp⟩

/-! ### White space -/

def Entry.trimmed (e : Entry) : Entry :=
  ⟨e.text.trim, e.closed⟩

theorem ofEntry_trimmed (e : Entry) : ofEntry e.trimmed = ofEntry e := by
  rw [ofEntry, ofEntry, Entry.trimmed, Text.trim_trim]

theorem not_mem_of_allBlank (blank : Text.AllBlank t) : comma ∉ t ∧ Text.quoteMark ∉ t :=
  ⟨blank.not_mem_of_solid (by decide) (by decide), blank.not_mem_of_solid (by decide) (by decide)⟩

theorem trimmed_pieces_append (t : Text) {r : Text} (blank : Text.AllBlank r) :
    (pieces q (t ++ r)).map Entry.trimmed = (pieces q t).map Entry.trimmed := by
  obtain ⟨noComma, noMark⟩ := not_mem_of_allBlank blank
  induction q, t using cut_induction with
  | last q t uncut =>
    have longer : Uncut q (t ++ r) := uncut_append_iff.mpr ⟨uncut, uncut_of_not_mem noComma⟩
    have state : (q.after (t ++ r) == .outside) = (q.after t == .outside) := by
      rw [after_append, Bool.eq_iff_iff, beq_iff_eq, beq_iff_eq, after_eq_outside_iff noMark]
    rw [pieces_uncut longer, pieces_uncut uncut, state]
    simp [Entry.trimmed, Text.trim_append_blank t blank]
  | first q before more uncut out ih =>
    rw [List.append_assoc, List.cons_append, pieces_cut uncut out, pieces_cut uncut out, List.map_cons, ih,
      List.map_cons]

theorem trimmed_pieces_blank_append {l : Text} (blank : Text.AllBlank l) (t : Text) :
    (pieces .outside (l ++ t)).map Entry.trimmed = (pieces .outside t).map Entry.trimmed := by
  obtain ⟨noComma, noMark⟩ := not_mem_of_allBlank blank
  obtain ⟨e, rest, split⟩ := List.exists_cons_of_ne_nil (pieces_ne_nil .outside t)
  rw [pieces_uncut_append (uncut_of_not_mem noComma), (after_eq_outside_iff noMark).mpr rfl, split, foldr_push]
  simp [Entry.trimmed, Text.trim_blank_append blank]

theorem trimmed_pieces_trim (t : Text) :
    (pieces .outside t.trim).map Entry.trimmed = (pieces .outside t).map Entry.trimmed := by
  obtain ⟨l, r, whole, blank, blank'⟩ := Text.exists_trim t
  calc (pieces .outside t.trim).map Entry.trimmed
    _ = (pieces .outside (l ++ t.trim ++ r)).map Entry.trimmed := by
      rw [trimmed_pieces_append _ blank', trimmed_pieces_blank_append blank]
    _ = (pieces .outside t).map Entry.trimmed := by rw [← whole]

/-! ### The whole list -/

/-- The entries without a blank one at the end. -/
def withoutBlankEnd (all : List Entry) : List Entry :=
  match all.getLast? with
  | some e => if e.closed && e.text.trim.isEmpty then all.dropLast else all
  | none => all

theorem entriesOf_eq (t : Text) : entriesOf t = withoutBlankEnd (pieces .outside t.trim) := by
  rw [entriesOf, entries_eq_pieces]
  rfl

theorem withoutBlankEnd_append (before : List Entry) {es : List Entry} (nonempty : es ≠ []) :
    withoutBlankEnd (before ++ es) = before ++ withoutBlankEnd es := by
  rw [withoutBlankEnd, withoutBlankEnd, List.getLast?_append, List.getLast?_eq_some_getLast nonempty,
    List.dropLast_append_of_ne_nil nonempty, Option.some_or]
  exact (apply_ite (before ++ ·) _ _ _).symm

theorem map_trimmed_withoutBlankEnd (es : List Entry) :
    withoutBlankEnd (es.map Entry.trimmed) = (withoutBlankEnd es).map Entry.trimmed := by
  rw [withoutBlankEnd, List.getLast?_map, withoutBlankEnd]
  cases es.getLast? with
  | none => rfl
  | some e =>
    have test : (e.trimmed.closed && e.trimmed.text.trim.isEmpty) = (e.closed && e.text.trim.isEmpty) := by
      rw [Entry.trimmed, Text.trim_trim]
    rw [Option.map_some]
    simp only [test, ← List.map_dropLast]
    exact (apply_ite (List.map Entry.trimmed) _ _ _).symm

/-- A list may be split before it is trimmed. -/
theorem parse_eq (t : Text) : parse t = (withoutBlankEnd (pieces .outside t)).mapM ofEntry := by
  have entry : ofEntry ∘ Entry.trimmed = ofEntry := funext ofEntry_trimmed
  have whole (es : List Entry) :
      (withoutBlankEnd es).mapM ofEntry = (withoutBlankEnd (es.map Entry.trimmed)).mapM ofEntry := by
    rw [map_trimmed_withoutBlankEnd, List.mapM_map, entry]
  rw [parse, entriesOf_eq, whole, trimmed_pieces_trim, ← whole]

end TypeAtlas.Attribute
