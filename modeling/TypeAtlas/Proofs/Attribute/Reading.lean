import TypeAtlas.Proofs.Attribute.Splitting

/-!
What an entry says. It is a name, or a name and a value on the two sides of its first equals sign, each
without the white space around it; and the value stands in quotes or for itself.
-/

namespace TypeAtlas

namespace Text

variable {b : UInt8} {t : Text}

theorem cut_of_not_mem (absent : b ∉ t) : cut b t = (t, none) := by
  induction t with
  | nil => rfl
  | cons c rest ih =>
    have first : ¬ (c == b) = true := by
      rw [beq_iff_eq]
      rintro rfl
      exact absent List.mem_cons_self
    rw [cut, if_neg first, ih fun member => absent (List.mem_cons_of_mem c member)]

theorem cut_append {before : Text} (absent : b ∉ before) (after : Text) :
    cut b (before ++ b :: after) = (before, some after) := by
  induction before with
  | nil => simp [cut]
  | cons c rest ih =>
    have first : ¬ (c == b) = true := by
      rw [beq_iff_eq]
      rintro rfl
      exact absent List.mem_cons_self
    rw [List.cons_append, cut, if_neg first, ih fun member => absent (List.mem_cons_of_mem c member)]

theorem eq_of_cut {before after : Text} (split : cut b t = (before, some after)) : t = before ++ b :: after := by
  by_cases member : b ∈ t
  · obtain ⟨before', after', rfl, absent⟩ := List.eq_append_cons_of_mem member
    rw [cut_append absent] at split
    cases split
    rfl
  · rw [cut_of_not_mem member] at split
    cases split

/-- Trimming a text first does not change its parts, apart from white space at their ends. -/
theorem cut_trim (ascii : b.toNat < 0x80) (solid : isBlank b.toNat = false) (t : Text) :
    (cut b t.trim).1.trim = (cut b t).1.trim ∧ (cut b t.trim).2.map trim = (cut b t).2.map trim := by
  obtain ⟨l, r, whole, blank, blank'⟩ := exists_trim t
  have outer : b ∉ l ∧ b ∉ r := ⟨blank.not_mem_of_solid ascii solid, blank'.not_mem_of_solid ascii solid⟩
  by_cases member : b ∈ t.trim
  · obtain ⟨before, after, split, absent⟩ := List.eq_append_cons_of_mem member
    have inside : t = (l ++ before) ++ b :: (after ++ r) := whole.trans (by rw [split]; simp)
    have longer : cut b t = (l ++ before, some (after ++ r)) :=
      (congrArg (cut b) inside).trans (cut_append (by simp [outer.1, absent]) _)
    rw [longer, split, cut_append absent]
    exact ⟨(trim_blank_append blank before).symm, congrArg some (trim_append_blank after blank').symm⟩
  · have absent : b ∉ t := by
      rw [whole]
      simp [outer, member]
    rw [cut_of_not_mem absent, cut_of_not_mem member]
    exact ⟨trim_trim t, rfl⟩

end Text

namespace Attribute

open Quoting

/-! ### One entry -/

/-- What stands before the equals sign. -/
def Entry.nameText (e : Entry) : Text :=
  (Text.cut 0x3D e.text).1.trim

/-- What stands after the equals sign, if there is one. -/
def Entry.valueText? (e : Entry) : Option Text :=
  (Text.cut 0x3D e.text).2.map Text.trim

def IsName (name : Text) : Prop :=
  name ≠ [] ∧ ∀ b ∈ name, forbiddenInName b = false

/-- A value in quotes, or one that stands for itself. -/
inductive Denotes : Text → Text → Prop where
  | quoted {v value : Text} (starts : v.head? = some Text.quoteMark) (reads : Text.unquote? v = some value) :
      Denotes v value
  | plain {v : Text} (starts : v.head? ≠ some Text.quoteMark) : Denotes v v

/-- What a well-formed entry says. -/
inductive Reads (e : Entry) : Attribute → Prop where
  | flag (closed : e.closed = true) (named : IsName e.nameText) (bare : e.valueText? = none) :
      Reads e (flag e.nameText)
  | valued {v value : Text} (closed : e.closed = true) (named : IsName e.nameText)
      (given : e.valueText? = some v) (denotes : Denotes v value) : Reads e (valued e.nameText value)

theorem ofEntry_eq_ok_iff {e : Entry} {a : Attribute} : ofEntry e = .ok a ↔ Reads e a := by
  obtain ⟨name, value⟩ := Text.cut_trim (b := 0x3D) (by decide) (by decide) e.text
  rw [← Entry.nameText] at name
  rw [← Entry.valueText?] at value
  constructor
  · intro read
    simp only [ofEntry] at read
    split at read
    · cases read
    rename_i closed
    have closed : e.closed = true := by simpa using closed
    split at read
    · cases read
    rename_i full
    split at read
    · cases read
    rename_i clean
    rw [name] at full clean read
    have named : IsName e.nameText := ⟨by simpa using full, by simpa using clean⟩
    split at read
    · rename_i bare
      rw [bare] at value
      cases read
      exact .flag closed named value.symm
    rename_i v given
    rw [given] at value
    split at read
    · rename_i starts
      split at read
      · rename_i reads
        cases read
        exact .valued closed named value.symm (.quoted (beq_iff_eq.mp starts) reads)
      · cases read
    · rename_i starts
      cases read
      exact .valued closed named value.symm (.plain (by simpa using starts))
  · intro reads
    have passes (named : IsName e.nameText) :
        e.nameText.isEmpty = false ∧ e.nameText.any forbiddenInName = false :=
      ⟨by simpa using named.1, by simpa using named.2⟩
    cases reads with
    | flag closed named bare =>
      rw [bare, Option.map_eq_none_iff] at value
      simp [ofEntry, closed, name, passes named, value]
    | valued closed named given denotes =>
      obtain ⟨v, found, rfl⟩ := Option.map_eq_some_iff.mp (value.trans given)
      simp only [ofEntry, closed, name, passes named, found]
      cases denotes with
      | quoted starts reads => simp [starts, reads]
      | plain starts => simp [starts]

namespace Reads

variable {e : Entry} {a : Attribute}

theorem closed (reads : Reads e a) : e.closed = true := by
  cases reads with
  | flag closed _ _ => exact closed
  | valued closed _ _ _ => exact closed

theorem isName (reads : Reads e a) : IsName a.name := by
  cases reads with
  | flag _ named _ => exact named
  | valued _ named _ _ => exact named

/-- An entry without a name is none. -/
theorem not_blank (reads : Reads e a) : e.text.trim ≠ [] := by
  intro empty
  have blank := Text.trim_eq_nil_iff.mp empty
  have text : e.nameText = [] := by
    rw [Entry.nameText, Text.cut_of_not_mem (blank.not_mem_of_solid (by decide) (by decide)), empty]
  cases reads with
  | flag _ named _ => exact named.1 text
  | valued _ named _ _ => exact named.1 text

theorem value_of_plain (reads : Reads e a) {v : Text} (given : e.valueText? = some v)
    (starts : v.head? ≠ some Text.quoteMark) : a.value = v := by
  cases reads with
  | flag _ _ bare =>
    rw [given] at bare
    cases bare
  | valued _ _ given' denotes =>
    obtain rfl := Option.some.inj (given.symm.trans given')
    cases denotes with
    | quoted starts' _ => exact absurd starts' starts
    | plain _ => rfl

end Reads

/-! ### Commas in values -/

theorem withoutBlankEnd_eq_self {es : List Entry} (full : ∀ e, es.getLast? = some e → e.text.trim ≠ []) :
    withoutBlankEnd es = es := by
  unfold withoutBlankEnd
  split
  · rename_i e last
    exact if_neg (by simp [full e last])
  · rfl

theorem mem_of_mem_withoutBlankEnd {es : List Entry} {e : Entry} (member : e ∈ withoutBlankEnd es) : e ∈ es := by
  unfold withoutBlankEnd at member
  split at member
  · split at member
    · exact (List.dropLast_sublist es).subset member
    · exact member
  · exact member

/-- The values with a comma are those of entries that quote the whole value. -/
def CommasQuoted (t : Text) (attrs : List Attribute) : Prop :=
  ∀ (i : Nat) a, attrs[i]? = some a → comma ∈ a.value →
    ∃ e v, (entriesOf t)[i]? = some e ∧ e.valueText? = some v ∧ v.head? = some Text.quoteMark ∧
      Text.unquote? v = some a.value

/-- A value that does not begin with a quotation mark has one further on, and a comma before the next. -/
def HidesComma (e : Entry) : Prop :=
  ∃ v before after, e.valueText? = some v ∧ v.head? ≠ some Text.quoteMark ∧ v = before ++ comma :: after ∧
    Quoting.outside.after before ≠ .outside

/-- The splitter is outside quotes where the value of an entry begins. -/
theorem exists_before_value {e : Entry} (named : IsName e.nameText) {v : Text} (given : e.valueText? = some v) :
    ∃ before after, e.text = before ++ v ++ after ∧ Quoting.outside.after before = .outside := by
  obtain ⟨value, found, rfl⟩ := Option.map_eq_some_iff.mp given
  obtain ⟨l, r, whole, blank, _⟩ := Text.exists_trim value
  obtain ⟨l', r', whole', blank', blank''⟩ := Text.exists_trim (Text.cut 0x3D e.text).1
  have clean : Text.quoteMark ∉ (Text.cut 0x3D e.text).1.trim := fun member =>
    Bool.noConfusion (named.2 _ member)
  have name : Text.quoteMark ∉ (Text.cut 0x3D e.text).1 := by
    rw [whole']
    simp [(not_mem_of_allBlank blank').2, (not_mem_of_allBlank blank'').2, clean]
  have split : e.text = (Text.cut 0x3D e.text).1 ++ 0x3D :: value := Text.eq_of_cut (Prod.ext rfl found)
  refine ⟨(Text.cut 0x3D e.text).1 ++ 0x3D :: l, r, ?_, (after_eq_outside_iff ?_).mpr rfl⟩
  · calc e.text
      _ = (Text.cut 0x3D e.text).1 ++ 0x3D :: (l ++ value.trim ++ r) := by rw [← whole]; exact split
      _ = (Text.cut 0x3D e.text).1 ++ 0x3D :: l ++ value.trim ++ r := by simp
  · simp only [List.mem_append, List.mem_cons, not_or]
    exact ⟨name, by decide, (not_mem_of_allBlank blank).2⟩

/-- The attributes of an accepted list are what its entries say, one by one. -/
theorem reads_of_parse {t : Text} {attrs : List Attribute} (accepted : parse t = .ok attrs) :
    attrs.length = (entriesOf t).length ∧
      ∀ (i : Nat) e a, (entriesOf t)[i]? = some e → attrs[i]? = some a → Reads e a := by
  obtain ⟨length, each⟩ := mapM_eq_ok accepted
  exact ⟨length, fun i e a entry found => ofEntry_eq_ok_iff.mp (each i e a entry found)⟩

/-- A comma that did not end the entry has a quotation mark of the value before it. -/
theorem hidesComma_of_mem {t : Text} {e : Entry} (listed : e ∈ entriesOf t) (named : IsName e.nameText) {v : Text}
    (given : e.valueText? = some v) (starts : v.head? ≠ some Text.quoteMark) (member : comma ∈ v) :
    HidesComma e := by
  obtain ⟨before, after, rfl⟩ := List.append_of_mem member
  obtain ⟨front, back, whole, out⟩ := exists_before_value named given
  rw [entriesOf_eq] at listed
  have uncut := (uncut_of_mem_pieces t.trim e (mem_of_mem_withoutBlankEnd listed)).1
  have hidden := uncut (front ++ before) (after ++ back) (by simp [whole])
  rw [after_append, out] at hidden
  exact ⟨_, before, after, given, starts, rfl, hidden⟩

/-- A list obeys the rule that commas need quotes exactly if no entry hides one. -/
theorem commasQuoted_iff {t : Text} {attrs : List Attribute} (accepted : parse t = .ok attrs) :
    CommasQuoted t attrs ↔ ∀ e ∈ entriesOf t, ¬ HidesComma e := by
  obtain ⟨length, each⟩ := reads_of_parse accepted
  constructor
  · rintro quoted e member ⟨v, before, after, given, starts, split, _⟩
    obtain ⟨i, entry⟩ := List.getElem?_of_mem member
    obtain ⟨a, found⟩ : ∃ a, attrs[i]? = some a :=
      ⟨_, List.getElem?_eq_getElem (length ▸ (List.getElem?_eq_some_iff.mp entry).1)⟩
    have inside : comma ∈ a.value := by
      rw [(each i e a entry found).value_of_plain given starts, split]
      simp
    obtain ⟨e', v', entry', given', starts', _⟩ := quoted i a found inside
    obtain rfl := Option.some.inj (entry.symm.trans entry')
    obtain rfl := Option.some.inj (given.symm.trans given')
    exact starts starts'
  · intro plain i a found member
    obtain ⟨e, entry⟩ : ∃ e, (entriesOf t)[i]? = some e :=
      ⟨_, List.getElem?_eq_getElem (length ▸ (List.getElem?_eq_some_iff.mp found).1)⟩
    cases each i e a entry found with
    | flag closed named bare => cases member
    | @valued v value closed named given denotes =>
      cases denotes with
      | quoted starts reads => exact ⟨e, v, entry, given, starts, reads⟩
      | plain starts =>
        have listed := List.mem_of_getElem? entry
        exact absurd (hidesComma_of_mem listed named given starts member) (plain e listed)

/-- A quotation mark in the midst of a value keeps the comma after it. -/
theorem comma_hidden_in_midst :
    parse "x=a\"b,c\"d" = .ok [valued "x" "a\"b,c\"d"] ∧
      ¬ CommasQuoted "x=a\"b,c\"d" [valued "x" "a\"b,c\"d"] := by
  have accepted : parse "x=a\"b,c\"d" = .ok [valued "x" "a\"b,c\"d"] := by rfl
  refine ⟨accepted, fun quoted => (commasQuoted_iff accepted).mp quoted _ List.mem_cons_self ?_⟩
  exact ⟨"a\"b,c\"d", "a\"b", "c\"d", by decide, by decide, by decide, by decide⟩

end Attribute

end TypeAtlas
