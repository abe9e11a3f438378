import Mathlib.Data.List.TakeWhile
import TypeAtlas.Proofs.Runes

/-!
White space at the ends of a text. It consists of characters, so it can be told from whatever it stands
beside, and none of it is a byte of ASCII that is not white space itself. Trimming therefore sees through
white space that was added at either end, and a second trimming changes nothing.
-/

namespace TypeAtlas.Text

/-- A stray byte is no white space. -/
theorem isCharacter_of_blank {t : Text} {r : Rune} (member : r ∈ t.runes) (blank : isBlank r.code = true) :
    IsCharacter r.code r.bytes := by
  rcases cases_of_mem_runes member with character | ⟨b, rfl⟩
  · exact character
  · have solid : isBlank replacement = false := by decide
    rw [blank] at solid
    cases solid

/-- A text of white space alone. -/
def AllBlank (t : Text) : Prop :=
  ∀ r ∈ t.runes, isBlank r.code = true

namespace AllBlank

variable {t more : Text}

theorem characters (blank : AllBlank t) : ∀ r ∈ t.runes, IsCharacter r.code r.bytes :=
  fun r member => isCharacter_of_blank member (blank r member)

theorem runes_append (blank : AllBlank t) (more : Text) : runes (t ++ more) = runes t ++ runes more := by
  have read := runes_ofRunes_append blank.characters more
  rwa [ofRunes_runes] at read

theorem append (blank : AllBlank t) (blank' : AllBlank more) : AllBlank (t ++ more) := by
  rw [AllBlank, blank.runes_append]
  exact List.forall_mem_append.mpr ⟨blank, blank'⟩

theorem isBoundary (blank : AllBlank t) : IsBoundary t := by
  have whole := ofRunes_runes t
  cases read : t.runes with
  | nil =>
    rw [read] at whole
    subst whole
    exact fun b first => nomatch first
  | cons r rest =>
    have character := blank.characters r (by rw [read]; exact List.mem_cons_self)
    obtain ⟨b, tail, bytes, starts, _⟩ := character.shape
    rw [read, ofRunes, List.flatMap_cons, bytes] at whole
    subst whole
    intro c first
    cases first
    exact starts

/-- A byte of ASCII in white space is white space. -/
theorem isBlank_of_mem (blank : AllBlank t) {b : UInt8} (member : b ∈ t) (ascii : b.toNat < 0x80) :
    isBlank b.toNat = true := by
  rw [← ofRunes_runes t] at member
  obtain ⟨r, read, inside⟩ := List.mem_flatMap.mp member
  rw [← ((blank.characters r read).of_ascii_mem inside ascii).2]
  exact blank r read

end AllBlank

theorem allBlank_ofRunes {rs : List Rune} (characters : ∀ r ∈ rs, IsCharacter r.code r.bytes)
    (blank : ∀ r ∈ rs, isBlank r.code = true) : AllBlank (ofRunes rs) := by
  have read := runes_ofRunes_append characters []
  rw [List.append_nil] at read
  rw [AllBlank, read]
  exact List.forall_mem_append.mpr ⟨blank, fun _ member => nomatch member⟩

/-! ### Trimming -/

theorem dropBlanks_append {rs : List Rune} (blank : ∀ r ∈ rs, isBlank r.code = true) (more : List Rune) :
    dropBlanks (rs ++ more) = dropBlanks more :=
  List.dropWhile_append_of_pos blank

/-- White space in front does not matter. -/
theorem trim_blank_append {t : Text} (blank : AllBlank t) (more : Text) : trim (t ++ more) = trim more := by
  rw [trim, blank.runes_append, dropBlanks_append blank, trim]

/-- White space behind does not matter either. -/
theorem trim_append_blank (t : Text) {more : Text} (blank : AllBlank more) : trim (t ++ more) = trim t := by
  rw [trim, runes_append t blank.isBoundary, trim]
  have reversed : ∀ r ∈ more.runes.reverse, isBlank r.code = true := fun r member =>
    blank r (List.mem_reverse.mp member)
  by_cases empty : dropBlanks t.runes = []
  · have front : ∀ r ∈ t.runes, isBlank r.code = true := List.dropWhile_eq_nil_iff.mp empty
    have none : dropBlanks more.runes = [] := List.dropWhile_eq_nil_iff.mpr blank
    rw [dropBlanks_append front, empty, none]
  · have kept : dropBlanks (t.runes ++ more.runes) = dropBlanks t.runes ++ more.runes := by
      rw [dropBlanks, List.dropWhile_append, if_neg (by simpa [dropBlanks] using empty), dropBlanks]
    rw [kept, List.reverse_append, dropBlanks_append reversed]

/-- Runes are white space, a rest, and white space. -/
theorem exists_dropBlanks (rs : List Rune) :
    ∃ front back, rs = front ++ (dropBlanks (dropBlanks rs).reverse).reverse ++ back ∧
      (∀ r ∈ front, isBlank r.code = true) ∧ ∀ r ∈ back, isBlank r.code = true := by
  have rest : (dropBlanks rs).reverse.takeWhile (fun r => isBlank r.code) ++
      dropBlanks (dropBlanks rs).reverse = (dropBlanks rs).reverse := List.takeWhile_append_dropWhile
  refine ⟨rs.takeWhile (fun r => isBlank r.code),
    ((dropBlanks rs).reverse.takeWhile (fun r => isBlank r.code)).reverse, ?_, ?_, ?_⟩
  · rw [List.append_assoc, ← List.reverse_append, rest, List.reverse_reverse]
    exact List.takeWhile_append_dropWhile.symm
  · intro r member
    exact List.mem_takeWhile_imp (p := fun r : Rune => isBlank r.code) member
  · intro r member
    exact List.mem_takeWhile_imp (p := fun r : Rune => isBlank r.code) (List.mem_reverse.mp member)

/-- A text is what trimming leaves of it between two pieces of white space. -/
theorem exists_trim (t : Text) : ∃ l r, t = l ++ trim t ++ r ∧ AllBlank l ∧ AllBlank r := by
  obtain ⟨front, back, split, blank, blank'⟩ := exists_dropBlanks t.runes
  have read : front ⊆ t.runes ∧ back ⊆ t.runes := by
    rw [split]
    simp
  refine ⟨ofRunes front, ofRunes back, ?_,
    allBlank_ofRunes (fun r member => isCharacter_of_blank (read.1 member) (blank r member)) blank,
    allBlank_ofRunes (fun r member => isCharacter_of_blank (read.2 member) (blank' r member)) blank'⟩
  have whole := congrArg ofRunes split
  rw [ofRunes_runes, ofRunes, List.flatMap_append, List.flatMap_append] at whole
  exact whole

theorem trim_trim (t : Text) : trim (trim t) = trim t := by
  obtain ⟨l, r, whole, blank, blank'⟩ := exists_trim t
  calc trim (trim t)
    _ = trim (l ++ trim t ++ r) := by rw [trim_append_blank _ blank', trim_blank_append blank]
    _ = trim t := by rw [← whole]

theorem trim_eq_nil_iff {t : Text} : trim t = [] ↔ AllBlank t := by
  constructor
  · intro empty
    obtain ⟨l, r, whole, blank, blank'⟩ := exists_trim t
    rw [whole, empty, List.append_nil]
    exact blank.append blank'
  · intro blank
    exact (trim_append_blank [] blank).trans rfl

section Solid

variable {b : UInt8} (ascii : b.toNat < 0x80) (solid : isBlank b.toNat = false)

include ascii solid

theorem AllBlank.not_mem_of_solid {t : Text} (blank : AllBlank t) : b ∉ t := by
  intro member
  rw [blank.isBlank_of_mem member ascii] at solid
  cases solid

/-- Trimming stops at a byte of ASCII that is not white space. -/
theorem exists_trim_concat (t : Text) : ∃ l, t ++ [b] = l ++ trim (t ++ [b]) ∧ AllBlank l := by
  obtain ⟨l, r, whole, blank, blank'⟩ := exists_trim (t ++ [b])
  rcases List.eq_nil_or_concat r with rfl | ⟨r, c, rfl⟩
  · exact ⟨l, by rw [← List.append_nil (l ++ _)]; exact whole, blank⟩
  · rw [List.concat_eq_append] at whole blank'
    rw [← List.append_assoc] at whole
    obtain ⟨_, last⟩ := List.append_inj' whole rfl
    obtain rfl := (List.cons.inj last).1
    exact absurd (List.mem_append_right _ List.mem_cons_self) (blank'.not_mem_of_solid ascii solid)

end Solid

end TypeAtlas.Text
