import TypeAtlas.Proofs.Attribute.Reading
import TypeAtlas.Proofs.Text.Quoted

/-!
Writing attributes. A flag is written as its name, a value in quotes after an equals sign, and attributes are
joined with commas. Between the quotes no bare quotation mark stands, so the splitter stays inside up to the
closing one, and a list that was written is cut only where it was joined: it reads back as the same list,
whatever bytes the values hold.
-/

namespace TypeAtlas.Attribute

open Quoting

/-- An attribute as an entry of a list. -/
def write (a : Attribute) : Text :=
  if a.hasValue then a.name ++ 0x3D :: Text.quote a.value else a.name

/-- An attribute that an entry can express. -/
structure Writable (a : Attribute) : Prop where
  named : a.name ≠ []
  trimmed : a.name.trim = a.name
  noComma : comma ∉ a.name
  noEquals : 0x3D ∉ a.name
  noMark : Text.quoteMark ∉ a.name
  noBlank : 0x20 ∉ a.name ∧ 0x09 ∉ a.name
  bare : a.hasValue = false → a.value = []

/-! ### Inside the quotes -/

/-- The splitter stays inside quotes over the whole text. -/
structure Enclosed (t : Text) : Prop where
  uncut : Uncut .inside t
  stays : Quoting.inside.after t = .inside

namespace Enclosed

variable {s t : Text}

theorem nil : Enclosed [] :=
  ⟨uncut_of_not_mem List.not_mem_nil, rfl⟩

theorem append (enclosed : Enclosed s) (enclosed' : Enclosed t) : Enclosed (s ++ t) := by
  refine ⟨uncut_append_iff.mpr ⟨enclosed.uncut, ?_⟩, ?_⟩
  · rw [enclosed.stays]
    exact enclosed'.uncut
  · rw [after_append, enclosed.stays, enclosed'.stays]

theorem of_plain (plain : ∀ b ∈ t, b ≠ Text.quoteMark ∧ b ≠ Text.backslash) : Enclosed t := by
  induction t with
  | nil => exact nil
  | cons b rest ih =>
    obtain ⟨⟨mark, slash⟩, others⟩ := List.forall_mem_cons.mp plain
    have stays : Quoting.inside.step b = .inside := by simp [Quoting.step, mark, slash]
    refine ⟨uncut_cons_iff.mpr ⟨fun _ => by decide, ?_⟩, ?_⟩
    · rw [stays]
      exact (ih others).uncut
    · rw [after_cons, stays, (ih others).stays]

/-- A backslash keeps the splitter inside whatever follows it. -/
theorem of_escape (c : UInt8) (enclosed : Enclosed t) : Enclosed (Text.backslash :: c :: t) := by
  refine ⟨?_, enclosed.stays⟩
  rw [uncut_cons_iff, uncut_cons_iff]
  exact ⟨fun _ => by decide, fun _ => by decide, enclosed.uncut⟩

theorem of_stands {r : Text.Rune} (stands : Text.Stands r t) : Enclosed t := by
  cases stands with
  | @itself code _ character mark slash _ =>
    refine of_plain fun b member => ⟨?_, ?_⟩
    · rintro rfl
      exact mark (character.of_ascii_mem member (by decide)).2
    · rintro rfl
      exact slash (character.of_ascii_mem member (by decide)).2
  | escaped _ plain => exact of_escape _ (of_plain plain)

theorem flatMap {rs : List Text.Rune} {form : Text.Rune → Text} (stands : ∀ r ∈ rs, Text.Stands r (form r)) :
    Enclosed (rs.flatMap form) := by
  induction rs with
  | nil => exact nil
  | cons r rest ih =>
    obtain ⟨first, others⟩ := List.forall_mem_cons.mp stands
    exact (of_stands first).append (ih others)

end Enclosed

/-! ### Outside the quotes -/

/-- The splitter does not cut the text, and it is outside quotes again at the end. -/
structure Whole (t : Text) : Prop where
  uncut : Uncut .outside t
  out : Quoting.outside.after t = .outside

namespace Whole

variable {s t : Text}

theorem append (whole : Whole s) (whole' : Whole t) : Whole (s ++ t) := by
  refine ⟨uncut_append_iff.mpr ⟨whole.uncut, ?_⟩, ?_⟩
  · rw [whole.out]
    exact whole'.uncut
  · rw [after_append, whole.out, whole'.out]

theorem of_plain (noComma : comma ∉ t) (noMark : Text.quoteMark ∉ t) : Whole t :=
  ⟨uncut_of_not_mem noComma, (after_eq_outside_iff noMark).mpr rfl⟩

theorem of_enclosed (enclosed : Enclosed t) : Whole (Text.quoteMark :: t ++ [Text.quoteMark]) := by
  have opened : Quoting.outside.step Text.quoteMark = .inside := rfl
  refine ⟨?_, ?_⟩
  · rw [List.cons_append, uncut_cons_iff, opened, uncut_append_iff]
    exact ⟨fun same => absurd same (by decide), enclosed.uncut, uncut_of_not_mem (by decide)⟩
  · rw [List.cons_append, after_cons, opened, after_append, enclosed.stays]
    rfl

theorem quote (t : Text) : Whole (Text.quote t) :=
  of_enclosed (.flatMap fun _ => Text.stands_of_mem_runes rfl)

end Whole

/-! ### One attribute -/

theorem trim_quote (t : Text) : (Text.quote t).trim = Text.quote t := by
  obtain ⟨l, whole, blank⟩ := Text.exists_trim_concat (b := Text.quoteMark) (by decide) (by decide)
    (Text.quoteMark :: t.runes.flatMap Text.escape)
  rw [← Text.quote] at whole
  cases l with
  | nil => exact whole.symm
  | cons b l =>
    obtain ⟨rfl, _⟩ := List.cons.inj whole
    exact absurd List.mem_cons_self (blank.not_mem_of_solid (by decide) (by decide))

namespace Writable

variable {a : Attribute} (writable : a.Writable)

include writable

theorem isName : IsName a.name := by
  have differs {b c : UInt8} (member : b ∈ a.name) (absent : c ∉ a.name) : b ≠ c := by
    rintro rfl
    exact absent member
  refine ⟨writable.named, fun b member => ?_⟩
  simp [forbiddenInName, differs member writable.noMark, differs member writable.noBlank.1,
    differs member writable.noBlank.2]

theorem whole : Whole a.write := by
  have name : Whole a.name := .of_plain writable.noComma writable.noMark
  unfold write
  split
  · have equals : Whole [0x3D] := .of_plain (by decide) (by decide)
    exact name.append (equals.append (.quote a.value))
  · exact name

theorem reads : Reads ⟨a.write, true⟩ a := by
  have noEquals := writable.noEquals
  obtain ⟨name, value, hasValue⟩ := a
  cases hasValue with
  | true =>
    have split : Text.cut 0x3D (valued name value).write = (name, some (Text.quote value)) :=
      Text.cut_append noEquals _
    have text : (Entry.mk (valued name value).write true).nameText = name := by
      rw [Entry.nameText, split]
      exact writable.trimmed
    have given : (Entry.mk (valued name value).write true).valueText? = some (Text.quote value) := by
      rw [Entry.valueText?, split]
      exact congrArg some (trim_quote value)
    have read := Reads.valued rfl (by rw [text]; exact writable.isName) given
      (.quoted rfl (Text.unquote?_quote value))
    rwa [text] at read
  | false =>
    obtain rfl : value = [] := writable.bare rfl
    have split : Text.cut 0x3D (flag name).write = (name, none) := Text.cut_of_not_mem noEquals
    have text : (Entry.mk (flag name).write true).nameText = name := by
      rw [Entry.nameText, split]
      exact writable.trimmed
    have bare : (Entry.mk (flag name).write true).valueText? = none := by
      rw [Entry.valueText?, split]
      rfl
    have read := Reads.flag rfl (by rw [text]; exact writable.isName) bare
    rwa [text] at read

end Writable

/-! ### A list of attributes -/

/-- A list is cut where it was joined. -/
theorem pieces_join {texts : List Text} (nonempty : texts ≠ []) (whole : ∀ t ∈ texts, Whole t) :
    pieces .outside (Text.join [comma] texts) = texts.map (⟨·, true⟩) := by
  fun_induction Text.join [comma] texts with
  | case1 => exact absurd rfl nonempty
  | case2 t =>
    have only := whole t List.mem_cons_self
    rw [pieces_uncut only.uncut, only.out]
    rfl
  | case3 t rest more ih =>
    obtain ⟨first, others⟩ := List.forall_mem_cons.mp whole
    rw [List.append_assoc, List.singleton_append, pieces_cut first.uncut first.out, ih more others, List.map_cons]

/-- A list of attributes that was written reads back. -/
theorem parse_join_write {attrs : List Attribute} (writable : ∀ a ∈ attrs, a.Writable) :
    parse (Text.join [comma] (attrs.map write)) = .ok attrs := by
  by_cases empty : attrs = []
  · subst empty
    rfl
  · have each : ∀ a ∈ attrs, Reads ⟨a.write, true⟩ a := fun a member => (writable a member).reads
    have split : pieces .outside (Text.join [comma] (attrs.map write)) = (attrs.map write).map (⟨·, true⟩) :=
      pieces_join (by simpa using empty) (by simpa using fun a member => (writable a member).whole)
    rw [parse_eq, split, List.map_map, withoutBlankEnd_eq_self]
    · exact mapM_map_eq_ok fun a member => ofEntry_eq_ok_iff.mpr (each a member)
    · intro e last
      obtain ⟨a, member, rfl⟩ := List.mem_map.mp (List.mem_of_getLast? last)
      exact (each a member).not_blank

/-- A flag, a value with every kind of mark in it, and a value outside UTF-8. -/
theorem parse_join_write_marks :
    parse (Text.join [comma]
        ([flag "skip", valued "doc" " a, \"b\"\\,=c ", valued "raw" [0xFF, 0x2C, 0x22]].map write)) =
      .ok [flag "skip", valued "doc" " a, \"b\"\\,=c ", valued "raw" [0xFF, 0x2C, 0x22]] := by
  refine parse_join_write fun a member => ?_
  simp only [List.mem_cons, List.not_mem_nil, or_false] at member
  rcases member with rfl | rfl | rfl
  · exact ⟨by decide, by decide, by decide, by decide, by decide, by decide, fun _ => rfl⟩
  · exact ⟨by decide, by decide, by decide, by decide, by decide, by decide, nofun⟩
  · exact ⟨by decide, by decide, by decide, by decide, by decide, by decide, nofun⟩

end TypeAtlas.Attribute
