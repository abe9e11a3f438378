import TypeAtlas.Proofs.Wit.Calculation

/-!
What every layout that fits into 32 bits has in common. Sizes are multiples of alignments, and members
stand as close together as their alignments allow. A member starts at the first multiple of its alignment
after the end of those before it, which says where each member is without going through the others; in
words of 32 bits this holds because the layout is exact.
-/

namespace TypeAtlas

theorem roundUp_lt_add (n : Nat) {align : Nat} (positive : 0 < align) : roundUp n align < n + align := by
  have most := Nat.div_mul_le_self (n + align - 1) align
  unfold roundUp
  omega

/-! ### Members by their place -/

namespace Extent

/-- A member starts where the ones before it end, rounded up. -/
theorem getElem?_offsetsFrom (start : Nat) (members : List Extent) (i : Nat) :
    (offsetsFrom start members)[i]? =
      members[i]?.map fun e => roundUp (endFrom start (members.take i)) e.align := by
  induction members generalizing start i with
  | nil => rfl
  | cons e rest ih =>
    cases i with
    | zero => rfl
    | succ i => exact ih _ i

theorem endFrom_take_succ (start : Nat) {members : List Extent} {i : Nat} {e : Extent}
    (place : members[i]? = some e) :
    endFrom start (members.take (i + 1)) = roundUp (endFrom start (members.take i)) e.align + e.size := by
  induction members generalizing start i with
  | nil => cases place
  | cons first rest ih =>
    cases i with
    | zero =>
      cases place
      rfl
    | succ i => exact ih _ place

theorem endFrom_take_le (start : Nat) {members : List Extent} (positive : ∀ e ∈ members, 0 < e.align)
    (i : Nat) : endFrom start (members.take i) ≤ endFrom start members := by
  induction members generalizing start i with
  | nil => exact Nat.le_of_eq (by rw [List.take_nil])
  | cons e rest ih =>
    cases i with
    | zero => exact le_endFrom start positive
    | succ i => exact ih _ (fun e later => positive e (List.mem_cons_of_mem _ later)) i

end Extent

/-! ### Looking up by key -/

theorem lookup_cons_eq {β : Type} (e : Text × β) (rest : List (Text × β)) (k : Text) :
    (e :: rest).lookup k = if k = e.1 then some e.2 else rest.lookup k := by
  by_cases same : k = e.1
  · rw [if_pos same, List.lookup_cons, same, beq_self_eq_true]
  · rw [if_neg same, List.lookup_cons, beq_false_of_ne same]

/-- A key that stands in front of one value only leads to that value. -/
theorem lookup_of_unique {β : Type} {pairs : List (Text × β)} {k : Text} {v : β}
    (member : (k, v) ∈ pairs) (unique : ∀ v', (k, v') ∈ pairs → v' = v) : pairs.lookup k = some v := by
  induction pairs with
  | nil => cases member
  | cons e rest ih =>
    rw [lookup_cons_eq]
    split
    · rename_i same
      subst same
      exact congrArg some (unique e.2 List.mem_cons_self)
    · rename_i different
      have later : (k, v) ∈ rest := (List.mem_cons.mp member).resolve_left fun head =>
        different (congrArg Prod.fst head)
      exact ih later fun w found => unique w (List.mem_cons_of_mem _ found)

/-! ### Placements -/

/-- The members of a placement lie one after another from its start on: each at a multiple of its
alignment, not before the end of the one in front of it, and less than its alignment after that. -/
structure Placement.Spaces (p : Placement) (members : List Placement) : Prop where
  length : p.offsets.length = members.length
  first : ∀ o, p.offsets[0]? = some o → o.toNat = 0
  aligned : ∀ (i : Nat) o m, p.offsets[i]? = some o → members[i]? = some m →
    o.toNat % m.align.toNat = 0
  next : ∀ (i : Nat) o m o' m', p.offsets[i]? = some o → members[i]? = some m →
    p.offsets[i + 1]? = some o' → members[i + 1]? = some m' →
      o.toNat + m.size.toNat ≤ o'.toNat ∧ o'.toNat - (o.toNat + m.size.toNat) < m'.align.toNat
  inside : ∀ (i : Nat) o m, p.offsets[i]? = some o → members[i]? = some m →
    o.toNat + m.size.toNat ≤ p.size.toNat

namespace Placement

section Exact

variable {p : Placement} {members : List Placement}
  (offsets : p.offsets.map UInt32.toNat = Extent.offsetsFrom 0 (members.map extent))

include offsets

theorem length_of_exact : p.offsets.length = members.length := by
  have same := congrArg List.length offsets
  rwa [List.length_map, Extent.length_offsetsFrom, List.length_map] at same

/-- Where a member of an exact layout starts and ends. -/
theorem place_of_exact {i : Nat} {o : UInt32} {m : Placement} (placed : p.offsets[i]? = some o)
    (member : members[i]? = some m) :
    o.toNat = roundUp (Extent.endFrom 0 ((members.map extent).take i)) m.align.toNat ∧
      Extent.endFrom 0 ((members.map extent).take (i + 1)) = o.toNat + m.size.toNat := by
  have found : (members.map extent)[i]? = some m.extent := by
    rw [List.getElem?_map, member, Option.map_some]
  have offset := Extent.getElem?_offsetsFrom 0 (members.map extent) i
  rw [← offsets, List.getElem?_map, placed, found, Option.map_some, Option.map_some,
    Option.some.injEq] at offset
  refine ⟨offset, ?_⟩
  rw [Extent.endFrom_take_succ 0 found, offset]
  rfl

theorem spaces_of_exact (alignments : ∀ m ∈ members, IsAlignment m.align)
    (size : p.size.toNat = (Extent.packed (members.map extent)).size) : p.Spaces members := by
  have positive : ∀ m ∈ members, 0 < m.align.toNat := fun m member => (alignments m member).range.1
  constructor
  case length => exact length_of_exact offsets
  case first =>
    intro o placed
    have bound := (List.getElem?_eq_some_iff.mp placed).1
    rw [length_of_exact offsets] at bound
    have member := List.getElem?_eq_getElem bound
    rw [(place_of_exact offsets placed member).1]
    exact Nat.le_zero.mp (roundUp_le (positive _ (List.mem_of_getElem? member)) (Nat.le_refl 0)
      (Nat.zero_mod _))
  case aligned =>
    intro i o m placed member
    rw [(place_of_exact offsets placed member).1]
    exact roundUp_mod_eq_zero _ _
  case next =>
    intro i o m o' m' placed member placed' member'
    have ends := (place_of_exact offsets placed member).2
    have starts := (place_of_exact offsets placed' member').1
    rw [ends] at starts
    have align := positive m' (List.mem_of_getElem? member')
    have after := le_roundUp (o.toNat + m.size.toNat) align
    have close := roundUp_lt_add (o.toNat + m.size.toNat) align
    omega
  case inside =>
    intro i o m placed member
    have extents : ∀ e ∈ members.map extent, 0 < e.align := by
      intro e found
      obtain ⟨m, member, rfl⟩ := List.mem_map.mp found
      exact positive m member
    calc o.toNat + m.size.toNat
      _ = Extent.endFrom 0 ((members.map extent).take (i + 1)) :=
        (place_of_exact offsets placed member).2.symm
      _ ≤ Extent.endFrom 0 (members.map extent) := Extent.endFrom_take_le 0 extents (i + 1)
      _ ≤ p.size.toNat := by
        rw [size]
        exact Extent.endFrom_le_packed _

end Exact

/-! ### Offsets by name -/

theorem lookup_map_setOffset (offsets : List (Text × UInt32)) (name name' : Text) (offset : UInt32) :
    (offsets.map fun e => if e.1 == name then (name, offset) else e).lookup name' =
      if name' = name then (if offsets.any (·.1 == name) then some offset else none)
      else offsets.lookup name' := by
  induction offsets with
  | nil => simp
  | cons e rest ih =>
    rw [List.map_cons, lookup_cons_eq, ih, lookup_cons_eq]
    by_cases taken : e.1 = name
    · by_cases same : name' = name <;> simp [taken, same]
    · have other : (e.1 == name) = false := beq_false_of_ne taken
      have others : (e :: rest).any (·.1 == name) = rest.any (·.1 == name) := by
        rw [List.any_cons, other, Bool.false_or]
      by_cases same : name' = name
      · rw [others]
        simp [taken, same, Ne.symm taken]
      · simp [taken, same]

/-- A name leads to the offset that was set for it, and every other name where it led before. -/
theorem lookup_setOffset (offsets : List (Text × UInt32)) (name name' : Text) (offset : UInt32) :
    (setOffset offsets name offset).lookup name' =
      if name' = name then some offset else offsets.lookup name' := by
  unfold setOffset
  split
  · rename_i taken
    rw [lookup_map_setOffset, taken]
    rfl
  · rename_i free
    rw [List.lookup_append, lookup_cons_eq]
    by_cases same : name' = name
    · have absent : offsets.lookup name' = none := by
        rw [List.lookup_eq_none_iff]
        intro e member
        rw [bne_iff_ne, same]
        exact fun found => free (List.any_eq_true.mpr ⟨e, member, beq_iff_eq.mpr found.symm⟩)
      rw [absent, if_pos same, if_pos same]
      rfl
    · simp [same]

/-- Of the offsets set for a name the last one counts. -/
theorem lookup_foldl_setOffset (pairs acc : List (Text × UInt32)) (name : Text) :
    (pairs.foldl (fun acc e => setOffset acc e.1 e.2) acc).lookup name =
      (pairs.reverse.lookup name).or (acc.lookup name) := by
  induction pairs generalizing acc with
  | nil => rfl
  | cons e rest ih =>
    rw [List.foldl_cons, ih, lookup_setOffset, List.reverse_cons, List.lookup_append, Option.or_assoc,
      lookup_cons_eq]
    by_cases same : name = e.1 <;> simp [same]

/-- A name that was given once leads to the offset at its place. -/
theorem lookup_withNames {p : Placement} {names : List Text} (length : names.length = p.offsets.length)
    {i : Nat} {name : Text} (place : names[i]? = some name)
    (unique : ∀ j, names[j]? = some name → j = i) :
    ∃ o, p.offsets[i]? = some o ∧
      ((names.zip p.offsets).foldl (fun acc e => setOffset acc e.1 e.2) []).lookup name = some o := by
  have bound : i < p.offsets.length := by
    rw [← length]
    exact (List.getElem?_eq_some_iff.mp place).1
  have offset := List.getElem?_eq_getElem bound
  refine ⟨p.offsets[i], offset, ?_⟩
  have last : (names.zip p.offsets).reverse.lookup name = some p.offsets[i] := by
    apply lookup_of_unique
    · rw [List.mem_reverse]
      exact List.mem_of_getElem? (List.getElem?_zip_eq_some.mpr ⟨place, offset⟩)
    · intro o found
      obtain ⟨j, placed⟩ := List.getElem?_of_mem (List.mem_reverse.mp found)
      obtain ⟨named, offset'⟩ := List.getElem?_zip_eq_some.mp placed
      obtain rfl := unique j named
      exact Option.some.inj (offset'.symm.trans offset)
  rw [lookup_foldl_setOffset, last, Option.some_or]

end Placement

namespace WitType

theorem extent_size_mod_align : (w : WitType) → w.extent.size % w.extent.align = 0
  | .alias _ target => by
    rw [extent]
    exact target.extent_size_mod_align
  | .record .. | .tuple .. => by
    simp only [extent, Extent.packed]
    exact roundUp_mod_eq_zero _ _
  | .variant _ cases => by
    simp only [extent]
    split
    · rfl
    · exact roundUp_mod_eq_zero _ _
  | .option .. | .result .. => by
    simp only [extent, Extent.tagged]
    exact roundUp_mod_eq_zero _ _
  | .enum _ cases => Nat.mod_self _
  | .flags _ count => by
    simp only [extent, Extent.flags]
    repeat' split
    all_goals simp
  | .primitive p => by cases p <;> rfl
  | .absent | .handle _ | .list .. => by simp [extent]

/-! ### Types behind aliases -/

theorem layout_underlying : (w : WitType) → w.underlying.layout = w.layout
  | .alias _ target => by
    rw [underlying, layout]
    exact target.layout_underlying
  | .absent | .primitive _ | .record .. | .tuple .. | .variant .. | .enum .. | .option .. | .result ..
  | .list .. | .flags .. | .handle _ => rfl

theorem extent_widen_underlying : (w : WitType) → w.underlying.widen.extent = w.widen.extent
  | .alias _ target => by
    rw [underlying, widen, extent]
    exact target.extent_widen_underlying
  | .absent | .primitive _ | .record .. | .tuple .. | .variant .. | .enum .. | .option .. | .result ..
  | .list .. | .flags .. | .handle _ => rfl

section Labels

variable {definition : Label → WitType}

theorem labelledBy_underlying : (w : WitType) → w.LabelledBy definition →
    w.underlying.LabelledBy definition
  | .alias _ target, labelled => by
    rw [LabelledBy] at labelled
    exact target.labelledBy_underlying labelled.2
  | .absent, labelled | .primitive _, labelled | .record .., labelled | .tuple .., labelled
  | .variant .., labelled | .enum .., labelled | .option .., labelled | .result .., labelled
  | .list .., labelled | .flags .., labelled | .handle _, labelled => labelled

theorem labelledBy_of_mem_fields {fields : List (WitField WitType)}
    (labelled : FieldsLabelledBy definition fields) : ∀ f ∈ fields, f.type.LabelledBy definition := by
  induction fields with
  | nil => exact fun _ member => nomatch member
  | cons f rest ih =>
    rw [FieldsLabelledBy] at labelled
    exact List.forall_mem_cons.mpr ⟨labelled.1, ih labelled.2⟩

theorem labelledBy_of_mem_members {members : List WitType}
    (labelled : MembersLabelledBy definition members) : ∀ w ∈ members, w.LabelledBy definition := by
  induction members with
  | nil => exact fun _ member => nomatch member
  | cons w rest ih =>
    rw [MembersLabelledBy] at labelled
    exact List.forall_mem_cons.mpr ⟨labelled.1, ih labelled.2⟩

theorem LabelledBy.part {w part : WitType} (labelled : w.LabelledBy definition) (member : part ∈ w.parts) :
    part.LabelledBy definition := by
  cases w with
  | record label fields =>
    rw [LabelledBy] at labelled
    obtain ⟨f, found, rfl⟩ := List.mem_map.mp member
    exact labelledBy_of_mem_fields labelled.2 f found
  | tuple label members =>
    rw [LabelledBy] at labelled
    exact labelledBy_of_mem_members labelled.2 part member
  | _ => cases member

end Labels

/-! ### Layouts that fit -/

theorem IsRow.spaces {w : WitType} (row : w.IsRow) (fits : w.widen.extent.size < 2 ^ 32) :
    w.layout.Spaces (w.parts.map WitType.layout) := by
  have extents := row.extents_exact fits fun part _ => part.layout_exact
  apply Placement.spaces_of_exact
  case offsets =>
    have offsets := (row.exact fits fun part _ => part.layout_exact).2
    rw [extents]
    exact offsets
  case alignments => exact w.parts_isAlignment
  case size =>
    have size := congrArg Extent.size (w.layout_exact fits)
    rwa [row.widen.extent, ← extents] at size

/-- A field with a name of its own has its offset under that name. -/
theorem lookup_fieldOffsets (label : Label) (fields : List (WitField WitType)) :
    ∃ offsets, (record label fields).layout.fieldOffsets = some offsets ∧
      ∀ (i : Nat) f, fields[i]? = some f →
        (∀ (j : Nat) g, fields[j]? = some g → g.name = f.name → j = i) →
          ∃ o, (record label fields).layout.offsets[i]? = some o ∧ offsets.lookup f.name = some o := by
  rw [layout_record]
  refine ⟨_, rfl, ?_⟩
  intro i f place unique
  refine Placement.lookup_withNames (p := .row (fields.map fun f => f.type.layout)) ?_ ?_ ?_
  · simp [Placement.row]
  · rw [List.getElem?_map, place, Option.map_some]
  · intro j found
    rw [List.getElem?_map] at found
    obtain ⟨g, place', same⟩ := Option.map_eq_some_iff.mp found
    exact unique j g place' same

end WitType

namespace Calculator

/-- What holds of every layout whose exact size is a number of 32 bits. It is aligned to 1, 2, 4 or 8
bytes and its size is a multiple of that. The members of a record or a tuple lie one after another, with no
more padding than their alignments ask for, and every field with a name of its own is found by it. -/
theorem members_spaced (definition : Label → WitType) {w : WitType} (labelled : w.LabelledBy definition)
    (fits : w.widen.extent.size < 2 ^ 32) {c : Calculator} (remembers : Remembers definition c) :
    let p := (calculate w c).1
    IsAlignment p.align ∧ p.size.toNat % p.align.toNat = 0 ∧
      (w.underlying.IsRow → p.Spaces (w.underlying.parts.map fun part => (calculate part []).1)) ∧
      ∀ label fields, w.underlying = .record label fields →
        ∃ offsets, p.fieldOffsets = some offsets ∧
          ∀ (i : Nat) f, fields[i]? = some f →
            (∀ (j : Nat) g, fields[j]? = some g → g.name = f.name → j = i) →
              ∃ o, p.offsets[i]? = some o ∧ offsets.lookup f.name = some o := by
  intro p
  have computed : p = w.layout := (calculate_gives w labelled c remembers).1
  rw [computed]
  refine ⟨w.layout_isAlignment, ?_, ?_, ?_⟩
  · have exact := w.layout_exact fits
    have multiple := w.widen.extent_size_mod_align
    rwa [← exact] at multiple
  · intro row
    have members : w.underlying.parts.map (fun part => (calculate part []).1) =
        w.underlying.parts.map WitType.layout :=
      List.map_congr_left fun part member =>
        calculate_eq_layout ((w.labelledBy_underlying labelled).part member)
    rw [members, ← w.layout_underlying]
    exact WitType.IsRow.spaces row (by rw [w.extent_widen_underlying]; exact fits)
  · intro label fields shape
    rw [← w.layout_underlying, shape]
    exact WitType.lookup_fieldOffsets label fields

def spanType : WitType :=
  .tuple [0, 1] [.primitive .u16, .flags [0, 1, 1] 33]

def noteType : WitType :=
  .record [0, 2] [⟨"mark", .primitive .u8⟩, ⟨"at", .primitive .u64⟩]

/-- Another name for a record with a tuple and a record in it, and with two fields of one name. -/
def logType : WitType :=
  .alias [] (.record [0] [⟨"id", .primitive .u8⟩, ⟨"span", spanType⟩, ⟨"note", noteType⟩,
    ⟨"id", .primitive .u16⟩])

theorem logType_spaced :
    (calculate logType []).1.offsets = [0, 8, 24, 40] ∧ (calculate logType []).1.size = 48 ∧
      (calculate logType []).1.Spaces [⟨1, 1, [], none⟩, ⟨16, 8, [0, 8], none⟩,
        ⟨16, 8, [0, 8], some [("mark", 0), ("at", 8)]⟩, ⟨2, 2, [], none⟩] ∧
      ∃ offsets, (calculate logType []).1.fieldOffsets = some offsets ∧
        offsets.lookup ("note" : Text) = some 24 := by
  let definition (label : Label) : WitType :=
    if label = [] then logType
    else if label = [0] then logType.underlying
    else if label = [0, 1] then spanType
    else if label = [0, 2] then noteType
    else .flags [0, 1, 1] 33
  have remembers : Remembers definition [] := fun _ _ found => nomatch found
  have labelled : logType.LabelledBy definition :=
    ⟨rfl, rfl, trivial, ⟨rfl, trivial, rfl, trivial⟩, ⟨rfl, trivial, trivial, trivial⟩, trivial, trivial⟩
  obtain ⟨_, _, spaces, named⟩ := members_spaced definition labelled (by decide) remembers
  obtain ⟨offsets, given, found⟩ := named _ _ rfl
  refine ⟨rfl, rfl, spaces (.inl ⟨_, _, rfl⟩), offsets, given, ?_⟩
  obtain ⟨o, offset, leads⟩ := found 2 ⟨"note", noteType⟩ rfl fun j g place same =>
    match j, place with
    | 0, rfl | 1, rfl | 3, rfl => absurd same (by decide)
    | 2, _ => rfl
  cases offset
  exact leads

end Calculator

end TypeAtlas
