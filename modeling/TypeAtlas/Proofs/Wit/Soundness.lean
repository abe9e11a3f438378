import TypeAtlas.Proofs.Wit.Coverage
import TypeAtlas.Proofs.Wit.Spacing

/-!
Whether an accepted struct lies in memory as its record does. Inside a field it does, to the last primitive:
no sum on the way wraps. The offset of a field is the exact one modulo 2 ^ 32. Nothing can begin behind the
last address but at it, so a field whose exact offset is no number of 32 bits seems to begin where the record
begins, and there the first field with bytes begins already. So the exact offsets are those in memory exactly
if no two fields with bytes begin together, which the check does not ask.
-/

namespace TypeAtlas

/-! ### Pieces of a row -/

/-- Pieces with bytes begin one after the other. -/
theorem InOrder.starts_lt {start limit : Nat} {pieces : List (Nat × Nat)}
    (ordered : InOrder start limit pieces) {i j : Nat} {first second : Nat × Nat} (before : i < j)
    (found : pieces[i]? = some first) (later : pieces[j]? = some second) (bytes : 0 < first.2) :
    first.1 < second.1 := by
  induction pieces generalizing start i j with
  | nil => cases found
  | cons piece rest ih =>
    obtain ⟨j, rfl⟩ := Nat.exists_eq_succ_of_ne_zero (Nat.ne_of_gt (Nat.zero_lt_of_lt before))
    rw [List.getElem?_cons_succ] at later
    cases i with
    | zero =>
      cases found
      have after := (ordered.2.bounds (List.mem_of_getElem? later)).1
      omega
    | succ i => exact ih ordered.2 (Nat.lt_of_succ_lt_succ before) found later

namespace Extent

/-- The members with their offsets and sizes, placed from `start` on. -/
def piecesFrom (start : Nat) (members : List Extent) : List (Nat × Nat) :=
  (offsetsFrom start members).zip (members.map size)

theorem getElem?_piecesFrom {start : Nat} {members : List Extent} {i offset : Nat} {e : Extent}
    (placed : (offsetsFrom start members)[i]? = some offset) (found : members[i]? = some e) :
    (piecesFrom start members)[i]? = some (offset, e.size) := by
  rw [piecesFrom, List.getElem?_zip_eq_some, List.getElem?_map, found]
  exact ⟨placed, rfl⟩

/-- Members that each end at `limit` at the latest end there together. -/
theorem endFrom_le {start limit : Nat} {members : List Extent} (below : start ≤ limit)
    (bounded : ∀ x ∈ piecesFrom start members, x.1 + x.2 ≤ limit) : endFrom start members ≤ limit := by
  induction members generalizing start with
  | nil => exact below
  | cons e rest ih =>
    obtain ⟨first, others⟩ := List.forall_mem_cons.mp bounded
    exact ih first others

/-- Up to a multiple of all alignments, members with bytes begin before it unless one begins right there. -/
theorem starts_before {start limit : Nat} {members : List Extent}
    (divides : ∀ e ∈ members, 0 < e.align ∧ limit % e.align = 0) (below : start ≤ limit)
    (kept : ∀ x ∈ piecesFrom start members, 0 < x.2 → x.1 ≠ limit ∧ (x.1 < limit → x.1 + x.2 ≤ limit)) :
    ∀ x ∈ piecesFrom start members, 0 < x.2 → x.1 < limit := by
  induction members generalizing start with
  | nil => nofun
  | cons e rest ih =>
    obtain ⟨⟨positive, multiple⟩, others⟩ := List.forall_mem_cons.mp divides
    obtain ⟨first, later⟩ := List.forall_mem_cons.mp kept
    have place : roundUp start e.align ≤ limit := roundUp_le positive below multiple
    have early (bytes : 0 < e.size) : roundUp start e.align < limit :=
      Nat.lt_of_le_of_ne place (first bytes).1
    have stop : roundUp start e.align + e.size ≤ limit := by
      rcases Nat.eq_zero_or_pos e.size with none | bytes
      · omega
      · exact (first bytes).2 (early bytes)
    exact List.forall_mem_cons.mpr ⟨early, ih others stop later⟩

theorem roundUp_zero {align : Nat} (positive : 0 < align) : roundUp 0 align = 0 :=
  Nat.le_zero.mp (roundUp_le positive (Nat.le_refl 0) (Nat.zero_mod align))

/-- The first member with bytes begins where the row does. -/
theorem exists_start {members : List Extent} (positive : ∀ e ∈ members, 0 < e.align) {x : Nat × Nat}
    (member : x ∈ piecesFrom 0 members) (bytes : 0 < x.2) :
    ∃ y ∈ piecesFrom 0 members, 0 < y.2 ∧ y.1 = 0 := by
  induction members with
  | nil => cases member
  | cons e rest ih =>
    obtain ⟨first, others⟩ := List.forall_mem_cons.mp positive
    have pieces : piecesFrom 0 (e :: rest) = (0, e.size) :: piecesFrom e.size rest := by
      simp [piecesFrom, offsetsFrom, roundUp_zero first]
    rw [pieces] at member ⊢
    rcases Nat.eq_zero_or_pos e.size with none | some
    · rw [none] at member ⊢
      rcases List.mem_cons.mp member with rfl | later
      · exact absurd bytes (Nat.lt_irrefl 0)
      · obtain ⟨y, inside, found⟩ := ih others later
        exact ⟨y, List.mem_cons_of_mem _ inside, found⟩
    · exact ⟨_, List.mem_cons_self, some, rfl⟩

theorem endFrom_of_empty {members : List Extent} (positive : ∀ e ∈ members, 0 < e.align)
    (empty : ∀ e ∈ members, e.size = 0) : endFrom 0 members = 0 := by
  induction members with
  | nil => rfl
  | cons e rest ih =>
    obtain ⟨first, others⟩ := List.forall_mem_cons.mp positive
    obtain ⟨none, rest_empty⟩ := List.forall_mem_cons.mp empty
    rw [endFrom, roundUp_zero first, none]
    exact ih others rest_empty

end Extent

/-- An alignment divides the number of all addresses. -/
theorem IsAlignment.dvd_word {align : UInt32} (alignment : IsAlignment align) : 2 ^ 32 % align.toNat = 0 := by
  rcases alignment with rfl | rfl | rfl | rfl <;> rfl

/-- The members with their offsets and sizes in exact arithmetic. -/
def WitType.exactPieces (w : WitType) : List (Nat × Nat) :=
  Extent.piecesFrom 0 (w.parts.map WitType.extent)

/-- In exact arithmetic a member begins at a multiple of its alignment. -/
theorem WitType.exactOffset_aligned {w part : WitType} {i o : Nat} (placed : w.exactOffsets[i]? = some o)
    (found : w.parts[i]? = some part) : o % part.extent.align = 0 := by
  rw [exactOffsets, Extent.getElem?_offsetsFrom, List.getElem?_map, found, Option.map_some, Option.map_some,
    Option.some.injEq] at placed
  rw [← placed]
  exact roundUp_mod_eq_zero _ _

theorem WitType.parts_align_pos (w : WitType) : ∀ e ∈ w.parts.map WitType.extent, 0 < e.align := by
  intro e member
  obtain ⟨part, _, rfl⟩ := List.mem_map.mp member
  exact part.extent_align_pos

namespace Layout

variable {t : TypeRep} {offset : UInt64} {witOffset : UInt32} {w : WitType}

/-! ### Types that agree -/

theorem Agrees.align (agrees : Agrees t offset witOffset w) (made : WitType.IsCounterpart t w) :
    w.extent.align = w.layout.align.toNat :=
  (congrArg Extent.align (agrees.exact made).1).symm

theorem Agrees.size (agrees : Agrees t offset witOffset w) (made : WitType.IsCounterpart t w) :
    w.extent.size = t.size :=
  (congrArg Extent.size (agrees.exact made).1).symm.trans agrees.whole.2

/-- A primitive that agrees is as large as it is aligned: a text would have another size in memory. -/
theorem Agrees.primitive_size {q : WitPrimitive} (agrees : Agrees t offset witOffset (.primitive q))
    (made : WitType.IsCounterpart t (.primitive q)) : q.extent.size = q.extent.align := by
  have size := agrees.whole.2
  cases made.shape with
  | primitive type same wit =>
    cases same
    rw [← TypeRep.size_underlying, type] at size
    cases q with
    | string =>
      rename_i p
      cases p <;> simp [Primitive.wit?] at wit
      cases size
    | _ => rfl
  | array _ same => cases same
  | struct _ same => cases same

/-- A part of a row that agrees: where it is placed exactly, and that it agrees there. -/
theorem Agrees.descend_exact (agrees : Agrees t offset witOffset w) (made : WitType.IsCounterpart t w)
    {i o : Nat} {w' : WitType} (placed : w.exactOffsets[i]? = some o) (found : w.parts[i]? = some w') :
    ∃ part wo, t.parts[i]? = some (part, o) ∧ (offset + UInt64.ofNat o).toNat = offset.toNat + o ∧
      o % w'.extent.align = 0 ∧ WitType.IsCounterpart part w' ∧
      Agrees part (offset + UInt64.ofNat o) (witOffset + wo) w' := by
  have position : i < t.parts.length := by
    rw [← made.length_parts]
    exact (List.getElem?_eq_some_iff.mp found).1
  obtain ⟨⟨part, o'⟩, member⟩ : ∃ x, t.parts[i]? = some x := ⟨_, List.getElem?_eq_getElem position⟩
  obtain ⟨w'', wo, counterpart, place, same, made', agrees'⟩ := agrees.descend made member
  obtain rfl : w' = w'' := Option.some.inj (found.symm.trans counterpart)
  have exact : w.exactOffsets[i]? = some o' := by
    rw [← (agrees.exact made).2, WitType.laidOffsets, List.getElem?_map, place, Option.map_some, same]
  obtain rfl : o = o' := Option.some.inj (placed.symm.trans exact)
  refine ⟨part, wo, member, ?_, WitType.exactOffset_aligned placed found, made', agrees'⟩
  have start := agrees.whole.1
  have below := witOffset.toNat_lt
  have small := wo.toNat_lt
  rw [UInt64.toNat_add, UInt64.toNat_ofNat_of_lt' (show o < 2 ^ 64 by omega)]
  exact Nat.mod_eq_of_lt (by omega)

/-- The alignment of a row that agrees is a multiple of that of a part that agrees. -/
theorem Agrees.part_align_dvd {part : TypeRep} {offset' : UInt64} {witOffset' : UInt32} {w' : WitType}
    (agrees : Agrees t offset witOffset w) (made : WitType.IsCounterpart t w) (row : w.IsRow)
    (agrees' : Agrees part offset' witOffset' w') (made' : WitType.IsCounterpart part w')
    (inside : w' ∈ w.parts) : w'.extent.align ∣ w.extent.align := by
  have most : w'.extent.align ≤ w.extent.align := by
    rw [row.extent]
    exact Extent.le_maxAlign (List.mem_map_of_mem inside)
  rw [agrees.align made, agrees'.align made'] at most ⊢
  exact w'.layout_isAlignment.dvd_of_le w.layout_isAlignment most

/-- What agrees and is aligned ends where the addresses end at the latest. -/
theorem Agrees.end_le {t : TypeRep} {offset : UInt64} {witOffset : UInt32} {w : WitType}
    (agrees : Agrees t offset witOffset w) (made : WitType.IsCounterpart t w)
    (aligned : offset.toNat % w.extent.align = 0) : offset.toNat + t.size ≤ 2 ^ 32 := by
  have start := agrees.whole.1
  have below := witOffset.toNat_lt
  have size := agrees.size made
  have multiple := Nat.dvd_of_mod_eq_zero aligned
  have word : w.extent.align ∣ 2 ^ 32 := by
    rw [agrees.align made]
    exact Nat.dvd_of_mod_eq_zero w.layout_isAlignment.dvd_word
  have room := Nat.mod_eq_zero_of_dvd (Nat.dvd_sub word multiple)
  rcases made.isRow with ⟨q, rfl⟩ | row
  · have fits := Nat.le_of_dvd (by omega) (Nat.dvd_of_mod_eq_zero room)
    have same := agrees.primitive_size made
    simp only [WitType.extent] at size fits
    omega
  · have pieces : ∀ x ∈ w.exactPieces, x.1 + x.2 ≤ 2 ^ 32 - offset.toNat := by
      intro x member
      obtain ⟨i, found⟩ := List.getElem?_of_mem member
      obtain ⟨placed, sized⟩ := List.getElem?_zip_eq_some.mp found
      rw [List.map_map, List.getElem?_map, Option.map_eq_some_iff] at sized
      obtain ⟨w', counterpart, sized⟩ := sized
      obtain ⟨part, wo, _, sum, even, made', agrees'⟩ := agrees.descend_exact made placed counterpart
      have inside := List.mem_of_getElem? counterpart
      have divides := agrees.part_align_dvd made row agrees' made' inside
      have aligned' : (offset + UInt64.ofNat x.1).toNat % w'.extent.align = 0 := by
        rw [sum]
        exact Nat.mod_eq_zero_of_dvd
          (Nat.dvd_add (Nat.dvd_trans divides multiple) (Nat.dvd_of_mod_eq_zero even))
      have smaller := WitType.sizeOf_part inside
      have last := Agrees.end_le agrees' made' aligned'
      rw [sum, ← agrees'.size made'] at last
      rw [← sized, Function.comp_apply]
      omega
    simp only [row.extent, Extent.packed] at size room
    have whole := roundUp_le (Extent.maxAlign_pos _) (Extent.endFrom_le (Nat.zero_le _) pieces) room
    omega
termination_by sizeOf w

/-- A type with bytes that agrees has a primitive in it. -/
theorem Agrees.exists_leaf {t : TypeRep} {offset : UInt64} {witOffset : UInt32} {w : WitType}
    (agrees : Agrees t offset witOffset w) (made : WitType.IsCounterpart t w) (bytes : 0 < t.size) :
    ∃ path n p, t.leaf? path = some (n, p) := by
  rcases made.isRow with ⟨q, rfl⟩ | row
  · cases made.shape with
    | @primitive p _ type _ _ => exact ⟨[], 0, p, by simp only [TypeRep.leaf?, type]⟩
    | array _ same => cases same
    | struct _ same => cases same
  · obtain ⟨e, member, filled⟩ : ∃ e ∈ w.parts.map WitType.extent, 0 < e.size := by
      by_contra none
      have empty : ∀ e ∈ w.parts.map WitType.extent, e.size = 0 := by
        intro e member
        exact Nat.le_zero.mp (Nat.not_lt.mp fun bytes => none ⟨e, member, bytes⟩)
      have size := agrees.size made
      simp only [row.extent, Extent.packed, Extent.endFrom_of_empty w.parts_align_pos empty,
        Extent.roundUp_zero (Extent.maxAlign_pos _)] at size
      omega
    obtain ⟨w', inside, rfl⟩ := List.mem_map.mp member
    obtain ⟨i, found⟩ := List.getElem?_of_mem inside
    obtain ⟨o, placed⟩ : ∃ o, w.exactOffsets[i]? = some o := by
      rw [WitType.exactOffsets, Extent.getElem?_offsetsFrom, List.getElem?_map, found]
      exact ⟨_, rfl⟩
    obtain ⟨part, wo, piece, _, _, made', agrees'⟩ := agrees.descend_exact made placed found
    have smaller := WitType.sizeOf_part inside
    obtain ⟨path, n, p, leaf⟩ := Agrees.exists_leaf agrees' made' (agrees'.size made' ▸ filled)
    exact ⟨i :: path, o + n, p, by simp only [TypeRep.leaf?, piece, leaf, Option.map_some]⟩
termination_by sizeOf w

/-- A primitive lies inside the type that it is in. -/
theorem leaf_inside {t : TypeRep} {path : List Nat} {n : Nat} {p : Primitive}
    (leaf : t.leaf? path = some (n, p)) : n + p.extent.size ≤ t.size := by
  induction path generalizing t n with
  | nil =>
    simp only [TypeRep.leaf?] at leaf
    split at leaf
    · rename_i type
      cases leaf
      rw [← TypeRep.size_underlying, type, Nat.zero_add]
      exact Nat.le_refl _
    · cases leaf
  | cons i path ih =>
    simp only [TypeRep.leaf?] at leaf
    split at leaf
    · rename_i part o found
      obtain ⟨⟨inner, _⟩, deeper, sum⟩ := Option.map_eq_some_iff.mp leaf
      cases sum
      have last := ih deeper
      have inside := TypeRep.part_inside found
      omega
    · cases leaf

theorem bytes_of_leaf {t : TypeRep} {path : List Nat} {n : Nat} {p : Primitive}
    (leaf : t.leaf? path = some (n, p)) : 0 < t.size := by
  have bytes : 0 < p.extent.size := by cases p <;> decide
  have inside := leaf_inside leaf
  omega

/-! ### Fields and parts of the record -/

/-- The visible field `f` of type `t` is part `i` of the record: `w` is its counterpart, with which it
agrees where it stands, and `e` is the exact offset. -/
structure Places (fields : List (WitField WitType)) (i : Nat) (f : FieldInfo) (t : TypeRep) (w : WitType)
    (e : Nat) : Prop where
  part : (WitType.record [] fields).parts[i]? = some w
  counterpart : WitType.IsCounterpart t w
  agrees : ∃ witOffset, Agrees t f.offset witOffset w
  laid : (WitType.record [] fields).laidOffsets[i]? = some f.offset.toNat
  placed : (WitType.record [] fields).exactOffsets[i]? = some e
  wrapped : f.offset.toNat = e % 2 ^ 32

namespace Places

variable {fields : List (WitField WitType)} {i e : Nat} {f : FieldInfo}

theorem size (places : Places fields i f t w e) : w.extent.size = t.size := by
  obtain ⟨witOffset, agrees⟩ := places.agrees
  exact agrees.size places.counterpart

theorem piece (places : Places fields i f t w e) :
    (WitType.record [] fields).exactPieces[i]? = some (e, t.size) := by
  rw [← places.size]
  exact Extent.getElem?_piecesFrom places.placed (by rw [List.getElem?_map, places.part, Option.map_some])

/-- In exact arithmetic a primitive inside a field has the offset of the part and its own one in memory. -/
theorem leaf (places : Places fields i f t w e) {path : List Nat} {n : Nat} {p : Primitive}
    (leaf : t.leaf? path = some (n, p)) :
    ∃ q, (WitType.record [] fields).leafBy WitType.exactOffsets (i :: path) = some (e + n, q) ∧
      q.placement.size.toNat = p.extent.size ∧ p ≠ .string := by
  obtain ⟨witOffset, agrees⟩ := places.agrees
  obtain ⟨q, _, exact, wit, size⟩ := agrees.leaf places.counterpart leaf
  refine ⟨q, by simp only [WitType.leafBy, places.part, places.placed, exact, Option.map_some], size, ?_⟩
  rintro rfl
  cases wit
  exact absurd size (by decide)

theorem exists_leaf (places : Places fields i f t w e) (bytes : 0 < t.size) :
    ∃ path n p, t.leaf? path = some (n, p) := by
  obtain ⟨witOffset, agrees⟩ := places.agrees
  exact agrees.exists_leaf places.counterpart bytes

/-- A field at its exact offset ends where the addresses end at the latest. -/
theorem end_le (places : Places fields i f t w e) (before : e < 2 ^ 32) : e + t.size ≤ 2 ^ 32 := by
  obtain ⟨witOffset, agrees⟩ := places.agrees
  have same := places.wrapped
  rw [Nat.mod_eq_of_lt before] at same
  have aligned : f.offset.toNat % w.extent.align = 0 := by
    rw [same]
    exact WitType.exactOffset_aligned places.placed places.part
  have stop := agrees.end_le places.counterpart aligned
  rwa [same] at stop

end Places

/-- In exact arithmetic the record has every primitive that a path leads to from a visible field where that
lies in memory and as large as it is there, and none of them is a text. -/
def LiesAlike (s : ErasedStruct) (w : WitType) : Prop :=
  ∀ (i : Nat) f t path n p, s.fields[i]? = some f → f.type = some t → t.leaf? path = some (n, p) →
    ∃ q, w.leafBy WitType.exactOffsets (i :: path) = some (f.offset.toNat + n, q) ∧
      q.placement.size.toNat = p.extent.size ∧ p ≠ .string

/-- Two visible fields with bytes begin at one place in memory. -/
def BeginTogether (s : ErasedStruct) : Prop :=
  ∃ (i j : Nat) (f g : FieldInfo) (t u : TypeRep), i ≠ j ∧ s.fields[i]? = some f ∧
    s.fields[j]? = some g ∧ f.type = some t ∧ g.type = some u ∧ 0 < t.size ∧ 0 < u.size ∧
    f.offset = g.offset

/-! ### Accepted structs -/

section Accepted

variable {s : ErasedStruct} {fields : List (WitField WitType)}
  (made : WitType.recordFields s = .ok fields)
  (nothing : structMismatches s.name s.fields (WitType.record [] fields).layout.offsets fields = [])

include made nothing

theorem accepted_place {i : Nat} {f : FieldInfo} (found : s.fields[i]? = some f) :
    ∃ t w e, f.type = some t ∧ Places fields i f t w e := by
  obtain ⟨t, w, wo, type, field, place, counterpart, agrees⟩ := accepted_field made nothing found
  have row : (WitType.record [] fields).IsRow := .inl ⟨_, _, rfl⟩
  have part : (WitType.record [] fields).parts[i]? = some w.type := by
    rw [WitType.parts, List.getElem?_map, field, Option.map_some]
  have laid : (WitType.record [] fields).laidOffsets[i]? = some f.offset.toNat := by
    rw [WitType.laidOffsets, List.getElem?_map, place, Option.map_some, agrees.whole.1]
  have offsets := (Placement.row_mod (WitType.record [] fields).parts_isAlignment).2
  rw [accepted_extents made nothing, ← row.layout.1, ← WitType.laidOffsets, ← WitType.exactOffsets] at offsets
  have exact := laid
  rw [offsets, List.getElem?_map, Option.map_eq_some_iff] at exact
  obtain ⟨e, placed, same⟩ := exact
  exact ⟨t, w.type, e, type, part, counterpart, ⟨wo, agrees⟩, laid, placed, same.symm⟩

theorem accepted_place_of_type {i : Nat} {f : FieldInfo} {t : TypeRep} (found : s.fields[i]? = some f)
    (type : f.type = some t) : ∃ w e, Places fields i f t w e := by
  obtain ⟨t', w, e, type', places⟩ := accepted_place made nothing found
  obtain rfl : t = t' := Option.some.inj (type.symm.trans type')
  exact ⟨w, e, places⟩

/-- Every piece of the record is that of a visible field, with its size in memory. -/
theorem accepted_field_of_piece {i : Nat} {x : Nat × Nat}
    (piece : (WitType.record [] fields).exactPieces[i]? = some x) :
    ∃ f t w, s.fields[i]? = some f ∧ f.type = some t ∧ t.size = x.2 ∧ Places fields i f t w x.1 := by
  have position := (List.getElem?_eq_some_iff.mp (List.getElem?_zip_eq_some.mp piece).2).1
  have found := List.getElem?_eq_getElem (l := s.fields) (i := i)
    (by simpa [WitType.parts, (WitType.recordFields_members made).1] using position)
  obtain ⟨t, w, e, type, places⟩ := accepted_place made nothing found
  obtain rfl : x = (e, t.size) := Option.some.inj (piece.symm.trans places.piece)
  exact ⟨_, t, w, found, type, rfl, places⟩

/-- A struct lies as its record does if the parts with bytes begin at numbers of 32 bits. -/
theorem liesAlike_of_starts
    (starts : ∀ x ∈ (WitType.record [] fields).exactPieces, 0 < x.2 → x.1 < 2 ^ 32) :
    LiesAlike s (.record [] fields) := by
  intro i f t path n p found type leaf
  obtain ⟨w, e, places⟩ := accepted_place_of_type made nothing found type
  have small : e < 2 ^ 32 := starts _ (List.mem_of_getElem? places.piece) (bytes_of_leaf leaf)
  rw [places.wrapped, Nat.mod_eq_of_lt small]
  exact places.leaf leaf

/-- In a record of less than 2 ^ 32 bytes all parts begin at numbers of 32 bits. -/
theorem liesAlike_of_fits (fits : (WitType.record [] fields).extent.size < 2 ^ 32) :
    LiesAlike s (.record [] fields) := by
  apply liesAlike_of_starts made nothing
  intro x member _
  have row : (WitType.record [] fields).IsRow := .inl ⟨_, _, rfl⟩
  have ordered := Extent.offsetsFrom_inOrder 0 (WitType.record [] fields).parts_align_pos
  have last := (ordered.bounds member).2
  have whole := Extent.endFrom_le_packed ((WitType.record [] fields).parts.map WitType.extent)
  rw [row.extent] at fits
  omega

/-- Where the struct lies as its record does, a field with bytes stands at its exact offset. -/
theorem LiesAlike.piece (alike : LiesAlike s (.record [] fields)) {i : Nat} {f : FieldInfo} {t : TypeRep}
    (found : s.fields[i]? = some f) (type : f.type = some t) (bytes : 0 < t.size) :
    (WitType.record [] fields).exactPieces[i]? = some (f.offset.toNat, t.size) := by
  obtain ⟨w, e, places⟩ := accepted_place_of_type made nothing found type
  obtain ⟨path, n, p, leaf⟩ := places.exists_leaf bytes
  obtain ⟨q, here, _⟩ := alike i f t path n p found type leaf
  obtain ⟨q', there, _⟩ := places.leaf leaf
  have same := congrArg Prod.fst (Option.some.inj (here.symm.trans there))
  rw [Nat.add_right_cancel same]
  exact places.piece

/-- Where the struct lies as its record does, fields with bytes begin one after the other. -/
theorem LiesAlike.offset_lt (alike : LiesAlike s (.record [] fields)) {i j : Nat} {f g : FieldInfo}
    {t u : TypeRep} (before : i < j) (found : s.fields[i]? = some f) (found' : s.fields[j]? = some g)
    (type : f.type = some t) (type' : g.type = some u) (bytes : 0 < t.size) (bytes' : 0 < u.size) :
    f.offset.toNat < g.offset.toNat := by
  have ordered := Extent.offsetsFrom_inOrder 0 (WitType.record [] fields).parts_align_pos
  have first := alike.piece made nothing found type bytes
  have second := alike.piece made nothing found' type' bytes'
  exact ordered.starts_lt before first second bytes

theorem LiesAlike.apart (alike : LiesAlike s (.record [] fields)) : ¬ BeginTogether s := by
  rintro ⟨i, j, f, g, t, u, different, found, found', type, type', bytes, bytes', same⟩
  rcases Nat.lt_or_gt_of_ne different with before | after
  · have apart := alike.offset_lt made nothing before found found' type type' bytes bytes'
    rw [same] at apart
    exact Nat.lt_irrefl _ apart
  · have apart := alike.offset_lt made nothing after found' found type' type bytes' bytes
    rw [same] at apart
    exact Nat.lt_irrefl _ apart

/-- A part with bytes that began at 2 ^ 32 would seem to begin at 0, where the first part with bytes begins. -/
theorem start_ne_of_apart (apart : ¬ BeginTogether s) {x : Nat × Nat}
    (member : x ∈ (WitType.record [] fields).exactPieces) (bytes : 0 < x.2) : x.1 ≠ 2 ^ 32 := by
  intro last
  obtain ⟨y, first, bytes', start⟩ :=
    Extent.exists_start (WitType.record [] fields).parts_align_pos member bytes
  obtain ⟨i, piece⟩ := List.getElem?_of_mem member
  obtain ⟨j, piece'⟩ := List.getElem?_of_mem first
  obtain ⟨f, t, _, found, type, size, places⟩ := accepted_field_of_piece made nothing piece
  obtain ⟨g, u, _, found', type', size', places'⟩ := accepted_field_of_piece made nothing piece'
  have different : i ≠ j := by
    rintro rfl
    rw [Option.some.inj (piece.symm.trans piece'), start] at last
    cases last
  have same : f.offset = g.offset := by
    apply UInt64.toNat_inj.mp
    rw [places.wrapped, places'.wrapped, last, start, Nat.mod_self, Nat.zero_mod]
  exact apart ⟨i, j, f, g, t, u, different, found, found', type, type', size ▸ bytes, size' ▸ bytes', same⟩

/-- If no two fields with bytes begin together, the parts with bytes begin at numbers of 32 bits: none begins
at 2 ^ 32, and none that begins before ends behind it. -/
theorem starts_of_apart (apart : ¬ BeginTogether s) :
    ∀ x ∈ (WitType.record [] fields).exactPieces, 0 < x.2 → x.1 < 2 ^ 32 := by
  have divides : ∀ e ∈ (WitType.record [] fields).parts.map WitType.extent,
      0 < e.align ∧ 2 ^ 32 % e.align = 0 := by
    rw [← accepted_extents made nothing]
    intro e member
    obtain ⟨p, inside, rfl⟩ := List.mem_map.mp member
    have alignment := (WitType.record [] fields).parts_isAlignment p inside
    exact ⟨alignment.range.1, alignment.dvd_word⟩
  apply Extent.starts_before divides (Nat.zero_le _)
  intro x member bytes
  constructor
  · exact start_ne_of_apart made nothing apart member bytes
  · intro before
    obtain ⟨i, piece⟩ := List.getElem?_of_mem member
    obtain ⟨_, _, _, _, _, size, places⟩ := accepted_field_of_piece made nothing piece
    rw [← size]
    exact places.end_le before

end Accepted

/-- A struct that passes the check lies in memory as its record does in exact arithmetic, every primitive in
its fields at the offset that it has there, exactly if no two visible fields with bytes begin together. In any
case the offset of a field is the one the calculator gives it and the exact one modulo 2 ^ 32, and inside a
field every primitive has its exact offset and its size, and is no text. A record of less than 2 ^ 32 bytes
leaves no room for the exception. -/
theorem liesAlike_iff_apart {s : ErasedStruct} (accepted : (check (some s)).2 = .ok ()) :
    ∃ w, WitType.record? (some s) = .ok w ∧ (LiesAlike s w ↔ ¬ BeginTogether s) ∧
      (w.extent.size < 2 ^ 32 → LiesAlike s w) ∧
      ∀ (i : Nat) f, s.fields[i]? = some f → ∃ t e, f.type = some t ∧
        w.laidOffsets[i]? = some f.offset.toNat ∧ w.exactOffsets[i]? = some e ∧
        f.offset.toNat = e % 2 ^ 32 ∧
        ∀ path n p, t.leaf? path = some (n, p) →
          ∃ q, w.leafBy WitType.exactOffsets (i :: path) = some (e + n, q) ∧
            q.placement.size.toNat = p.extent.size ∧ p ≠ .string := by
  obtain ⟨fields, made, _, nothing⟩ := check_eq_ok accepted
  refine ⟨.record [] fields, by simp [WitType.record?, made, Except.map], ?_, ?_, ?_⟩
  · constructor
    · exact fun alike => alike.apart made nothing
    · exact fun apart => liesAlike_of_starts made nothing (starts_of_apart made nothing apart)
  · exact liesAlike_of_fits made nothing
  · intro i f found
    obtain ⟨t, w, e, type, places⟩ := accepted_place made nothing found
    exact ⟨t, e, type, places.laid, places.placed, places.wrapped, fun path n p => places.leaf⟩

/-! ### A field described twice -/

/-- An archive with one more number described on its first page. -/
def sealedArchive : ErasedStruct :=
  { archive with
    fields := archive.fields ++
      [{ index := 3, name := "Seal", offset := 0, attrs := [], owner := some archiveType,
         type := some (.primitive .uint64) }] }

theorem sealedArchive_record : ∃ pages, WitType.IsCounterpart pagesType pages ∧
    WitType.recordFields sealedArchive =
      .ok [⟨"pages", pages⟩, ⟨"total", .primitive .u64⟩, ⟨"open", .primitive .bool⟩,
        ⟨"seal", .primitive .u64⟩] := by
  obtain ⟨pages, counterpart, first⟩ := archive_pages
  refine ⟨pages, counterpart, ?_⟩
  have fields : sealedArchive.fields.zipIdx =
      [(archive.fields[0], 0), (archive.fields[1], 1), (archive.fields[2], 2),
        (sealedArchive.fields[3], 3)] := rfl
  have name : sealedArchive.name = archive.name := rfl
  rw [WitType.recordFields, fields, name, List.mapM_cons]
  simp only [first]
  rfl

/-- The offset of the seal is rounded up past the last address, to the first one. -/
theorem sealedArchive_accepted : (check (some sealedArchive)).2 = .ok () := by
  obtain ⟨pages, counterpart, made⟩ := sealedArchive_record
  obtain ⟨size, align⟩ := pages_layout counterpart
  have offsets : (WitType.record [] [⟨"pages", pages⟩, ⟨"total", .primitive .u64⟩,
      ⟨"open", .primitive .bool⟩, ⟨"seal", .primitive .u64⟩]).layout.offsets =
        [0, 4294967280, 4294967288, 0] := by
    rw [WitType.layout_record]
    simp only [Placement.withNames, Placement.row, List.map_cons, List.map_nil, Row.offsetsAfter,
      Row.stopAfter, size, align]
    rfl
  have nothing : structMismatches sealedArchive.name sealedArchive.fields [0, 4294967280, 4294967288, 0]
      [⟨"pages", pages⟩, ⟨"total", .primitive .u64⟩, ⟨"open", .primitive .bool⟩,
        ⟨"seal", .primitive .u64⟩] = [] := by
    show mismatches ["Archive", "Pages"] pagesType 0 0 pages ++ _ = []
    rw [mismatches_of_flat pagesType_flat counterpart rfl (by decide)]
    rfl
  simp only [check, made, offsets, nothing]
  rfl

/-- The seal begins where the pages do in memory and behind all of them in the record. A panel has no two
fields like that. -/
theorem sealedArchive_begins_twice :
    (check (some sealedArchive)).2 = .ok () ∧ sealedArchive.info.validate = .ok () ∧
      BeginTogether sealedArchive ∧
      (∃ w, WitType.record? (some sealedArchive) = .ok w ∧ ¬ LiesAlike sealedArchive w) ∧
      ∃ w, WitType.record? (some panel) = .ok w ∧ LiesAlike panel w := by
  obtain ⟨w, made, alike, _⟩ := liesAlike_iff_apart sealedArchive_accepted
  obtain ⟨w', made', _, fits, _⟩ := liesAlike_iff_apart (s := panel) rfl
  have together : BeginTogether sealedArchive :=
    ⟨0, 3, _, _, pagesType, .primitive .uint64, by decide, rfl, rfl, rfl, rfl, by decide, by decide, rfl⟩
  refine ⟨sealedArchive_accepted, rfl, together, ⟨w, made, ?_⟩, w', made', fits ?_⟩
  · rw [alike, not_not]
    exact together
  · cases made'
    decide

end Layout

end TypeAtlas
