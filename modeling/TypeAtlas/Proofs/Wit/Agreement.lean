import TypeAtlas.Proofs.Outcome
import TypeAtlas.Proofs.Wit.Canonical
import TypeAtlas.Wit.Check

/-!
What an accepted layout promises. A type that passes the check lies in memory as its counterpart does:
every primitive inside it, however deep in structs and arrays, has the same offset and size on both
sides, and none of the sums on the way wrapped. The check looks at a member only if the whole agrees, so
the argument goes down from the whole to its parts.
-/

namespace TypeAtlas

/-! ### Parts and leaves -/

namespace TypeRep

/-- The elements of an array or the fields of a struct, with their offsets. -/
def parts (t : TypeRep) : List (TypeRep × Nat) :=
  match t.underlying with
  | .array n e => (List.range n).map fun i => (e, i * e.size)
  | .struct fields => (placedFields fields).map fun (m, offset) => (m.type, offset)
  | _ => []

/-- The primitive at the end of a path of positions, with its offset. -/
def leaf? : TypeRep → List Nat → Option (Nat × Primitive)
  | t, [] =>
    match t.underlying with
    | .primitive p => some (0, p)
    | _ => none
  | t, i :: path =>
    match t.parts[i]? with
    | some (part, offset) => (part.leaf? path).map fun (inner, p) => (offset + inner, p)
    | none => none

theorem parts_of_array {t e : TypeRep} {n : Nat} (array : t.underlying = .array n e) :
    t.parts = (List.range n).map fun i => (e, i * e.size) := by
  simp only [parts, array]

theorem parts_of_struct {t : TypeRep} {fields : List (Member TypeRep)}
    (struct : t.underlying = .struct fields) :
    t.parts = (placedFields fields).map fun (m, offset) => (m.type, offset) := by
  simp only [parts, struct]

theorem underlying_ne_named : (t : TypeRep) → ∀ n d, t.underlying ≠ .named n d
  | .named _ d, n, e => d.underlying_ne_named n e
  | .primitive _, _, _ | .pointer _, _, _ | .map .., _, _ | .channel .., _, _ | .function .., _, _
  | .slice _, _, _ | .array .., _, _ | .struct _, _, _ => nofun

theorem strides_inOrder (first count stride : Nat) :
    InOrder (first * stride) ((first + count) * stride)
      ((List.range' first count).map fun i => (i * stride, stride)) := by
  induction count generalizing first with
  | zero => exact Nat.le_refl _
  | succ count ih =>
    refine ⟨Nat.le_refl _, ?_⟩
    have later := ih (first + 1)
    rw [Nat.succ_mul] at later
    simpa only [Nat.add_assoc, Nat.add_comm 1] using later

/-- The parts of a type follow one another without overlap inside it. -/
theorem parts_inOrder (t : TypeRep) :
    InOrder 0 t.size (t.parts.map fun part => (part.2, part.1.size)) := by
  rw [← size_underlying, parts]
  split
  · rename_i n e array
    have strides := strides_inOrder 0 n e.size
    rw [Nat.zero_mul, Nat.zero_add, ← List.range_eq_range'] at strides
    rw [array, List.map_map]
    exact strides
  · rename_i fields struct
    rw [struct, List.map_map]
    exact placedFields_inOrder fields
  · exact Nat.zero_le _

theorem part_inside {t part : TypeRep} {i offset : Nat} (found : t.parts[i]? = some (part, offset)) :
    offset + part.size ≤ t.size :=
  (t.parts_inOrder.bounds (List.mem_map.mpr ⟨_, List.mem_of_getElem? found, rfl⟩)).2

end TypeRep

namespace WitType

/-- The primitive at the end of a path of positions, with the sum of the offsets that `offsets` gives
to the members passed on the way. -/
def leafBy (offsets : WitType → List Nat) : WitType → List Nat → Option (Nat × WitPrimitive)
  | .primitive p, [] => some (0, p)
  | _, [] => none
  | w, i :: path =>
    match w.parts[i]?, (offsets w)[i]? with
    | some part, some offset => (part.leafBy offsets path).map fun (inner, p) => (offset + inner, p)
    | _, _ => none

/-- The offsets of the members as the layout has them. -/
def laidOffsets (w : WitType) : List Nat :=
  w.layout.offsets.map UInt32.toNat

/-! ### Counterparts -/

/-- `w` is what a runtime type `t` becomes, whatever the path and the labels. -/
def IsCounterpart (t : TypeRep) (w : WitType) : Prop :=
  ∃ path label whole, counterpart path label whole t = .ok w

/-- Records and tuples. -/
def IsRow (w : WitType) : Prop :=
  (∃ label fields, w = .record label fields) ∨ ∃ label members, w = .tuple label members

theorem IsRow.layout {w : WitType} (row : w.IsRow) :
    w.layout.offsets = (Placement.row (w.parts.map WitType.layout)).offsets ∧
      w.layout.extent = (Placement.row (w.parts.map WitType.layout)).extent := by
  rcases row with ⟨label, fields, rfl⟩ | ⟨label, members, rfl⟩
  · rw [layout_record, parts, List.map_map]
    exact ⟨rfl, rfl⟩
  · rw [layout_tuple, parts]
    exact ⟨rfl, rfl⟩

theorem IsRow.extent {w : WitType} (row : w.IsRow) :
    w.extent = Extent.packed (w.parts.map WitType.extent) := by
  rcases row with ⟨label, fields, rfl⟩ | ⟨label, members, rfl⟩
  · rw [WitType.extent, fieldExtents_eq_map, parts, List.map_map]
    rfl
  · rw [WitType.extent, memberExtents_eq_map, parts]

theorem counterpart_underlying (path : List Text) (label : Label) (whole : TypeRep) :
    (t : TypeRep) → counterpart path label whole t.underlying = counterpart path label whole t
  | .named _ d => by
    rw [TypeRep.underlying, counterpart, counterpart_underlying path label whole d]
  | .primitive _ | .pointer _ | .map .. | .channel .. | .function .. | .slice _ | .array .. | .struct _ =>
    rfl

theorem counterparts_members {path : List Text} {label : Label} {start : Nat}
    {fields : List (Member TypeRep)} {ws : List (WitField WitType)}
    (made : counterparts path label start fields = .ok ws) :
    ws.length = fields.length ∧
      ∀ (i : Nat) m w, fields[i]? = some m → ws[i]? = some w → IsCounterpart m.type w.type := by
  induction fields generalizing start ws with
  | nil =>
    simp only [counterparts, Except.ok.injEq] at made
    subst ws
    exact ⟨rfl, fun i m w found => by simp at found⟩
  | cons m rest ih =>
    obtain ⟨name, t, tag⟩ := m
    simp only [counterparts] at made
    split at made
    · cases made
    · rename_i w first
      split at made
      · rename_i others remaining
        obtain ⟨length, members⟩ := ih remaining
        cases made
        refine ⟨by simp only [List.length_cons, length], ?_⟩
        intro i m f found placed
        cases i with
        | zero =>
          simp only [List.getElem?_cons_zero, Option.some.injEq] at found placed
          subst found placed
          exact ⟨_, _, _, first⟩
        | succ i => exact members i m f found placed
      · cases made

/-- How a type and its counterpart are built: both are primitive, or an array is a tuple of equal members,
or a struct is a record with a counterpart for each field. -/
inductive Shape (t : TypeRep) (w : WitType) : Prop where
  | primitive {p : Primitive} {q : WitPrimitive} (type : t.underlying = .primitive p)
      (counterpart : w = .primitive q) (same : p.wit? = some q)
  | array {n : Nat} {e : TypeRep} {label : Label} {element : WitType} (type : t.underlying = .array n e)
      (counterpart : w = .tuple label (List.replicate n element)) (made : IsCounterpart e element)
  | struct {fields : List (Member TypeRep)} {label : Label} {ws : List (WitField WitType)}
      (type : t.underlying = .struct fields) (counterpart : w = .record label ws)
      (length : ws.length = fields.length)
      (made : ∀ (i : Nat) m f, fields[i]? = some m → ws[i]? = some f → IsCounterpart m.type f.type)

theorem IsCounterpart.shape {t : TypeRep} {w : WitType} (made : IsCounterpart t w) : Shape t w := by
  obtain ⟨path, label, whole, made⟩ := made
  rw [← counterpart_underlying] at made
  cases kind : t.underlying with
  | primitive p =>
    rw [kind, counterpart] at made
    split at made
    · rename_i q found
      cases made
      exact .primitive kind rfl found
    · cases made
  | array n e =>
    rw [kind, counterpart] at made
    split at made
    · rename_i element found
      cases made
      exact .array kind rfl ⟨_, _, _, found⟩
    · cases made
  | struct fields =>
    rw [kind, counterpart] at made
    split at made
    · rename_i ws found
      cases made
      obtain ⟨length, members⟩ := counterparts_members found
      exact .struct kind rfl length members
    · cases made
  | named n d => exact absurd kind (t.underlying_ne_named n d)
  | pointer _ | slice _ | map _ _ | channel _ _ | function _ _ _ =>
    rw [kind, counterpart] at made
    cases made

/-- A field of a record has the name of the visible field in kebab case and the counterpart of its type. -/
theorem ofField_eq_ok {owner : Text} {i : Nat} {f : FieldInfo} {w : WitField WitType}
    (made : ofField owner i f = .ok w) :
    w.name = Kebab.ofName f.name ∧ ∃ t, f.type = some t ∧ IsCounterpart t w.type := by
  simp only [ofField] at made
  split at made
  · cases made
  · rename_i t type
    cases counterpart : counterpart [owner, f.name] [i] t t with
    | error e =>
      rw [counterpart] at made
      cases made
    | ok w' =>
      rw [counterpart] at made
      cases made
      exact ⟨rfl, t, type, _, _, _, counterpart⟩

/-- The fields of a struct's record are the counterparts of the visible fields, all of which have types. -/
theorem recordFields_members {s : ErasedStruct} {fields : List (WitField WitType)}
    (made : recordFields s = .ok fields) :
    fields.length = s.fields.length ∧
      ∀ (i : Nat) f w, s.fields[i]? = some f → fields[i]? = some w →
        ∃ t, f.type = some t ∧ IsCounterpart t w.type := by
  obtain ⟨length, each⟩ := mapM_eq_ok made
  refine ⟨by rw [length, List.length_zipIdx], ?_⟩
  intro i f w found placed
  exact (ofField_eq_ok (each i (f, i) w (by simp [found]) placed)).2

/-- The names of a record's fields are those of the visible fields in kebab case. -/
theorem recordFields_names {s : ErasedStruct} {fields : List (WitField WitType)}
    (made : recordFields s = .ok fields) :
    fields.map (·.name) = s.fields.map fun f => Kebab.ofName f.name := by
  obtain ⟨length, each⟩ := mapM_eq_ok made
  rw [List.length_zipIdx] at length
  refine List.ext_getElem (by simpa using length) fun i inside inside' => ?_
  rw [List.length_map] at inside inside'
  have found : s.fields.zipIdx[i]? = some (s.fields[i], i) := by simp [inside']
  rw [List.getElem_map, List.getElem_map]
  exact (ofField_eq_ok (each i _ _ found (List.getElem?_eq_getElem inside))).1

theorem IsCounterpart.length_parts {t : TypeRep} {w : WitType} (made : IsCounterpart t w) :
    w.parts.length = t.parts.length := by
  cases made.shape with
  | primitive type same => simp [same, TypeRep.parts, type, parts]
  | array type same _ => simp [same, TypeRep.parts_of_array type, parts]
  | struct type same length _ =>
    simp [same, TypeRep.parts_of_struct type, parts, TypeRep.placedFields, length]

theorem IsCounterpart.part {t part : TypeRep} {w w' : WitType} {i o : Nat} (made : IsCounterpart t w)
    (found : t.parts[i]? = some (part, o)) (counterpart : w.parts[i]? = some w') :
    IsCounterpart part w' := by
  cases made.shape with
  | primitive type _ => simp [TypeRep.parts, type] at found
  | array type same element =>
    subst same
    rw [TypeRep.parts_of_array type, List.getElem?_map, Option.map_eq_some_iff] at found
    obtain ⟨_, _, piece⟩ := found
    cases piece
    rw [List.eq_of_mem_replicate (List.mem_of_getElem? counterpart)]
    exact element
  | struct type same _ each =>
    subst same
    rw [TypeRep.parts_of_struct type, List.getElem?_map, Option.map_eq_some_iff] at found
    obtain ⟨⟨m, _⟩, member, piece⟩ := found
    cases piece
    rw [parts, List.getElem?_map, Option.map_eq_some_iff] at counterpart
    obtain ⟨f, field, rfl⟩ := counterpart
    exact each i m f (List.getElem?_zip_eq_some.mp member).1 field

/-- A counterpart is laid out as the row of its parts, unless it is primitive. -/
theorem IsCounterpart.isRow {t : TypeRep} {w : WitType} (made : IsCounterpart t w) :
    (∃ q, w = .primitive q) ∨ w.IsRow := by
  cases made.shape with
  | primitive _ same _ => exact .inl ⟨_, same⟩
  | array _ same _ => exact .inr (.inr ⟨_, _, same⟩)
  | struct _ same _ _ => exact .inr (.inl ⟨_, _, same⟩)

theorem IsCounterpart.length_offsets {t : TypeRep} {w : WitType} (made : IsCounterpart t w) :
    w.layout.offsets.length = w.parts.length := by
  rcases made.isRow with ⟨q, rfl⟩ | row
  · cases q <;> rfl
  · rw [row.layout.1]
    simp [Placement.row]

theorem sizeOf_part {w w' : WitType} (member : w' ∈ w.parts) : sizeOf w' < sizeOf w := by
  cases w with
  | record label fields =>
    obtain ⟨f, found, rfl⟩ := List.mem_map.mp member
    have smaller := List.sizeOf_lt_of_mem found
    obtain ⟨name, w⟩ := f
    simp only [WitField.mk.sizeOf_spec, record.sizeOf_spec] at smaller ⊢
    omega
  | tuple label members =>
    have smaller : sizeOf w' < sizeOf members := List.sizeOf_lt_of_mem member
    simp only [tuple.sizeOf_spec]
    omega
  | _ => cases member

end WitType

/-! ### Going down from a whole that agrees -/

namespace Layout

variable {t : TypeRep} {offset : UInt64} {witOffset : UInt32} {w : WitType}

/-- The check finds nothing wrong with a value of type `t` at `offset` and its counterpart. -/
def Agrees (t : TypeRep) (offset : UInt64) (witOffset : UInt32) (w : WitType) : Prop :=
  ∃ path, mismatches path t offset witOffset w = []

theorem wholeMismatch?_eq_none {path : List Text}
    (agrees : wholeMismatch? path t offset witOffset w = Option.none) :
    offset.toNat = witOffset.toNat ∧ w.layout.size.toNat = t.size := by
  unfold wholeMismatch? at agrees
  split at agrees
  · cases agrees
  · rename_i offsets
    split at agrees
    · cases agrees
    · rename_i sizes
      exact ⟨Decidable.not_not.mp offsets, Decidable.not_not.mp sizes⟩

theorem Agrees.whole (agrees : Agrees t offset witOffset w) :
    offset.toNat = witOffset.toNat ∧ w.layout.size.toNat = t.size := by
  obtain ⟨path, nothing⟩ := agrees
  unfold mismatches at nothing
  split at nothing
  · cases nothing
  · rename_i whole
    exact wholeMismatch?_eq_none whole

theorem agrees_of_fieldMismatches {path : List Text} {placed : List (Member TypeRep × Nat)}
    {witOffsets : List UInt32} {fields : List (WitField WitType)}
    (nothing : fieldMismatches path offset witOffset placed witOffsets fields = []) :
    ∀ x ∈ placed.zip (witOffsets.zip fields),
      Agrees x.1.1.type (offset + UInt64.ofNat x.1.2) (witOffset + x.2.1) x.2.2.type := by
  induction placed generalizing witOffsets fields with
  | nil => simp
  | cons first rest ih =>
    match witOffsets, fields with
    | [], _ | _ :: _, [] => simp
    | wo :: wos, f :: fs =>
      rw [fieldMismatches] at nothing
      obtain ⟨here, later⟩ := List.append_eq_nil_iff.mp nothing
      rw [List.zip_cons_cons, List.zip_cons_cons, List.forall_mem_cons]
      exact ⟨⟨_, here⟩, ih later⟩

theorem agrees_of_memberMismatches {path : List Text} {e : TypeRep} {first : Nat}
    {witOffsets : List UInt32} {members : List WitType}
    (nothing : memberMismatches path e offset witOffset first witOffsets members = []) :
    ∀ x ∈ (witOffsets.zip members).zipIdx first,
      Agrees e (offset + UInt64.ofNat (x.2 * e.size)) (witOffset + x.1.1) x.1.2 := by
  induction witOffsets generalizing first members with
  | nil => simp
  | cons wo wos ih =>
    match members with
    | [] => simp
    | m :: ms =>
      rw [memberMismatches] at nothing
      obtain ⟨here, later⟩ := List.append_eq_nil_iff.mp nothing
      rw [List.zip_cons_cons, List.zipIdx_cons, List.forall_mem_cons]
      exact ⟨⟨_, here⟩, ih later⟩

/-- What agrees as a whole agrees in each of its parts. -/
theorem Agrees.part (agrees : Agrees t offset witOffset w) (made : WitType.IsCounterpart t w)
    {i o : Nat} {part : TypeRep} {w' : WitType} {wo : UInt32}
    (found : t.parts[i]? = some (part, o)) (counterpart : w.parts[i]? = some w')
    (place : w.layout.offsets[i]? = some wo) :
    Agrees part (offset + UInt64.ofNat o) (witOffset + wo) w' := by
  obtain ⟨path, nothing⟩ := agrees
  unfold mismatches at nothing
  split at nothing
  · cases nothing
  cases made.shape with
  | primitive type same => simp [TypeRep.parts, type] at found
  | array type same _ =>
    subst same
    simp only [type] at nothing
    rw [TypeRep.parts_of_array type, List.getElem?_map, Option.map_eq_some_iff] at found
    obtain ⟨k, position, piece⟩ := found
    cases piece
    have index : i = k := by
      simpa using (List.getElem?_eq_some_iff.mp position).2
    subst index
    apply agrees_of_memberMismatches nothing ((wo, w'), i)
    rw [List.mem_zipIdx_iff_getElem?]
    exact List.getElem?_zip_eq_some.mpr ⟨place, counterpart⟩
  | struct type same _ _ =>
    subst same
    simp only [TypeRep.fields?, type, Option.getD_some] at nothing
    rw [TypeRep.parts_of_struct type, List.getElem?_map, Option.map_eq_some_iff] at found
    obtain ⟨⟨m, _⟩, member, piece⟩ := found
    cases piece
    rw [WitType.parts, List.getElem?_map, Option.map_eq_some_iff] at counterpart
    obtain ⟨f, field, rfl⟩ := counterpart
    apply agrees_of_fieldMismatches nothing ((m, o), wo, f)
    apply List.mem_of_getElem?
    exact List.getElem?_zip_eq_some.mpr ⟨member, List.getElem?_zip_eq_some.mpr ⟨place, field⟩⟩

/-- Both sides place a part at the same distance from the start of the whole. -/
theorem Agrees.part_offset (agrees : Agrees t offset witOffset w) (made : WitType.IsCounterpart t w)
    {i o : Nat} {part : TypeRep} {w' : WitType} {wo : UInt32}
    (found : t.parts[i]? = some (part, o)) (counterpart : w.parts[i]? = some w')
    (place : w.layout.offsets[i]? = some wo) : wo.toNat = o := by
  obtain ⟨start, size⟩ := agrees.whole
  have together := (agrees.part made found counterpart place).whole.1
  have inside := TypeRep.part_inside found
  have small := w.layout.size.toNat_lt
  have origin := witOffset.toNat_lt
  have distance := wo.toNat_lt
  -- A wrapped sum on the right would lie before the start, which no sum on the left does.
  rw [UInt64.toNat_add, UInt32.toNat_add, UInt64.toNat_ofNat_of_lt' (show o < 2 ^ 64 by omega),
    Nat.mod_eq_of_lt (by omega)] at together
  omega

theorem Agrees.descend (agrees : Agrees t offset witOffset w) (made : WitType.IsCounterpart t w)
    {i o : Nat} {part : TypeRep} (found : t.parts[i]? = some (part, o)) :
    ∃ w' wo, w.parts[i]? = some w' ∧ w.layout.offsets[i]? = some wo ∧ wo.toNat = o ∧
      WitType.IsCounterpart part w' ∧ Agrees part (offset + UInt64.ofNat o) (witOffset + wo) w' := by
  have position := (List.getElem?_eq_some_iff.mp found).1
  have counterpart := List.getElem?_eq_getElem (made.length_parts.symm ▸ position)
  have place := List.getElem?_eq_getElem (l := w.layout.offsets) (i := i)
    (by rw [made.length_offsets, made.length_parts]; exact position)
  exact ⟨_, _, counterpart, place, agrees.part_offset made found counterpart place,
    made.part found counterpart, agrees.part made found counterpart place⟩

theorem Agrees.pieces (agrees : Agrees t offset witOffset w) (made : WitType.IsCounterpart t w)
    (row : w.IsRow) :
    Row.piecesAfter 0 (w.parts.map WitType.layout) =
      t.parts.map fun part => (part.2, part.1.size) := by
  have offsets : Row.offsetsAfter 0 (w.parts.map WitType.layout) = w.layout.offsets := row.layout.1.symm
  apply List.ext_getElem?
  intro i
  cases found : t.parts[i]? with
  | none =>
    have beyond : w.parts.length ≤ i := by
      rw [made.length_parts]
      exact List.getElem?_eq_none_iff.mp found
    rw [List.getElem?_map, found, Option.map_none, List.getElem?_eq_none_iff]
    simpa [Row.piecesAfter] using beyond
  | some part =>
    obtain ⟨w', wo, counterpart, place, same, _, agrees'⟩ := agrees.descend made found
    rw [List.getElem?_map, found, Option.map_some, Row.piecesAfter, offsets,
      List.getElem?_zip_eq_some]
    refine ⟨by rw [List.getElem?_map, place, Option.map_some, same], ?_⟩
    rw [List.getElem?_map, List.getElem?_map, counterpart, Option.map_some, Option.map_some,
      agrees'.whole.2]

/-- The layout of a type that agrees is the one in exact arithmetic. -/
theorem Agrees.exact {t : TypeRep} {offset : UInt64} {witOffset : UInt32} {w : WitType}
    (agrees : Agrees t offset witOffset w) (made : WitType.IsCounterpart t w) :
    w.layout.extent = w.extent ∧ w.laidOffsets = w.exactOffsets := by
  rcases made.isRow with ⟨q, rfl⟩ | row
  · cases q <;> exact ⟨rfl, rfl⟩
  have members : (w.parts.map WitType.layout).map Placement.extent = w.parts.map WitType.extent := by
    rw [List.map_map]
    apply List.map_congr_left
    intro w' member
    obtain ⟨i, position, rfl⟩ := List.mem_iff_getElem.mp member
    have found := List.getElem?_eq_getElem (made.length_parts ▸ position)
    obtain ⟨w', wo, counterpart, _, _, made', agrees'⟩ := agrees.descend made found
    rw [List.getElem?_eq_getElem position, Option.some.injEq] at counterpart
    rw [← counterpart] at made' agrees'
    have smaller := WitType.sizeOf_part member
    exact (Agrees.exact agrees' made').1
  have size : (Placement.row (w.parts.map WitType.layout)).size.toNat = t.size := by
    rw [← agrees.whole.2]
    exact (congrArg Extent.size row.layout.2).symm
  have ordered : InOrder 0 (Placement.row (w.parts.map WitType.layout)).size.toNat
      (Row.piecesAfter 0 (w.parts.map WitType.layout)) := by
    rw [size, agrees.pieces made row]
    exact t.parts_inOrder
  obtain ⟨offsets, extent⟩ := Placement.row_exact w.parts_isAlignment ordered
  rw [members] at offsets extent
  refine ⟨?_, ?_⟩
  · rw [row.layout.2, row.extent, extent]
  · rw [WitType.laidOffsets, row.layout.1, offsets, WitType.exactOffsets]
termination_by sizeOf w

/-- A primitive inside a type that agrees has the same offset, relative to the whole, and size on both
sides. -/
theorem Agrees.leaf (agrees : Agrees t offset witOffset w) (made : WitType.IsCounterpart t w)
    {path : List Nat} {n : Nat} {p : Primitive} (leaf : t.leaf? path = some (n, p)) :
    ∃ q, w.leafBy WitType.laidOffsets path = some (n, q) ∧
      w.leafBy WitType.exactOffsets path = some (n, q) ∧ p.wit? = some q ∧
      q.placement.size.toNat = p.extent.size := by
  induction path generalizing t offset witOffset w n with
  | nil =>
    simp only [TypeRep.leaf?] at leaf
    split at leaf
    · rename_i p' type
      cases leaf
      cases made.shape with
      | primitive type' same wit =>
        obtain rfl : p = _ := TypeRep.primitive.inj (type.symm.trans type')
        subst same
        refine ⟨_, rfl, rfl, wit, ?_⟩
        have size := agrees.whole.2
        rw [← TypeRep.size_underlying, type] at size
        exact size
      | array type' | struct type' =>
        rw [type] at type'
        cases type'
    · cases leaf
  | cons i path ih =>
    simp only [TypeRep.leaf?] at leaf
    split at leaf
    · rename_i part o found
      obtain ⟨⟨inner, _⟩, deeper, sum⟩ := Option.map_eq_some_iff.mp leaf
      cases sum
      obtain ⟨w', wo, counterpart, place, same, made', agrees'⟩ := agrees.descend made found
      obtain ⟨q, laid, exact, wit, size⟩ := ih agrees' made' deeper
      have offsets : w.laidOffsets[i]? = some o := by
        rw [WitType.laidOffsets, List.getElem?_map, place, Option.map_some, same]
      refine ⟨q, ?_, ?_, wit, size⟩
      · simp only [WitType.leafBy, counterpart, offsets, laid, Option.map_some]
      · rw [(agrees.exact made).2] at offsets
        simp only [WitType.leafBy, counterpart, offsets, exact, Option.map_some]
    · cases leaf

/-! ### Structs that are accepted -/

theorem agrees_of_structMismatches {owner : Text} {fields : List FieldInfo} {witOffsets : List UInt32}
    {ws : List (WitField WitType)} (nothing : structMismatches owner fields witOffsets ws = []) :
    ∀ x ∈ fields.zip (witOffsets.zip ws), ∀ t, x.1.type = some t →
      Agrees t x.1.offset x.2.1 x.2.2.type := by
  induction fields generalizing witOffsets ws with
  | nil => simp
  | cons f fs ih =>
    match witOffsets, ws with
    | [], _ | _ :: _, [] => simp
    | wo :: wos, w :: ws =>
      rw [structMismatches] at nothing
      obtain ⟨here, later⟩ := List.append_eq_nil_iff.mp nothing
      rw [List.zip_cons_cons, List.zip_cons_cons, List.forall_mem_cons]
      refine ⟨?_, ih later⟩
      intro t (type : f.type = some t)
      rw [type] at here
      exact ⟨_, here⟩

theorem check_eq_ok {s : ErasedStruct} (accepted : (check (some s)).2 = .ok ()) :
    ∃ fields, WitType.recordFields s = .ok fields ∧
      (check (some s)).1 = ofPlacement (WitType.record [] fields).layout ∧
      structMismatches s.name s.fields (WitType.record [] fields).layout.offsets fields = [] := by
  cases made : WitType.recordFields s with
  | error e =>
    simp only [check, made] at accepted
    cases accepted
  | ok fields =>
    refine ⟨fields, rfl, by simp only [check, made], ?_⟩
    simp only [check, made] at accepted
    split at accepted
    · rename_i nothing
      exact Failure.ofFaults_eq_ok_iff.mp nothing
    · cases accepted

/-- Every visible field of an accepted struct agrees with its field of the record. -/
theorem accepted_field {s : ErasedStruct} {fields : List (WitField WitType)} {f : FieldInfo} {i : Nat}
    (made : WitType.recordFields s = .ok fields)
    (nothing : structMismatches s.name s.fields (WitType.record [] fields).layout.offsets fields = [])
    (found : s.fields[i]? = some f) :
    ∃ t w wo, f.type = some t ∧ fields[i]? = some w ∧
      (WitType.record [] fields).layout.offsets[i]? = some wo ∧
      WitType.IsCounterpart t w.type ∧ Agrees t f.offset wo w.type := by
  obtain ⟨length, members⟩ := WitType.recordFields_members made
  have position : i < fields.length := by
    rw [length]
    exact (List.getElem?_eq_some_iff.mp found).1
  have field := List.getElem?_eq_getElem position
  have place := List.getElem?_eq_getElem (l := (WitType.record [] fields).layout.offsets) (i := i)
    (by simpa [WitType.layout_record, Placement.withNames, Placement.row] using position)
  obtain ⟨t, type, counterpart⟩ := members i f _ found field
  refine ⟨t, _, _, type, field, place, counterpart, ?_⟩
  apply agrees_of_structMismatches nothing (f, _, _) _ t type
  apply List.mem_of_getElem?
  exact List.getElem?_zip_eq_some.mpr ⟨found, List.getElem?_zip_eq_some.mpr ⟨place, field⟩⟩

/-- Every visible field of an accepted struct has its piece of the row that the record is laid out as, at
the offset that it has in the struct. -/
theorem accepted_piece {s : ErasedStruct} {fields : List (WitField WitType)} {f : FieldInfo} {i : Nat}
    (made : WitType.recordFields s = .ok fields)
    (nothing : structMismatches s.name s.fields (WitType.record [] fields).layout.offsets fields = [])
    (found : s.fields[i]? = some f) :
    ∃ t place, f.type = some t ∧ (WitType.record [] fields).layout.offsets[i]? = some place ∧
      f.offset.toNat = place.toNat ∧
      (Row.piecesAfter 0 ((WitType.record [] fields).parts.map WitType.layout))[i]? =
        some (place.toNat, t.size) := by
  have row : (WitType.record [] fields).IsRow := .inl ⟨_, _, rfl⟩
  obtain ⟨t, w, place, type, field, laid, _, agrees⟩ := accepted_field made nothing found
  refine ⟨t, place, type, laid, agrees.whole.1, ?_⟩
  rw [row.layout.1] at laid
  rw [Row.piecesAfter, List.getElem?_zip_eq_some]
  refine ⟨?_, ?_⟩
  · rw [List.getElem?_map]
    exact congrArg (Option.map UInt32.toNat) laid
  · rw [List.getElem?_map, List.getElem?_map, WitType.parts, List.getElem?_map, field]
    simp only [Option.map_some, agrees.whole.2]

/-- The fields of an accepted record have their exact sizes and alignments. -/
theorem accepted_extents {s : ErasedStruct} {fields : List (WitField WitType)}
    (made : WitType.recordFields s = .ok fields)
    (nothing : structMismatches s.name s.fields (WitType.record [] fields).layout.offsets fields = []) :
    ((WitType.record [] fields).parts.map WitType.layout).map Placement.extent =
      (WitType.record [] fields).parts.map WitType.extent := by
  rw [List.map_map]
  apply List.map_congr_left
  intro w' member
  obtain ⟨w, found, rfl⟩ := List.mem_map.mp member
  obtain ⟨i, position, rfl⟩ := List.mem_iff_getElem.mp found
  have field := List.getElem?_eq_getElem ((WitType.recordFields_members made).1 ▸ position)
  obtain ⟨t, w, wo, _, same, _, counterpart, agrees⟩ := accepted_field made nothing field
  rw [List.getElem?_eq_getElem position, Option.some.injEq] at same
  rw [← same] at counterpart agrees
  exact (agrees.exact counterpart).1

/-! ### A struct to try it on -/

/-- A flag beside a number. -/
def switchType : TypeRep :=
  .struct [⟨"On", .primitive .bool, []⟩, ⟨"Count", .primitive .uint32, []⟩]

/-- A struct with a hidden field, an array of truth values and a struct inside. -/
def panelType : TypeRep :=
  .struct [⟨"Tag", .primitive .uint8, []⟩, ⟨"hidden", .primitive .uint8, []⟩,
    ⟨"Level", .primitive .uint16, []⟩, ⟨"Rows", .array 2 (.primitive .bool), []⟩,
    ⟨"Main", switchType, []⟩]

/-- The visible fields of a panel. -/
def panel : ErasedStruct :=
  let field (index : Int) (name : Text) (offset : UInt64) (type : TypeRep) : FieldInfo :=
    { index, name, offset, attrs := [], owner := some panelType, type := some type }
  .ofFields (some panelType) .struct "Panel" []
    [field 0 "Tag" 0 (.primitive .uint8), field 1 "Level" 2 (.primitive .uint16),
      field 2 "Rows" 4 (.array 2 (.primitive .bool)), field 3 "Main" 8 switchType]

end Layout

end TypeAtlas
