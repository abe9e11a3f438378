import Mathlib.Data.List.Forall2
import TypeAtlas.Proofs.Wit.Calculation
import TypeAtlas.Registry.Reflection

/-!
Which structs the layout check accepts. A struct with no other field than numbers, arrays and structs of
numbers lies in memory as its record does, since both sides place members by the same rule. They part
only where a struct ends in a member without bytes, which gets a byte of its own on one side, and where
an array has no elements, whose alignment the tuple does not keep.
-/

namespace TypeAtlas

/-! ### Two ways to lay out members -/

theorem roundUp_of_mod_eq_zero {n align : Nat} (multiple : n % align = 0) (positive : 0 < align) :
    roundUp n align = n := by
  have whole := Nat.div_add_mod n align
  have next : (n + align - 1) / align = n / align := by
    rw [Nat.div_eq_iff positive, Nat.mul_comm]
    omega
  rw [roundUp, next, Nat.mul_comm]
  omega

namespace Extent

theorem endFrom_append (start : Nat) (members : List Extent) (last : Extent) :
    endFrom start (members ++ [last]) = roundUp (endFrom start members) last.align + last.size := by
  induction members generalizing start with
  | nil => rfl
  | cons e rest ih => exact ih _

theorem offsetsFrom_append (start : Nat) (members : List Extent) (last : Extent) :
    offsetsFrom start (members ++ [last]) =
      offsetsFrom start members ++ [roundUp (endFrom start members) last.align] := by
  induction members generalizing start with
  | nil => rfl
  | cons e rest ih => rw [List.cons_append, offsetsFrom, offsetsFrom, endFrom, ih, List.cons_append]

/-- The last member has no bytes of its own and does not lie at the start. -/
def endsEmpty (members : List Extent) : Bool :=
  match (members.zip (offsetsFrom 0 members)).getLast? with
  | some (last, offset) => last.size = 0 ∧ 0 < offset
  | none => false

theorem record_eq_packed {members : List Extent} (full : endsEmpty members = false) :
    record members = packed members := by
  rcases List.eq_nil_or_concat members with rfl | ⟨others, last, rfl⟩
  · rfl
  rw [List.concat_eq_append] at full ⊢
  have length : others.length = (offsetsFrom 0 others).length := (length_offsetsFrom 0 others).symm
  rw [endsEmpty, offsetsFrom_append, List.zip_append length] at full
  simp only [List.zip_cons_cons, List.zip_nil_right, List.getLast?_append, List.getLast?_singleton,
    Option.some_or, decide_eq_false_iff_not, not_and, Nat.not_lt, Nat.le_zero_eq] at full
  have keeps : ¬ (last.size = 0 ∧ 0 < endFrom 0 (others ++ [last])) := by
    rw [endFrom_append]
    rintro ⟨none, behind⟩
    rw [full none, none] at behind
    exact absurd behind (Nat.lt_irrefl 0)
  simp only [record, packed, List.getLast?_append, List.getLast?_singleton, Option.some_or, if_neg keeps]

section Replicate

variable {e : Extent} (multiple : e.size % e.align = 0) (positive : 0 < e.align)

include multiple positive

theorem roundUp_stride (k : Nat) : roundUp (k * e.size) e.align = k * e.size := by
  apply roundUp_of_mod_eq_zero _ positive
  rw [Nat.mul_mod, multiple, Nat.mul_zero, Nat.zero_mod]

theorem offsetsFrom_replicate (first count : Nat) :
    offsetsFrom (first * e.size) (List.replicate count e) =
      (List.range' first count).map fun i => i * e.size := by
  induction count generalizing first with
  | zero => rfl
  | succ count ih =>
    rw [List.replicate_succ, offsetsFrom, roundUp_stride multiple positive, ← Nat.succ_mul, ih]
    rfl

theorem endFrom_replicate (first count : Nat) :
    endFrom (first * e.size) (List.replicate count e) = (first + count) * e.size := by
  induction count generalizing first with
  | zero => rfl
  | succ count ih =>
    rw [List.replicate_succ, endFrom, roundUp_stride multiple positive, ← Nat.succ_mul, ih,
      Nat.succ_add_eq_add_succ]

omit multiple in
theorem maxAlign_replicate {count : Nat} (some : 0 < count) :
    maxAlign (List.replicate count e) = e.align := by
  induction count with
  | zero => cases some
  | succ count ih =>
    rw [List.replicate_succ, maxAlign]
    rcases Nat.eq_zero_or_pos count with rfl | more
    · exact Nat.max_eq_left positive
    · rw [ih more, Nat.max_self]

theorem packed_replicate {count : Nat} (some : 0 < count) :
    packed (List.replicate count e) = e.times count := by
  have stop := endFrom_replicate multiple positive 0 count
  rw [Nat.zero_mul, Nat.zero_add] at stop
  rw [packed, maxAlign_replicate positive some, stop, roundUp_stride multiple positive, times]

end Replicate

end Extent

/-! ### Flat types -/

/-- Truth values and numbers, complex ones apart. -/
def Primitive.isScalar : Primitive → Bool
  | .bool | .int | .int8 | .int16 | .int32 | .int64 => true
  | .uint | .uint8 | .uint16 | .uint32 | .uint64 | .uintptr => true
  | .float32 | .float64 => true
  | .complex64 | .complex128 | .string | .emptyInterface | .unsafePointer => false

namespace TypeRep

/-- Scalars, arrays with elements, and structs that do not end in a member without bytes, of such types
again. -/
inductive Flat : TypeRep → Prop where
  | primitive {p : Primitive} (scalar : p.isScalar = true) : Flat (.primitive p)
  | named {n : TypeName} {d : TypeRep} (definition : Flat d) : Flat (.named n d)
  | array {n : Nat} {e : TypeRep} (some : 1 ≤ n) (element : Flat e) : Flat (.array n e)
  | struct {fields : List (Member TypeRep)} (each : ∀ m ∈ fields, Flat m.type)
      (full : Extent.endsEmpty (extents fields) = false) : Flat (.struct fields)

theorem underlying_of_fields? {t : TypeRep} {members : List (Member TypeRep)}
    (struct : t.fields? = some members) : t.underlying = .struct members := by
  unfold fields? at struct
  split at struct
  · rename_i type
    cases struct
    exact type
  · cases struct

theorem placedFields_fst (fields : List (Member TypeRep)) : (placedFields fields).map Prod.fst = fields :=
  List.map_fst_zip (Nat.le_of_eq (length_offsets fields).symm)

theorem parts_snd_of_struct {t : TypeRep} {fields : List (Member TypeRep)}
    (struct : t.underlying = .struct fields) : t.parts.map Prod.snd = offsets fields := by
  rw [parts_of_struct struct, List.map_map]
  exact List.map_snd_zip (Nat.le_of_eq (length_offsets fields))

namespace Flat

theorem underlying {t : TypeRep} (flat : t.Flat) : t.underlying.Flat := by
  induction flat with
  | primitive scalar => exact .primitive scalar
  | named _ ih => exact ih
  | array some element => exact .array some element
  | struct each full => exact .struct each full

theorem part {t part : TypeRep} {i o : Nat} (flat : t.Flat) (found : t.parts[i]? = some (part, o)) :
    part.Flat := by
  have member := List.mem_of_getElem? found
  have flat := flat.underlying
  generalize type : t.underlying = t' at flat
  cases flat with
  | primitive _ => simp [parts, type] at member
  | named _ => exact absurd type (t.underlying_ne_named _ _)
  | array _ element =>
    rw [parts_of_array type] at member
    obtain ⟨_, _, same⟩ := List.mem_map.mp member
    cases same
    exact element
  | struct each _ =>
    rw [parts_of_struct type] at member
    obtain ⟨⟨m, _⟩, placed, same⟩ := List.mem_map.mp member
    cases same
    exact each m (List.of_mem_zip placed).1

/-- The parts of a flat type lie where the parts of a record or tuple do. -/
theorem packed {t : TypeRep} (flat : t.Flat) (compound : ∀ p, t.underlying ≠ .primitive p) :
    Extent.packed (t.parts.map fun part => part.1.extent) = t.extent ∧
      Extent.offsetsFrom 0 (t.parts.map fun part => part.1.extent) = t.parts.map Prod.snd := by
  have flat := flat.underlying
  rw [← t.extent_underlying]
  generalize type : t.underlying = t' at flat
  cases flat with
  | primitive _ => exact absurd type (compound _)
  | named _ => exact absurd type (t.underlying_ne_named _ _)
  | @array n e some _ =>
    have extents : (t.parts.map fun part => part.1.extent) = List.replicate n e.extent := by
      rw [parts_of_array type, List.map_map]
      simp [Function.comp_def, List.map_const']
    have offsets := Extent.offsetsFrom_replicate e.size_mod_align e.align_pos 0 n
    rw [Nat.zero_mul, ← List.range_eq_range'] at offsets
    rw [extents]
    refine ⟨Extent.packed_replicate e.size_mod_align e.align_pos some, ?_⟩
    rw [offsets, parts_of_array type, List.map_map]
    rfl
  | @struct fields _ full =>
    have extents : (t.parts.map fun part => part.1.extent) = TypeRep.extents fields := by
      calc (t.parts.map fun part => part.1.extent)
          = ((placedFields fields).map Prod.fst).map fun m => m.type.extent := by
            rw [parts_of_struct type, List.map_map, List.map_map]
            rfl
        _ = TypeRep.extents fields := by rw [placedFields_fst, extents_eq_map]
    rw [extents, parts_snd_of_struct type]
    exact ⟨(Extent.record_eq_packed full).symm, rfl⟩

end Flat

end TypeRep

/-! ### Counterparts of flat types -/

/-- A scalar has a counterpart of the same size and alignment. -/
theorem Primitive.wit?_extent {p : Primitive} (scalar : p.isScalar = true) :
    p.wit?.map (fun q => q.placement.extent) = some p.extent := by
  revert scalar
  cases p <;> decide

theorem WitType.counterparts_of_each {fields : List (Member TypeRep)}
    (each : ∀ m ∈ fields, ∀ path label whole, ∃ w, counterpart path label whole m.type = .ok w)
    (path : List Text) (label : Label) (start : Nat) :
    ∃ ws, counterparts path label start fields = .ok ws := by
  induction fields generalizing start with
  | nil => exact ⟨_, rfl⟩
  | cons m rest ih =>
    rw [List.forall_mem_cons] at each
    obtain ⟨w, first⟩ := each.1 (path ++ [m.name]) (start :: label) m.type
    obtain ⟨ws, later⟩ := ih each.2 (start + 1)
    rw [counterparts, first, later]
    exact ⟨_, rfl⟩

namespace TypeRep.Flat

open WitType (IsCounterpart)

theorem counterpart {t : TypeRep} (flat : t.Flat) (path : List Text) (label : Label) (whole : TypeRep) :
    ∃ w, WitType.counterpart path label whole t = .ok w := by
  induction flat generalizing path label whole with
  | @primitive p scalar =>
    obtain ⟨q, found, _⟩ := Option.map_eq_some_iff.mp (Primitive.wit?_extent scalar)
    rw [WitType.counterpart, found]
    exact ⟨_, rfl⟩
  | named _ ih =>
    rw [WitType.counterpart]
    exact ih path label whole
  | @array n e _ _ ih =>
    obtain ⟨w, made⟩ := ih (path ++ [("[]" : Text)]) (0 :: label) e
    rw [WitType.counterpart, made]
    exact ⟨_, rfl⟩
  | struct _ _ ih =>
    obtain ⟨ws, made⟩ := WitType.counterparts_of_each ih path label 0
    rw [WitType.counterpart, made]
    exact ⟨_, rfl⟩

/-- The counterpart of a flat type that fits into 32 bits has its size and alignment, and its parts lie
at the same offsets. -/
theorem layout {t : TypeRep} {w : WitType} (flat : t.Flat) (made : IsCounterpart t w)
    (fits : t.size < 2 ^ 32) :
    w.layout.extent = t.extent ∧ w.laidOffsets = t.parts.map Prod.snd := by
  rcases made.isRow with ⟨q, rfl⟩ | row
  · cases made.shape with
    | @primitive p _ type same wit =>
      cases same
      have scalar := flat.underlying
      rw [type] at scalar
      cases scalar with
      | primitive scalar =>
        have extent := Primitive.wit?_extent scalar
        rw [wit, Option.map_some, Option.some.injEq] at extent
        rw [← t.extent_underlying, type, parts, type]
        refine ⟨extent, ?_⟩
        cases q <;> rfl
    | array _ same _ => cases same
    | struct _ same _ _ => cases same
  have compound : ∀ p, t.underlying ≠ .primitive p := by
    intro p type
    cases made.shape with
    | primitive _ same _ =>
      subst same
      rcases row with ⟨_, _, record⟩ | ⟨_, _, tuple⟩
      · cases record
      · cases tuple
    | array type' _ _ => cases type.symm.trans type'
    | struct type' _ _ _ => cases type.symm.trans type'
  have extents : (w.parts.map WitType.layout).map Placement.extent =
      t.parts.map fun part => part.1.extent := by
    rw [List.map_map]
    apply List.ext_getElem
    · simpa using made.length_parts
    intro i here there
    rw [List.length_map] at here there
    have smaller := WitType.sizeOf_part (List.getElem_mem here)
    have found := List.getElem?_eq_getElem there
    have inside := part_inside found
    have part := layout (flat.part found) (made.part found (List.getElem?_eq_getElem here)) (by omega)
    simpa using part.1
  obtain ⟨extent, offsets⟩ := flat.packed compound
  rw [← extents] at extent offsets
  have size : (Extent.packed ((w.parts.map WitType.layout).map Placement.extent)).size < 2 ^ 32 := by
    rw [extent]
    exact fits
  have placed := Placement.row_of_fits w.parts_isAlignment size
  constructor
  · rw [row.layout.2, placed.1, extent]
  · rw [WitType.laidOffsets, row.layout.1, placed.2, offsets]
termination_by sizeOf w

end TypeRep.Flat

/-! ### Nothing to report -/

namespace Layout

variable {t : TypeRep} {offset : UInt64} {witOffset : UInt32} {w : WitType}

theorem fieldMismatches_eq_nil {path : List Text} {placed : List (Member TypeRep × Nat)}
    {witOffsets : List UInt32} {fields : List (WitField WitType)}
    (each : ∀ x ∈ placed.zip (witOffsets.zip fields), ∀ path,
      mismatches path x.1.1.type (offset + UInt64.ofNat x.1.2) (witOffset + x.2.1) x.2.2.type = []) :
    fieldMismatches path offset witOffset placed witOffsets fields = [] := by
  induction placed generalizing witOffsets fields with
  | nil => simp only [fieldMismatches]
  | cons first rest ih =>
    cases witOffsets with
    | nil => simp only [fieldMismatches]
    | cons wo wos =>
      cases fields with
      | nil => simp only [fieldMismatches]
      | cons f fs =>
        rw [List.zip_cons_cons, List.zip_cons_cons, List.forall_mem_cons] at each
        rw [fieldMismatches, each.1, ih each.2, List.append_nil]

theorem memberMismatches_eq_nil {path : List Text} {e : TypeRep} {first : Nat}
    {witOffsets : List UInt32} {members : List WitType}
    (each : ∀ x ∈ (witOffsets.zip members).zipIdx first, ∀ path,
      mismatches path e (offset + UInt64.ofNat (x.2 * e.size)) (witOffset + x.1.1) x.1.2 = []) :
    memberMismatches path e offset witOffset first witOffsets members = [] := by
  induction witOffsets generalizing first members with
  | nil => simp only [memberMismatches]
  | cons wo wos ih =>
    cases members with
    | nil => simp only [memberMismatches]
    | cons m ms =>
      rw [List.zip_cons_cons, List.zipIdx_cons, List.forall_mem_cons] at each
      rw [memberMismatches, each.1, ih each.2, List.append_nil]

/-- A whole without a disagreement whose parts have none has none. -/
theorem mismatches_eq_nil (made : WitType.IsCounterpart t w) (same : offset.toNat = witOffset.toNat)
    (size : w.layout.size.toNat = t.size)
    (parts : ∀ (i : Nat) part o w' wo, t.parts[i]? = some (part, o) → w.parts[i]? = some w' →
      w.layout.offsets[i]? = some wo → ∀ path,
        mismatches path part (offset + UInt64.ofNat o) (witOffset + wo) w' = [])
    (path : List Text) : mismatches path t offset witOffset w = [] := by
  have whole : wholeMismatch? path t offset witOffset w = Option.none := by
    rw [wholeMismatch?, if_neg (not_not_intro same), if_neg (not_not_intro size)]
  unfold mismatches
  rw [whole]
  cases made.shape with
  | primitive _ counterpart _ => rw [counterpart]
  | array type counterpart _ =>
    subst counterpart
    simp only [type]
    apply memberMismatches_eq_nil
    rintro ⟨⟨wo, w'⟩, i⟩ member
    rw [List.mem_zipIdx_iff_getElem?] at member
    obtain ⟨place, found⟩ := List.getElem?_zip_eq_some.mp member
    refine parts i _ _ w' wo ?_ found place
    rw [TypeRep.parts_of_array type, List.getElem?_map]
    have position := (List.getElem?_eq_some_iff.mp found).1
    rw [List.length_replicate] at position
    rw [List.getElem?_range position, Option.map_some]
  | struct type counterpart _ _ =>
    subst counterpart
    simp only [TypeRep.fields?, type, Option.getD_some]
    apply fieldMismatches_eq_nil
    rintro ⟨⟨m, o⟩, wo, f⟩ member
    obtain ⟨i, position⟩ := List.getElem?_of_mem member
    obtain ⟨field, rest⟩ := List.getElem?_zip_eq_some.mp position
    obtain ⟨place, found⟩ := List.getElem?_zip_eq_some.mp rest
    refine parts i _ _ f.type wo ?_ ?_ place
    · rw [TypeRep.parts_of_struct type, List.getElem?_map, field, Option.map_some]
    · rw [WitType.parts, List.getElem?_map, found, Option.map_some]

/-- A flat type and its counterpart agree wherever both lie at one address of 32 bits. -/
theorem mismatches_of_flat {t : TypeRep} {offset : UInt64} {witOffset : UInt32} {w : WitType}
    (flat : t.Flat) (made : WitType.IsCounterpart t w) (same : offset.toNat = witOffset.toNat)
    (fits : offset.toNat + t.size < 2 ^ 32) (path : List Text) :
    mismatches path t offset witOffset w = [] := by
  obtain ⟨extent, offsets⟩ := flat.layout made (by omega)
  refine mismatches_eq_nil made same (congrArg Extent.size extent) ?_ path
  intro i part o w' wo found counterpart place path
  have smaller := WitType.sizeOf_part (List.mem_of_getElem? counterpart)
  have inside := TypeRep.part_inside found
  have distance : wo.toNat = o := by
    have position := congrArg (·[i]?) offsets
    simpa [WitType.laidOffsets, place, found] using position
  have start : (offset + UInt64.ofNat o).toNat = offset.toNat + o := by
    rw [UInt64.toNat_add, UInt64.toNat_ofNat_of_lt' (show o < 2 ^ 64 by omega),
      Nat.mod_eq_of_lt (by omega)]
  have witStart : (witOffset + wo).toNat = witOffset.toNat + o := by
    rw [UInt32.toNat_add, distance, Nat.mod_eq_of_lt (by omega)]
  exact mismatches_of_flat (flat.part found) (made.part found counterpart) (by omega) (by omega) path
termination_by sizeOf w

end Layout

/-! ### Structs without hidden fields -/

/-- A visible field stands for a member at its offset. -/
structure FieldInfo.StandsFor (f : FieldInfo) (placed : Member TypeRep × Nat) : Prop where
  name : f.name = placed.1.name
  type : f.type = some placed.1.type
  offset : f.offset = UInt64.ofNat placed.2

open List (Forall₂)

theorem Reflection.fieldsFrom_of_exported (owner : TypeRep) (placed : List (Member TypeRep × Nat))
    (exported : ∀ x ∈ placed, isExported x.1.name = true)
    (tagged : ∀ x ∈ placed, ∃ attrs, Attribute.ofTag x.1.tag = .ok attrs) (index : Nat) :
    ∃ fields, fieldsFrom owner index placed = .ok fields ∧
      Forall₂ FieldInfo.StandsFor fields placed := by
  induction placed generalizing index with
  | nil => exact ⟨_, rfl, .nil⟩
  | cons x rest ih =>
    rw [List.forall_mem_cons] at exported tagged
    obtain ⟨attrs, read⟩ := tagged.1
    obtain ⟨fields, later, stand⟩ := ih exported.2 tagged.2 (index + 1)
    simp only [fieldsFrom, exported.1, read, later]
    exact ⟨_, rfl, .cons ⟨rfl, rfl, rfl⟩ stand⟩

/-- The record of a struct that shows all its fields is the counterpart of its type. -/
theorem WitType.recordFields_of_counterparts {owner : Text} {fields : List FieldInfo}
    {placed : List (Member TypeRep × Nat)}
    (stand : Forall₂ FieldInfo.StandsFor fields placed) {start : Nat}
    {ws : List (WitField WitType)}
    (made : counterparts [owner] [] start (placed.map Prod.fst) = .ok ws) :
    (fields.zipIdx start).mapM (fun (f, i) => ofField owner i f) = .ok ws := by
  induction stand generalizing start ws with
  | nil =>
    cases made
    rfl
  | @cons f x fields placed first _ ih =>
    simp only [List.map_cons, counterparts] at made
    split at made
    · cases made
    · rename_i w counterpart
      split at made
      · rename_i ws later
        cases made
        have field : ofField owner start f = .ok ⟨Kebab.ofName x.1.name, w⟩ := by
          rw [ofField, first.type, first.name]
          simp only
          rw [show [owner, x.1.name] = [owner] ++ [x.1.name] from rfl, counterpart]
          rfl
        rw [List.zipIdx_cons, List.mapM_cons, ih later]
        simp only [field]
        rfl
      · cases made

/-- Checking such a struct is checking a value of its type at the start of memory. -/
theorem Layout.structMismatches_eq {owner : Text} {fields : List FieldInfo}
    {placed : List (Member TypeRep × Nat)}
    (stand : Forall₂ FieldInfo.StandsFor fields placed)
    (witOffsets : List UInt32) (ws : List (WitField WitType)) :
    structMismatches owner fields witOffsets ws = fieldMismatches [owner] 0 0 placed witOffsets ws := by
  induction stand generalizing witOffsets ws with
  | nil => simp only [structMismatches, fieldMismatches]
  | @cons f x _ _ first _ ih =>
    cases witOffsets with
    | nil => simp only [structMismatches, fieldMismatches]
    | cons wo wos =>
      cases ws with
      | nil => simp only [structMismatches, fieldMismatches]
      | cons w ws =>
        rw [structMismatches, fieldMismatches, ih, first.type, first.name, first.offset]
        simp

namespace Layout

/-- The record of a flat struct that shows all its fields is accepted. -/
theorem structMismatches_of_flat {t : TypeRep} {members : List (Member TypeRep)} {label : Label}
    {fields : List FieldInfo} {ws : List (WitField WitType)} (owner : Text) (flat : t.Flat)
    (fits : t.size < 2 ^ 32) (struct : t.fields? = some members)
    (stand : Forall₂ FieldInfo.StandsFor fields (TypeRep.placedFields members))
    (made : WitType.IsCounterpart t (.record label ws)) :
    structMismatches owner fields (WitType.record label ws).layout.offsets ws = [] := by
  have start : (0 : UInt64).toNat = (0 : UInt32).toNat := rfl
  have small : (0 : UInt64).toNat + t.size < 2 ^ 32 := by simpa using fits
  have nothing := mismatches_of_flat flat made start small [owner]
  unfold mismatches at nothing
  split at nothing
  · cases nothing
  · rw [structMismatches_eq stand]
    simpa only [struct, Option.getD_some] using nothing

/-- A struct type of less than four gibibytes that is flat and hides no field can be described, as far as
the tags of its fields can be read, and its description passes the check; the record has the size, the
alignment and the offsets of the type. -/
theorem check_complete {t : TypeRep} {members : List (Member TypeRep)} (struct : t.fields? = some members)
    (exported : ∀ m ∈ members, isExported m.name = true)
    (tagged : ∀ m ∈ members, ∃ attrs, Attribute.ofTag m.tag = .ok attrs) (flat : t.Flat)
    (fits : t.size < 2 ^ 32) :
    ∃ s, Reflection.struct t = .ok s ∧ (check (some s)).2 = .ok () ∧
      (check (some s)).1.size.toNat = t.size ∧ (check (some s)).1.align.toNat = t.align ∧
      (check (some s)).1.offsets.map UInt32.toNat = TypeRep.offsets members := by
  have type := TypeRep.underlying_of_fields? struct
  obtain ⟨fields, described, stand⟩ :=
    Reflection.fieldsFrom_of_exported t (TypeRep.placedFields members)
      (fun x member => exported x.1 (List.of_mem_zip member).1)
      (fun x member => tagged x.1 (List.of_mem_zip member).1) 0
  have reflected : Reflection.struct t =
      .ok (.ofFields (some t) .struct t.qualifiedName [] fields) := by
    rw [Reflection.struct, struct]
    simp only [described]
    rfl
  -- The check builds the record field by field; it is the counterpart of the type all the same.
  obtain ⟨w, made⟩ := flat.counterpart [t.qualifiedName] [] t
  have shape := made
  rw [← WitType.counterpart_underlying, type, WitType.counterpart] at shape
  split at shape
  · rename_i ws counterparts
    cases shape
    have isCounterpart : WitType.IsCounterpart t (.record [] ws) := ⟨_, _, _, made⟩
    rw [← TypeRep.placedFields_fst members] at counterparts
    have record : WitType.recordFields (.ofFields (some t) .struct t.qualifiedName [] fields) = .ok ws :=
      WitType.recordFields_of_counterparts stand counterparts
    obtain ⟨extent, offsets⟩ := flat.layout isCounterpart fits
    rw [TypeRep.parts_snd_of_struct type] at offsets
    have accepted := structMismatches_of_flat t.qualifiedName flat fits struct stand isCounterpart
    refine ⟨_, reflected, ?_, ?_, ?_, ?_⟩ <;> simp only [check, record]
    · simp only [ErasedStruct.ofFields, accepted]
      rfl
    · exact congrArg Extent.size extent
    · exact congrArg Extent.align extent
    · exact offsets
  · cases shape

/-- Switches side by side behind a number, with a member without bytes before the last one. -/
def consoleFields : List (Member TypeRep) :=
  [⟨"Id", .primitive .uint8, []⟩, ⟨"Rows", .array 3 switchType, "introspect:\"size=3\""⟩,
    ⟨"Gap", .struct [], []⟩, ⟨"Total", .primitive .float64, []⟩]

theorem console_accepted : ∃ s, Reflection.struct (.struct consoleFields) = .ok s ∧
    (check (some s)).2 = .ok () ∧ (check (some s)).1.size.toNat = 40 ∧
    (check (some s)).1.align.toNat = 8 ∧
    (check (some s)).1.offsets.map UInt32.toNat = [0, 4, 28, 32] := by
  have switch : switchType.Flat := by
    refine .struct ?_ rfl
    simp only [List.forall_mem_cons]
    exact ⟨.primitive rfl, .primitive rfl, nofun⟩
  have flat : (TypeRep.struct consoleFields).Flat := by
    refine .struct ?_ rfl
    simp only [consoleFields, List.forall_mem_cons]
    exact ⟨.primitive rfl, .array (by decide) switch, .struct nofun rfl, .primitive rfl, nofun⟩
  have tagged : ∀ m ∈ consoleFields, ∃ attrs, Attribute.ofTag m.tag = .ok attrs := by
    simp only [consoleFields, List.forall_mem_cons]
    exact ⟨⟨_, rfl⟩, ⟨_, rfl⟩, ⟨_, rfl⟩, ⟨_, rfl⟩, nofun⟩
  exact check_complete rfl (by decide) tagged flat (by decide)

end Layout

end TypeAtlas
