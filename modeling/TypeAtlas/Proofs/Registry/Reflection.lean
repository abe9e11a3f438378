import Mathlib.Algebra.Group.Nat.Defs
import TypeAtlas.Proofs.Attribute.Reading
import TypeAtlas.Proofs.Contract
import TypeAtlas.Proofs.Extent
import TypeAtlas.Proofs.Registry.Stability

/-!
Descriptions by reflection. Whatever a registry describes by itself keeps the contract that it asks of
others: the exported fields in their order, numbered from zero, where the type has them. That they lie
inside the type at aligned offsets is the rule by which structs are laid out, and that no name comes
twice is a rule of struct types.
-/

namespace TypeAtlas

/-! ### Attributes that were read -/

namespace Attribute

theorem name_of_ofTag {tag : Text} {attrs : List Attribute} (read : ofTag tag = .ok attrs) :
    ∀ a ∈ attrs, a.name ≠ [] := by
  unfold ofTag at read
  split at read
  · rename_i t _
    intro a member
    obtain ⟨e, _, entry⟩ := exists_of_mapM_eq_ok read a member
    exact (ofEntry_eq_ok_iff.mp entry).isName.1
  · cases read
    simp

end Attribute

/-! ### Aligned members -/

theorem Extent.offsetsFrom_aligned (start : Nat) (members : List Extent) :
    ∀ x ∈ members.zip (offsetsFrom start members), x.2 % x.1.align = 0 := by
  induction members generalizing start with
  | nil => simp
  | cons e rest ih =>
    rw [offsetsFrom, List.zip_cons_cons, List.forall_mem_cons]
    exact ⟨roundUp_mod_eq_zero start e.align, ih _⟩

theorem TypeRep.placedField_aligned {fields : List (Member TypeRep)} {m : Member TypeRep} {o : Nat}
    (member : (m, o) ∈ placedFields fields) : o % m.type.align = 0 := by
  have extents : (m.type.extent, o) ∈ (extents fields).zip (offsets fields) := by
    rw [extents_eq_map, ← List.map_id (offsets fields), List.zip_map]
    exact List.mem_map.mpr ⟨_, member, rfl⟩
  exact Extent.offsetsFrom_aligned 0 _ _ extents

namespace Reflection

/-! ### The visible fields -/

/-- The members of a struct that other packages see, with their offsets. -/
def visible (members : List (Member TypeRep)) : List (Member TypeRep × Nat) :=
  (TypeRep.placedFields members).filter fun x => isExported x.1.name

/-- A field says of a member where it stands among the visible ones and what the type says of it. -/
structure Describes (owner : TypeRep) (position : Nat) (f : FieldInfo) (x : Member TypeRep × Nat) :
    Prop where
  index : f.index = position
  name : f.name = x.1.name
  offset : f.offset = UInt64.ofNat x.2
  attrs : Attribute.ofTag x.1.tag = .ok f.attrs
  owner : f.owner = some owner
  type : f.type = some x.1.type

theorem fieldsFrom_describes {owner : TypeRep} {index : Nat} {placed : List (Member TypeRep × Nat)}
    {fields : List FieldInfo} (read : fieldsFrom owner index placed = .ok fields) :
    fields.length = (placed.filter fun x => isExported x.1.name).length ∧
      ∀ i f x, fields[i]? = some f → (placed.filter fun x => isExported x.1.name)[i]? = some x →
        Describes owner (index + i) f x := by
  induction placed generalizing index fields with
  | nil =>
    cases read
    exact ⟨rfl, fun i f x found => by simp at found⟩
  | cons x rest ih =>
    rw [fieldsFrom] at read
    split at read
    · rename_i hidden
      rw [List.filter_cons_of_neg (by simpa using hidden)]
      exact ih read
    · rename_i shown
      rw [List.filter_cons_of_pos (by simpa using shown)]
      split at read
      · cases read
      rename_i attrs tag
      split at read
      · cases read
      rename_i later rest
      cases read
      obtain ⟨length, each⟩ := ih rest
      refine ⟨by rw [List.length_cons, List.length_cons, length], ?_⟩
      intro i f y found place
      cases i with
      | zero =>
        cases found
        cases place
        exact ⟨rfl, rfl, rfl, tag, rfl, rfl⟩
      | succ i => simpa [Nat.add_assoc, Nat.add_comm 1 i] using each i f y found place

/-- The description of a struct type lists its visible members. -/
theorem struct_eq_ok {t : TypeRep} {members : List (Member TypeRep)} {m : ErasedStruct}
    (struct : t.fields? = some members) (described : Reflection.struct t = .ok m) :
    m = .ofFields (some t) .struct t.qualifiedName [] m.fields ∧
      m.fields.length = (visible members).length ∧
      ∀ i f x, m.fields[i]? = some f → (visible members)[i]? = some x → Describes t i f x := by
  rw [Reflection.struct, struct] at described
  cases read : fieldsFrom t 0 (TypeRep.placedFields members) with
  | error f =>
    simp only [read] at described
    cases described
  | ok fields =>
    simp only [read] at described
    cases described
    obtain ⟨length, each⟩ := fieldsFrom_describes read
    refine ⟨rfl, length, ?_⟩
    intro i f x found place
    simpa using each i f x found place

end Reflection

/-! ### Struct types -/

/-- What holds of every struct type of a program: a declared type has a name, only blank fields share
theirs, and the bytes of a value can be counted. -/
structure TypeRep.IsStruct (t : TypeRep) (members : List (Member TypeRep)) : Prop where
  struct : t.fields? = some members
  declared : ∀ n d, t = .named n d → n.name ≠ []
  distinct : ((members.map Member.name).filter fun name => name ≠ ("_" : Text)).Nodup
  fits : t.size < 2 ^ 63

namespace TypeRep.IsStruct

variable {t : TypeRep} {members : List (Member TypeRep)}

theorem qualifiedName_ne_nil (proper : t.IsStruct members) : t.qualifiedName ≠ [] := by
  have struct := proper.struct
  cases t with
  | named n d =>
    have name := proper.declared n d rfl
    rw [qualifiedName]
    split
    · rw [text, TypeName.short]
      split <;> simp [name]
    · simp [TypeName.qualified, name]
  | struct fields =>
    rw [qualifiedName]
    · cases fields with
      | nil => decide
      | cons f rest =>
        rw [text]
        · exact fun nothing => absurd (List.append_eq_nil_iff.mp (List.append_eq_nil_iff.mp nothing).1).1
            (by decide)
        · simp
    · simp
  | _ => simp [fields?, underlying] at struct

theorem size_eq (proper : t.IsStruct members) : (TypeRep.struct members).size = t.size := by
  have underlying : t.underlying = .struct members := by
    have struct := proper.struct
    unfold fields? at struct
    split at struct
    · rename_i fields same
      rw [same, Option.some.inj struct]
    · cases struct
  rw [← underlying, size_underlying]

theorem offset_toNat (proper : t.IsStruct members) {x : Member TypeRep × Nat}
    (member : x ∈ Reflection.visible members) : (UInt64.ofNat x.2).toNat = x.2 := by
  have inside := placedField_inside (List.mem_filter.mp member).1
  rw [proper.size_eq] at inside
  have fits := proper.fits
  exact UInt64.toNat_ofNat_of_lt' (show x.2 < 2 ^ 64 by omega)

theorem visible_names (members : List (Member TypeRep)) :
    (Reflection.visible members).map (fun x => x.1.name) = (members.map Member.name).filter isExported := by
  have fsts : (placedFields members).map Prod.fst = members :=
    List.map_fst_zip (Nat.le_of_eq (length_offsets members).symm)
  calc (Reflection.visible members).map (fun x => x.1.name)
    _ = (((placedFields members).map Prod.fst).map Member.name).filter isExported := by
      rw [List.map_map, List.filter_map]
      rfl
    _ = (members.map Member.name).filter isExported := by rw [fsts]

theorem visible_distinct (proper : t.IsStruct members) :
    ((Reflection.visible members).map fun x => x.1.name).Nodup := by
  have blank : isExported ("_" : Text) = false := by decide
  have named : (members.map Member.name).filter isExported =
      ((members.map Member.name).filter fun name => name ≠ ("_" : Text)).filter isExported := by
    rw [List.filter_filter]
    apply List.filter_congr
    intro name _
    by_cases same : name = ("_" : Text)
    · simp [same, blank]
    · simp [same]
  rw [visible_names, named]
  exact proper.distinct.filter _

end TypeRep.IsStruct

/-- The list of erased fields stands in for the type that lists them. -/
theorem ErasedStruct.lists_fields (fields : List FieldInfo) :
    Contract.Lists (if fields.isEmpty then TypeRep.noType else fieldsType) fields.length := by
  cases fields with
  | nil => exact ⟨by simp, fun other => absurd rfl other⟩
  | cons f rest =>
    constructor
    · simp [fieldsType, TypeRep.noType, TypeRep.libraryType]
    · intro _ fields struct
      cases struct

namespace Reflection

variable {t : TypeRep} {members : List (Member TypeRep)} {m : ErasedStruct}

theorem fieldsKept (proper : t.IsStruct members) (described : Reflection.struct t = .ok m) :
    Contract.FieldsKept m.info.type m.info.count m.info.fields m.info.listType := by
  obtain ⟨shape, length, each⟩ := struct_eq_ok proper.struct described
  have type : m.info.type = some t := type_of_struct described
  have partner {i : Nat} {f : FieldInfo} (found : m.fields[i]? = some f) :
      ∃ x, (visible members)[i]? = some x ∧ Describes t i f x := by
    have bound := (List.getElem?_eq_some_iff.mp found).1
    rw [length] at bound
    have place := List.getElem?_eq_getElem bound
    exact ⟨_, place, each i f _ found place⟩
  constructor
  case counted => rfl
  case listed =>
    have listType : m.info.listType =
        some (if m.fields.isEmpty then TypeRep.noType else ErasedStruct.fieldsType) :=
      congrArg ErasedStruct.listType shape
    exact ⟨_, listType, ErasedStruct.lists_fields m.fields⟩
  case kept =>
    intro i f found
    obtain ⟨x, place, describes⟩ := partner found
    have member := List.mem_of_getElem? place
    have placed := (List.mem_filter.mp member).1
    have offset : f.offset.toNat = x.2 := by
      rw [describes.offset, proper.offset_toNat member]
    rw [type]
    refine ⟨describes.index, describes.owner, Attribute.name_of_ofTag describes.attrs, x.1.type,
      describes.type, ?_, ?_⟩
    · rw [offset]
      exact TypeRep.placedField_aligned placed
    · rintro o ⟨⟩
      rw [offset, ← proper.size_eq]
      exact TypeRep.placedField_inside placed
  case distinct =>
    have names : m.fields.map FieldInfo.name = (visible members).map fun x => x.1.name := by
      apply List.ext_getElem?
      intro i
      rw [List.getElem?_map, List.getElem?_map]
      cases found : m.fields[i]? with
      | none =>
        have outside := List.getElem?_eq_none_iff.mp found
        rw [length] at outside
        rw [List.getElem?_eq_none outside]
        rfl
      | some f =>
        obtain ⟨x, place, describes⟩ := partner found
        rw [place, Option.map_some, Option.map_some, describes.name]
    have distinct := proper.visible_distinct
    rw [← names] at distinct
    exact (List.pairwise_map.mp distinct).imp fun other => .inr (Ne.symm other)

theorem validate_struct (proper : t.IsStruct members) (described : Reflection.struct t = .ok m) :
    m.info.validate = .ok () := by
  obtain ⟨shape, _⟩ := struct_eq_ok proper.struct described
  rw [StructInfo.validate_iff]
  refine ⟨?_, ?_, ?_, fieldsKept proper described⟩
  · rw [shape]
    exact proper.qualifiedName_ne_nil
  · rw [shape]
    rfl
  · rw [shape]
    simp [ErasedStruct.info, ErasedStruct.ofFields]

end Reflection

namespace Registry

/-- What a registry answers for a struct type by reflection, now or from an earlier lookup, keeps the
contract. Its fields are the exported ones of the type in their order, numbered from zero whatever stands
between them, each with the offset and the type that it has in the struct. -/
theorem reflected_keeps_contract {r : Registry} {t : TypeRep} {members : List (Member TypeRep)}
    {m : ErasedStruct} (reachable : r.Reachable) (proper : t.IsStruct members)
    (answer : (r.struct (some t)).2 = .ok m)
    (reflected : (r.struct (some t)).1.isReflected (some t) = true) :
    m.info.validate = .ok () ∧
      m.fields.length = (Reflection.visible members).length ∧
      ∀ (i : Nat) (f : FieldInfo) (x : Member TypeRep × Nat), m.fields[i]? = some f →
        (Reflection.visible members)[i]? = some x →
        f.index = i ∧ f.name = x.1.name ∧ f.type = some x.1.type ∧ f.offset.toNat = x.2 ∧
          f.owner = some t := by
  have after := (consistent_of_reachable reachable).step (r.step_struct (some t))
  obtain ⟨u, m', type, stored, described⟩ := after.reflected (some t) reflected
  cases type
  rw [get?_of_struct answer] at stored
  cases stored
  obtain ⟨_, length, each⟩ := Reflection.struct_eq_ok proper.struct described
  refine ⟨Reflection.validate_struct proper described, length, ?_⟩
  intro i f x found place
  have describes := each i f x found place
  refine ⟨describes.index, describes.name, describes.type, ?_, describes.owner⟩
  rw [describes.offset, proper.offset_toNat (List.mem_of_getElem? place)]

/-- Blank and hidden fields between the visible ones, and a last field without bytes. -/
def lanternFields : List (Member TypeRep) :=
  [⟨"Lit", .primitive .bool, []⟩, ⟨"_", .primitive .uint8, []⟩, ⟨"oil", .primitive .int64, []⟩,
    ⟨"Panes", .array 3 (.primitive .uint16), "introspect:\"unit=mm,flat\""⟩, ⟨"_", .struct [], []⟩,
    ⟨"Hook", .struct [], []⟩]

def lanternType : TypeRep :=
  .named ⟨"example.com/atlas", "atlas", "Lantern"⟩ (.struct lanternFields)

theorem lantern_described :
    ∃ m, (({} : Registry).struct (some lanternType)).2 = .ok m ∧ m.info.validate = .ok () ∧
      m.fields.map (fun f => (f.index, f.name, f.offset.toNat)) =
        ([(0, "Lit", 0), (1, "Panes", 16), (2, "Hook", 22)] : List (Int × Text × Nat)) := by
  have proper : lanternType.IsStruct lanternFields := by
    refine ⟨rfl, ?_, by decide, by decide⟩
    rintro n d ⟨⟩
    decide
  have reachable : ({} : Registry).Reachable := ⟨true, true, [], rfl⟩
  refine ⟨_, rfl, (reflected_keeps_contract reachable proper rfl (by decide)).1, ?_⟩
  decide

end Registry

end TypeAtlas
