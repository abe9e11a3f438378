import TypeAtlas.Proofs.Erasure
import TypeAtlas.Proofs.Pointer.Elements
import TypeAtlas.Proofs.Wit.Agreement

/-!
Pointers to fields. A descriptor that keeps its contract has every field inside its owner, at a multiple of
what the type of the field asks for. A pointer whose element lies inside its region so leads to pointers to
all fields that lie inside it, too, wherever in the region it is: neither the move to the field nor the
end of the field can wrap around, for both are bounded by the end of the owner.
-/

namespace TypeAtlas

namespace Pointer

variable {e f : Element} {p : Pointer e} {n k : Nat} {place : UInt64}

/-! ### Parts of what is pointed to -/

theorem toNat_offset_field (enclosed : p.Encloses n) (inside : place.toNat + k ≤ n) :
    (p.field place : Pointer f).offset.toNat = p.offset.toNat + place.toNat := by
  have room := enclosed.inside
  have size := p.region.size.toNat_lt
  show (p.offset + place).toNat = _
  rw [UInt64.toNat_add, Nat.mod_eq_of_lt (by omega)]

theorem encloses_field (enclosed : p.Encloses n) (inside : place.toNat + k ≤ n) :
    (p.field place : Pointer f).Encloses k := by
  have room := enclosed.inside
  refine ⟨enclosed.located, ?_⟩
  rw [toNat_offset_field enclosed inside]
  show _ ≤ p.region.size.toNat
  omega

/-- A region that ends inside the address space has its bytes at consecutive addresses. -/
theorem toNat_address_of_encloses (fits : p.region.Fits) (enclosed : p.Encloses n) (some : 0 < n) :
    p.address.toNat = p.region.start.toNat + p.offset.toNat := by
  obtain ⟨base, origin⟩ := enclosed.located
  have bound := fits base origin
  have room := enclosed.inside
  rw [address, UInt64.toNat_add, Region.start, origin]
  exact Nat.mod_eq_of_lt (show base.toNat + p.offset.toNat < 2 ^ 64 by omega)

theorem isAligned_field (regular : f.IsRegular) (aligned : f.align.toNat ∣ p.address.toNat)
    (placed : f.align.toNat ∣ place.toNat) : (p.field place : Pointer f).isAligned = true := by
  have address : (p.field place : Pointer f).address = p.address + place := p.address_byteAdd place
  rw [isAligned_iff, address, UInt64.toNat_add, Nat.dvd_mod_iff regular.dvd_word]
  exact Nat.dvd_add aligned placed

/-! ### Fields -/

/-- The pointer `q` to the value that lies `place` bytes into what `p` points to: it has the region of `p`,
is as far behind `p` as it should be, and can be used wherever it is aligned. -/
structure IsFieldAt {t : TypeRep} (q : Pointer (.ofType t)) (p : Pointer e) (place : UInt64) : Prop where
  region : q.region = p.region
  -- Nothing wraps around: not the offset, not the end of the value, and not the address in a real region.
  offset : q.offset.toNat = p.offset.toNat + place.toNat
  inside : q.offset.toNat + t.size ≤ q.region.size.toNat
  address : p.region.Fits → 0 < t.size → q.address.toNat = p.address.toNat + place.toNat
  inBounds : q.inBounds = true
  aligned : t.align ∣ p.address.toNat → q.isAligned = true
  usable : t.align ∣ p.address.toNat → q.reference? = some q.address

/-- Every pointer to an `owner` inside its region leads to the field. -/
def LeadsToField (owner : TypeRep) (f : FieldInfo) : Prop :=
  ∃ t, f.type = some t ∧ ∀ p : Pointer (.ofType owner), p.inBounds = true →
    (p.field f.offset : Pointer (.ofType t)).IsFieldAt p f.offset

theorem isFieldAt_field (enclosed : p.Encloses n) {t : TypeRep} (small : t.size < 2 ^ 64)
    (inside : place.toNat + t.size ≤ n) (placed : t.align ∣ place.toNat) :
    (p.field place : Pointer (.ofType t)).IsFieldAt p place := by
  have size := Element.toNat_size_ofType small
  have align := Element.toNat_align_ofType t
  have offset : (p.field place : Pointer (.ofType t)).offset.toNat = p.offset.toNat + place.toNat :=
    toNat_offset_field enclosed inside
  have part : (p.field place : Pointer (.ofType t)).Encloses t.size := encloses_field enclosed inside
  have bounds : (p.field place : Pointer (.ofType t)).inBounds = true := by
    rw [inBounds, hasBytes_iff, size]
    exact part
  have aligned (multiple : t.align ∣ p.address.toNat) :
      (p.field place : Pointer (.ofType t)).isAligned = true := by
    rw [← align] at multiple placed
    exact isAligned_field (Element.isRegular_ofType small) multiple placed
  constructor
  case region => rfl
  case offset => exact offset
  case inside => exact part.inside
  case address =>
    intro fits some
    have here := toNat_address_of_encloses fits enclosed (by omega)
    have there := toNat_address_of_encloses (p := (p.field place : Pointer (.ofType t))) fits part some
    rw [there, offset, here]
    exact (Nat.add_assoc ..).symm
  case inBounds => exact bounds
  case aligned => exact aligned
  case usable =>
    intro multiple
    rw [reference?, bounds, aligned multiple]
    rfl

/-- The fields of one owner, when they keep their promises together. -/
theorem leadsToField_of_kept {owner : TypeRep} (word : owner.size < 2 ^ 64) {count : Int}
    {fields : List FieldInfo} {listType : Option TypeRep}
    (kept : Contract.FieldsKept (some owner) count fields listType) :
    ∀ f ∈ fields, LeadsToField owner f := by
  intro f member
  obtain ⟨i, found⟩ := List.getElem?_of_mem member
  obtain ⟨t, type, placed, inside⟩ := (kept.kept i f found).placed
  have room := inside owner rfl
  refine ⟨t, type, ?_⟩
  intro p bounds
  rw [inBounds, hasBytes_iff, Element.toNat_size_ofType word] at bounds
  exact isFieldAt_field bounds (by omega) room (Nat.dvd_of_mod_eq_zero placed)

/-- Descriptors that keep the contract give safe addresses of fields, of those of a struct in the struct and
of those of a variant in the type of the variant. Types are as large as a word can say. -/
theorem field_pointers_safe {owner : TypeRep} (word : owner.size < 2 ^ 64) :
    (∀ s : StructInfo, s.validate = .ok () → s.type = some owner → ∀ f ∈ s.fields, LeadsToField owner f) ∧
      ∀ e : EnumInfo, e.validate = .ok () → ∀ v ∈ e.variants, v.type = some owner →
        ∀ f ∈ v.fields, LeadsToField owner f := by
  constructor
  · intro s valid type
    obtain ⟨_, _, _, kept⟩ := StructInfo.validate_iff.mp valid
    rw [type] at kept
    exact leadsToField_of_kept word kept
  · intro e valid v member type
    have kept := EnumInfo.fieldsKept_of_validate valid v member
    rw [type] at kept
    exact leadsToField_of_kept word kept

/-- The last sixteen bytes of a region that takes nearly all addresses. -/
def lastPointer (e : Element) : Pointer e :=
  ⟨⟨.address 16, 0xFFFFFFFFFFFFFFE0⟩, 0xFFFFFFFFFFFFFFD0⟩

theorem lastPointer_fields :
    Layout.panel.info.validate = .ok () ∧ Descriptor.beaconInfo.validate = .ok () ∧
      ((lastPointer (.ofType Layout.panelType)).field 8 : Pointer (.ofType Layout.switchType)).inBounds =
        true ∧
      ((lastPointer (.ofType Descriptor.flashType)).field 8 :
          Pointer (.ofType (.primitive .int64))).reference? = some 0xFFFFFFFFFFFFFFE8 := by
  have struct : Layout.panel.info.validate = .ok () := rfl
  have enum : Descriptor.beaconInfo.validate = .ok () := rfl
  obtain ⟨panels, _⟩ := @field_pointers_safe Layout.panelType (by decide)
  obtain ⟨_, flashes⟩ := @field_pointers_safe Descriptor.flashType (by decide)
  obtain ⟨_, switch, main⟩ := panels _ struct rfl _ (List.mem_of_getElem? (i := 3) rfl)
  obtain ⟨_, number, period⟩ := flashes _ enum _ (List.mem_of_getElem? (i := 0) rfl) rfl _
    (List.mem_of_getElem? (i := 1) rfl)
  cases switch
  cases number
  exact ⟨struct, enum, (main (lastPointer _) (by decide)).inBounds,
    (period (lastPointer _) (by decide)).usable (by decide)⟩

end Pointer

end TypeAtlas
