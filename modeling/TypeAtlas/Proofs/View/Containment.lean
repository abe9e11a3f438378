import TypeAtlas.Proofs.Registry.Vetting
import TypeAtlas.Proofs.View.RoundTrip

/-!
Whether the fields of a view lie inside its values. Making a view compares the fields of a struct with its
record and not with the type that it is for, so a struct that nobody held to its contract may have fields
past the end of the values, and the record of a very large value may be counted too short. Loading fills
every visible field exactly when neither is the case.
-/

namespace TypeAtlas

namespace View

/-! ### Structs that were held to their contract -/

/-- The struct of a view of type `t` was checked: it was given and keeps its contract, or a registry that
validates answers for it. -/
inductive IsVetted (t : TypeRep) (r : Registry) : Option ErasedStruct → Prop
  | given {s : ErasedStruct} : s.info.validate = .ok () → IsVetted t r (some s)
  | registry : r.Reachable → r.validates = true →
      (∀ members, t.fields? = some members → t.IsStruct members) → IsVetted t r none

theorem info_of_ofStruct {v : View} {t : TypeRep} {s : ErasedStruct} (made : ofStruct t s = .ok v) :
    v.info = s := by
  unfold ofStruct at made
  split at made
  · cases made
  · split at made
    · cases made
    · split at made
      · cases made
        rfl
      · cases made

theorem validate_of_vetted {v : View} {memory : Option LinearMemory} {given : Option ErasedStruct}
    {t : TypeRep} {r : Registry} (made : (resolve memory given t r).2 = .ok v)
    (vetted : IsVetted t r given) : v.info.info.validate = .ok () := by
  unfold resolve at made
  split at made
  · cases made
  · cases vetted with
    | given valid =>
      rw [info_of_ofStruct made]
      exact valid
  · cases vetted with
    | registry reachable validates proper =>
      split at made
      · rename_i answer
        rw [info_of_ofStruct made]
        exact Registry.validate_of_struct reachable validates proper (by rw [answer])
      · cases made

/-! ### Values that are filled -/

/-- Every byte of a visible field of the value is the one that memory has for it, with truth values
settled. -/
def Fills (v : View) (m : LinearMemory) (addr : UInt32) (value : List UInt8) : Prop :=
  ∀ x ∈ v.placedFields, ∀ t, x.1.type = some t → ∀ i < t.size,
    value[x.1.offset.toNat + i]? =
      some (Bytes.settle (t.isBoolAt i) (m.byte (addr + x.2 + UInt32.ofNat i)))

/-- Loading fills the visible fields from every record that lies inside memory. -/
def FillsAlways (v : View) : Prop :=
  ∀ (m : LinearMemory) (addr : UInt32), m.readable = true →
    addr.toNat + v.layout.size.toNat ≤ m.size.toNat →
      ∃ value, v.load m addr = .ok value ∧ v.Fills m addr value

theorem IsChecked.fillsAlways {v : View} (checked : v.IsChecked) (inValue : v.FitsValue)
    (inRecord : v.FitsRecord) : v.FillsAlways := by
  intro m addr readable room
  have ordered := checked.fieldsInOrder inRecord
  obtain ⟨value, loaded, _, bytes⟩ := checked.load_of_fits addr inValue inRecord readable room
  refine ⟨value, loaded, ?_⟩
  intro x member t type i position
  have same := (checked.placed x member).2
  have inside := inValue x.1 (mem_of_placedFields member) t type (by omega)
  have covers : x.1.covers x.2.toNat (x.1.offset.toNat + i) = true :=
    (FieldInfo.covers_iff type _ _).mpr (by omega)
  have visible : v.isVisible (x.1.offset.toNat + i) = true := by
    rw [← checked.covered_placedFields]
    exact List.any_eq_true.mpr ⟨x, member, covers⟩
  have truth : v.isBool (x.1.offset.toNat + i) = t.isBoolAt i := by
    rw [← checked.boolIn_placedFields, ordered.boolIn_of_covers member covers]
    simp [FieldInfo.boolAt, type, same]
  have place : addr + UInt32.ofNat (x.1.offset.toNat + i) = addr + x.2 + UInt32.ofNat i := by
    rw [same, UInt32.ofNat_add, UInt32.ofNat_toNat, UInt32.add_assoc]
  rw [bytes _ (by omega), if_pos visible, truth, place]

/-! ### Values that are not -/

/-- A decoded value is whole, and zero where the record had no bytes for it. -/
theorem IsChecked.decode_eq_ok {v : View} (checked : v.IsChecked) {record value : List UInt8}
    (decoded : v.decode record = .ok value) :
    value.length = v.type.size ∧ BlankFrom record.length value := by
  constructor
  · rcases checked.decode_cases record with ⟨stopped, _⟩ | ⟨out, taken, length, _⟩
    · rw [stopped] at decoded
      cases decoded
    · rw [taken] at decoded
      cases decoded
      exact length
  · have zeros : BlankFrom record.length (List.replicate v.type.size 0) := by
      intro i b _ found
      exact List.eq_of_mem_replicate (List.mem_of_getElem? found)
    unfold decode at decoded
    split at decoded
    · rename_i taken
      cases decoded
      exact zeros.decodeFields (fun x member => (checked.placed x member).2) taken
    · cases decoded

/-- Just enough memory for the record, with no zero in it. -/
def onesMemory (v : View) : LinearMemory :=
  { size := v.layout.size, byte := fun _ => 1 }

/-- The last byte of a field that is filled from memory without a zero lies inside the value and inside
the record. -/
theorem IsChecked.fits_of_fillsAlways {v : View} (checked : v.IsChecked) (fills : v.FillsAlways) :
    v.FitsValue ∧ v.FitsRecord := by
  have room : (0 : UInt32).toNat + v.layout.size.toNat ≤ v.onesMemory.size.toNat :=
    Nat.le_of_eq (Nat.zero_add _)
  obtain ⟨value, loaded, filled⟩ := fills v.onesMemory 0 rfl room
  rw [load_inside rfl room] at loaded
  obtain ⟨length, blank⟩ := checked.decode_eq_ok loaded
  rw [LinearMemory.length_bytes] at blank
  have last {f : FieldInfo} (member : f ∈ v.info.fields) {t : TypeRep} (type : f.type = some t)
      (positive : 0 < t.size) : value[f.offset.toNat + (t.size - 1)]? = some 1 := by
    obtain ⟨place, placed⟩ := checked.exists_place member
    rw [filled _ placed t type _ (by omega)]
    exact congrArg some (Bytes.settle_of_le _ (show (1 : UInt8) ≤ 1 by decide))
  constructor
  · intro f member t type positive
    have position := (List.getElem?_eq_some_iff.mp (last member type positive)).1
    omega
  · intro f member t type positive
    apply Nat.le_of_not_lt
    intro past
    have zero := blank _ 1 (by omega) (last member type positive)
    exact absurd zero (by decide)

/-! ### Views that stay inside their values -/

/-- Of every view, whatever its struct comes from: if the struct was held to its contract, every visible
field lies inside the value; if the fields with bytes lie inside a value of less than four gigabytes, they
lie inside the record; loading fills all visible fields from every record inside memory exactly if those
with bytes lie inside both; and what goes wrong otherwise is that a field is left unfilled or, where it has
truth values and begins past the end of the value, that loading is stopped. -/
theorem load_fills_iff_fits {v : View} {memory : Option LinearMemory} {given : Option ErasedStruct}
    {t : TypeRep} {r : Registry} (made : (resolve memory given t r).2 = .ok v) :
    (IsVetted t r given →
        ∀ f ∈ v.info.fields, ∃ u, f.type = some u ∧ f.offset.toNat + u.size ≤ t.size) ∧
      (v.FitsValue → t.size + 8 ≤ 2 ^ 32 → v.FitsRecord) ∧
      (v.FillsAlways ↔ v.FitsValue ∧ v.FitsRecord) ∧
      ∀ (m : LinearMemory) (addr : UInt32), m.readable = true →
        addr.toNat + v.layout.size.toNat ≤ m.size.toNat →
          v.load m addr = .error (.trap .absent) ∧ (∃ f ∈ v.info.fields, f.TruthPast t.size) ∨
            ∃ value, v.load m addr = .ok value ∧ value.length = t.size ∧
              ∀ f ∈ v.info.fields, ¬ f.TruthPast t.size := by
  obtain ⟨rfl, checked⟩ := isChecked_of_resolve made
  refine ⟨?_, checked.fitsRecord, ⟨checked.fits_of_fillsAlways, ?_⟩, ?_⟩
  · intro vetted
    exact StructInfo.field_inside (validate_of_vetted made vetted) checked.type
  · rintro ⟨inValue, inRecord⟩
    exact checked.fillsAlways inValue inRecord
  · intro m addr readable room
    rw [load_inside readable room]
    exact checked.decode_cases _

/-- A type without fields. -/
def bareType : TypeRep :=
  .named ⟨"example.com/atlas", "atlas", "Bare"⟩ (.struct [])

/-- A field that the type does not have. -/
def strayField : FieldInfo :=
  { index := 0, name := "Lit", offset := 0, attrs := [], owner := some bareType,
    type := some (.primitive .bool) }

def bareStruct : ErasedStruct :=
  .ofFields (some bareType) .struct "Bare" [] [strayField]

def bareView : View :=
  ⟨bareType, bareStruct, (Layout.check (some bareStruct)).1⟩

theorem bare_load_stops :
    (resolve (some .page) (some bareStruct) bareType {}).2 = .ok bareView ∧
      bareView.load .page 0 = .error (.trap .absent) ∧ ¬ bareView.FillsAlways := by
  have made : (resolve (some .page) (some bareStruct) bareType {}).2 = .ok bareView := rfl
  obtain ⟨_, _, exactly, outcome⟩ := load_fills_iff_fits made
  have late : strayField.TruthPast bareType.size := ⟨_, rfl, rfl, Nat.zero_le _⟩
  refine ⟨made, ?_, ?_⟩
  · rcases outcome .page 0 rfl (by decide) with ⟨stopped, _⟩ | ⟨_, _, _, clear⟩
    · exact stopped
    · exact absurd late (clear _ List.mem_cons_self)
  · intro fills
    have fits := (exactly.mp fills).1
    exact (fits _ List.mem_cons_self).not_truthPast late

end View

end TypeAtlas
