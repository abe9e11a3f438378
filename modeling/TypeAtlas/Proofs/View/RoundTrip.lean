import TypeAtlas.Proofs.Contract
import TypeAtlas.Proofs.View.Fields
import TypeAtlas.Proofs.Wit.Agreement

/-!
A value that a view stores is the value that it loads again. The fields of a view lie in the value where
they lie in the record, one after another and inside both, so each byte of a visible field is carried over
once and nothing else is touched.
-/

namespace TypeAtlas

namespace View

/-! ### Views that exist -/

/-- What is known of every view that was made: its struct describes its type and was found to lie in
memory as its record does. -/
structure IsChecked (v : View) : Prop where
  type : v.info.type = some v.type
  accepted : Layout.check (some v.info) = (v.layout, .ok ())

theorem isChecked_of_ofStruct {v : View} {t : TypeRep} {s : ErasedStruct} (made : ofStruct t s = .ok v) :
    v.type = t ∧ v.IsChecked := by
  unfold ofStruct at made
  split at made
  · cases made
  · rename_i described type
    split at made
    · cases made
    · rename_i same
      split at made
      · rename_i layout accepted
        cases made
        exact ⟨rfl, by rw [type, Decidable.not_not.mp same], accepted⟩
      · cases made

theorem isChecked_of_resolve {v : View} {memory : Option LinearMemory} {given : Option ErasedStruct}
    {t : TypeRep} {r : Registry} (made : (resolve memory given t r).2 = .ok v) :
    v.type = t ∧ v.IsChecked := by
  unfold resolve at made
  split at made
  · cases made
  · exact isChecked_of_ofStruct made
  · split at made
    · exact isChecked_of_ofStruct made
    · cases made

/-! ### Where the fields of a view lie -/

theorem fieldsInOrder_of_pieces {start limit : Nat} {placed : List (FieldInfo × UInt32)}
    {pieces : List (Nat × Nat)} (ordered : InOrder start limit pieces)
    (located : ∀ (i : Nat) f place, placed[i]? = some (f, place) →
      ∃ t, f.type = some t ∧ f.offset.toNat = place.toNat ∧ pieces[i]? = some (place.toNat, t.size)) :
    FieldsInOrder start limit placed := by
  induction placed generalizing start pieces with
  | nil => exact ordered.start_le
  | cons x rest ih =>
    obtain ⟨f, place⟩ := x
    obtain ⟨t, type, same, here⟩ := located 0 f place rfl
    cases pieces with
    | nil => cases here
    | cons piece others =>
      obtain rfl : piece = (place.toNat, t.size) := Option.some.inj here
      exact ⟨t, type, same, ordered.1, ih ordered.2 fun i => located (i + 1)⟩

/-- Every visible field has its place in the record, at the offset that it has in the value, and its
piece of the row that the record is laid out as. -/
theorem IsChecked.row {v : View} (checked : v.IsChecked) :
    ∃ members, (∀ p ∈ members, IsAlignment p.align) ∧ members.length = v.info.fields.length ∧
      v.layout.size = alignTo (Row.stopAfter 0 members) (Row.alignAfter 1 members) ∧
      ∀ (i : Nat) f, v.info.fields[i]? = some f → ∃ t place, f.type = some t ∧
        v.layout.offsets[i]? = some place ∧ f.offset.toNat = place.toNat ∧
        (Row.piecesAfter 0 members)[i]? = some (place.toNat, t.size) := by
  obtain ⟨fields, made, layout, nothing⟩ :=
    Layout.check_eq_ok (s := v.info) (by rw [checked.accepted])
  rw [checked.accepted] at layout
  have offsets : v.layout.offsets = (WitType.record [] fields).layout.offsets :=
    congrArg Layout.offsets layout
  have size : v.layout.size = (WitType.record [] fields).layout.size := congrArg Layout.size layout
  have row := WitType.layout_record [] fields
  refine ⟨(WitType.record [] fields).parts.map WitType.layout,
    (WitType.record [] fields).parts_isAlignment, ?_, ?_, ?_⟩
  · rw [List.length_map, WitType.parts, List.length_map, (WitType.recordFields_members made).1]
  · rw [size, row, WitType.parts, List.map_map]
    rfl
  · intro i f found
    obtain ⟨t, place, type, laid, same, piece⟩ := Layout.accepted_piece made nothing found
    exact ⟨t, place, type, by rw [offsets, laid], same, piece⟩

/-- Every visible field that has bytes lies inside the values of the view. -/
def FitsValue (v : View) : Prop :=
  ∀ f ∈ v.info.fields, f.EndsBy v.type.size

/-- Every visible field that has bytes lies inside the record of the view. -/
def FitsRecord (v : View) : Prop :=
  ∀ f ∈ v.info.fields, f.EndsBy v.layout.size.toNat

instance (v : View) : Decidable v.FitsValue :=
  inferInstanceAs (Decidable (∀ f ∈ v.info.fields, f.EndsBy v.type.size))

instance (v : View) : Decidable v.FitsRecord :=
  inferInstanceAs (Decidable (∀ f ∈ v.info.fields, f.EndsBy v.layout.size.toNat))

theorem fitsValue_of_valid {v : View} (checked : v.IsChecked) (valid : v.info.info.validate = .ok ()) :
    v.FitsValue := by
  intro f member t type _
  obtain ⟨t', type', inside⟩ := StructInfo.field_inside valid checked.type f member
  obtain rfl : t = t' := Option.some.inj (type.symm.trans type')
  exact inside

theorem IsChecked.exists_place {v : View} (checked : v.IsChecked) {f : FieldInfo}
    (member : f ∈ v.info.fields) : ∃ place, (f, place) ∈ v.placedFields := by
  obtain ⟨_, _, _, _, located⟩ := checked.row
  obtain ⟨i, found⟩ := List.getElem?_of_mem member
  obtain ⟨_, place, _, laid, _⟩ := located i f found
  exact ⟨place, List.mem_of_getElem? (List.getElem?_zip_eq_some.mpr ⟨found, laid⟩)⟩

theorem IsChecked.placed {v : View} (checked : v.IsChecked) :
    ∀ x ∈ v.placedFields, (∃ t, x.1.type = some t) ∧ x.1.offset.toNat = x.2.toNat := by
  rintro ⟨f, place⟩ member
  obtain ⟨_, _, _, _, located⟩ := checked.row
  obtain ⟨i, found⟩ := List.getElem?_of_mem member
  obtain ⟨field, laid⟩ := List.getElem?_zip_eq_some.mp found
  obtain ⟨t, place', type, laid', same, _⟩ := located i f field
  obtain rfl : place = place' := Option.some.inj (laid.symm.trans laid')
  exact ⟨⟨t, type⟩, same⟩

theorem mem_of_placedFields {v : View} {x : FieldInfo × UInt32} (member : x ∈ v.placedFields) :
    x.1 ∈ v.info.fields :=
  (List.of_mem_zip (show (x.1, x.2) ∈ v.info.fields.zip v.layout.offsets from member)).1

/-- The pieces of the row that have bytes end where the fields do. -/
theorem bounded_pieces {v : View} {members : List Placement} {limit : Nat}
    (length : members.length = v.info.fields.length)
    (located : ∀ (i : Nat) f, v.info.fields[i]? = some f → ∃ t place, f.type = some t ∧
      v.layout.offsets[i]? = some place ∧ f.offset.toNat = place.toNat ∧
      (Row.piecesAfter 0 members)[i]? = some (place.toNat, t.size))
    (fits : ∀ f ∈ v.info.fields, f.EndsBy limit) :
    ∀ offset size, (offset, size) ∈ Row.piecesAfter 0 members → 0 < size → offset + size ≤ limit := by
  intro offset size member positive
  obtain ⟨i, position, piece⟩ := List.mem_iff_getElem.mp member
  have field := List.getElem?_eq_getElem (l := v.info.fields) (i := i)
    (by simpa [Row.piecesAfter, length] using position)
  obtain ⟨t, place, type, _, same, found⟩ := located i _ field
  rw [List.getElem?_eq_getElem position, piece] at found
  cases found
  have ends := fits _ (List.mem_of_getElem? field) t type positive
  omega

theorem fieldsInOrder_of_row {v : View} {members : List Placement} {limit : Nat}
    (located : ∀ (i : Nat) f, v.info.fields[i]? = some f → ∃ t place, f.type = some t ∧
      v.layout.offsets[i]? = some place ∧ f.offset.toNat = place.toNat ∧
      (Row.piecesAfter 0 members)[i]? = some (place.toNat, t.size))
    (ordered : InOrder 0 limit (Row.piecesAfter 0 members)) : FieldsInOrder 0 limit v.placedFields := by
  apply fieldsInOrder_of_pieces ordered
  intro i f place found
  obtain ⟨field, laid⟩ := List.getElem?_zip_eq_some.mp found
  obtain ⟨t, place', type, laid', same, piece⟩ := located i f field
  obtain rfl : place = place' := Option.some.inj (laid.symm.trans laid')
  exact ⟨t, type, same, piece⟩

/-- Fields that lie inside the record follow one another. -/
theorem IsChecked.fieldsInOrder {v : View} (checked : v.IsChecked) (record : v.FitsRecord) :
    FieldsInOrder 0 v.layout.size.toNat v.placedFields := by
  obtain ⟨members, alignments, length, size, located⟩ := checked.row
  have bounded := bounded_pieces length located record
  rw [size] at bounded ⊢
  exact fieldsInOrder_of_row located (Placement.row_inOrder alignments bounded)

/-- The record of values of less than four gigabytes holds all fields and is hardly larger than the
values. -/
theorem IsChecked.packed {v : View} (checked : v.IsChecked) (value : v.FitsValue)
    (small : v.type.size + 8 ≤ 2 ^ 32) :
    ∃ stop, FieldsInOrder 0 stop v.placedFields ∧ stop ≤ v.layout.size.toNat ∧
      v.layout.size.toNat ≤ roundUp v.type.size 8 := by
  obtain ⟨members, alignments, length, size, located⟩ := checked.row
  have zero : (0 : UInt32).toNat = 0 := rfl
  have above := le_roundUp v.type.size (show 0 < 8 by decide)
  have below : roundUp v.type.size 8 ≤ 2 ^ 32 - 8 := roundUp_le (by decide) (by omega) (by decide)
  have eighth := roundUp_mod_eq_zero v.type.size 8
  have multiple {a : UInt32} (alignment : IsAlignment a) : roundUp v.type.size 8 % a.toNat = 0 := by
    rcases alignment with rfl | rfl | rfl | rfl <;> simp <;> omega
  have ordered : InOrder (0 : UInt32).toNat (roundUp v.type.size 8) (Row.piecesAfter 0 members) := by
    apply Row.inOrder_of_bounded 0 alignments
    · exact fun p member => multiple (alignments p member)
    · intro p member
      have := (alignments p member).range.2
      omega
    · omega
    · intro offset n piece positive
      have := bounded_pieces length located value offset n piece positive
      omega
  have stop := (Row.exact_of_inOrder 0 alignments (by omega) ordered).2.2
  have alignment := Row.alignAfter_isAlignment (.inl rfl) alignments
  rw [size, alignTo_exact_of_room alignment _ (by omega)]
  exact ⟨(Row.stopAfter 0 members).toNat,
    fieldsInOrder_of_row located (Row.inOrder_stopAfter 0 alignments (by omega) ordered),
    le_roundUp _ alignment.range.1, roundUp_le alignment.range.1 stop (multiple alignment)⟩

theorem IsChecked.fitsRecord {v : View} (checked : v.IsChecked) (value : v.FitsValue)
    (small : v.type.size + 8 ≤ 2 ^ 32) : v.FitsRecord := by
  obtain ⟨stop, ordered, inside, _⟩ := checked.packed value small
  intro f member t type positive
  obtain ⟨place, placed⟩ := checked.exists_place member
  exact Nat.le_trans (ordered.endsBy _ placed t type positive) inside

theorem IsChecked.fits_of_valid {v : View} (checked : v.IsChecked)
    (valid : v.info.info.validate = .ok ()) (small : v.type.size ≤ 2 ^ 31) :
    v.FitsValue ∧ v.FitsRecord := by
  have value := fitsValue_of_valid checked valid
  exact ⟨value, checked.fitsRecord value (by omega)⟩

/-! ### Visible bytes -/

/-- Byte `i` of a value belongs to a visible field. -/
def isVisible (v : View) (i : Nat) : Bool :=
  v.info.fields.any fun f => f.covers f.offset.toNat i

/-- Byte `i` of a value is a truth value of a visible field. -/
def isBool (v : View) (i : Nat) : Bool :=
  v.info.fields.any fun f => f.boolAt f.offset.toNat i

/-- Memory at `a` belongs to a visible field of the record at `addr`. -/
def InRecord (v : View) (addr a : UInt32) : Prop :=
  ∃ (i : Nat) (f : FieldInfo) (t : TypeRep) (place : UInt32), v.info.fields[i]? = some f ∧
    f.type = some t ∧ v.layout.offsets[i]? = some place ∧
    addr.toNat + place.toNat ≤ a.toNat ∧ a.toNat < addr.toNat + place.toNat + t.size

theorem IsChecked.any_placedFields {v : View} (checked : v.IsChecked) (test : FieldInfo → Nat → Bool) :
    (v.placedFields.any fun x => test x.1 x.2.toNat) =
      v.info.fields.any fun f => test f f.offset.toNat := by
  rw [Bool.eq_iff_iff, List.any_eq_true, List.any_eq_true]
  constructor
  · rintro ⟨x, member, holds⟩
    refine ⟨x.1, mem_of_placedFields member, ?_⟩
    rw [(checked.placed x member).2]
    exact holds
  · rintro ⟨f, member, holds⟩
    obtain ⟨place, placed⟩ := checked.exists_place member
    refine ⟨(f, place), placed, ?_⟩
    rw [← (checked.placed _ placed).2]
    exact holds

theorem IsChecked.covered_placedFields {v : View} (checked : v.IsChecked) (i : Nat) :
    covered v.placedFields i = v.isVisible i :=
  checked.any_placedFields fun f start => f.covers start i

theorem IsChecked.boolIn_placedFields {v : View} (checked : v.IsChecked) (i : Nat) :
    boolIn v.placedFields i = v.isBool i :=
  checked.any_placedFields fun f start => f.boolAt start i

theorem inRecord_of_covered {v : View} {addr a : UInt32} (after : addr.toNat ≤ a.toNat)
    (inside : covered v.placedFields (a.toNat - addr.toNat) = true) : v.InRecord addr a := by
  obtain ⟨⟨f, place⟩, member, covers⟩ := List.any_eq_true.mp inside
  obtain ⟨i, found⟩ := List.mem_iff_getElem?.mp member
  obtain ⟨field, laid⟩ := List.getElem?_zip_eq_some.mp found
  cases type : f.type with
  | none => simp [FieldInfo.covers, type] at covers
  | some t =>
    have range := (FieldInfo.covers_iff type place.toNat _).mp covers
    exact ⟨i, f, t, place, field, type, laid, by omega, by omega⟩

/-! ### There and back -/

theorem bounds_eq_ok_iff {m : LinearMemory} {path : List Text} {addr n : UInt32} :
    m.bounds path addr n = .ok () ↔ addr.toNat + n.toNat ≤ m.size.toNat := by
  simp only [LinearMemory.bounds, LinearMemory.contains, decide_eq_true_eq]
  split <;> simp [*]

/-- Storing to a record inside memory writes the fields one by one. -/
theorem store_inside {v : View} {m : LinearMemory} {addr : UInt32} (value : Option (List UInt8))
    (room : addr.toNat + v.layout.size.toNat ≤ m.size.toNat) :
    v.store m addr value = v.storeFields addr (value.getD []) v.placedFields m := by
  simp only [store, bounds_eq_ok_iff.mpr room]

theorem store_outside {v : View} {m : LinearMemory} {addr : UInt32} (value : Option (List UInt8))
    (outside : ¬ addr.toNat + v.layout.size.toNat ≤ m.size.toNat) :
    ∃ a, v.store m addr value = (m, .error a) := by
  cases checked : m.bounds [v.name] addr v.layout.size with
  | ok u => exact absurd (bounds_eq_ok_iff.mp checked) outside
  | error f => exact ⟨.fault f, by simp only [store, checked]⟩

/-- Storing puts the visible bytes of a value into the record and touches nothing else. -/
theorem IsChecked.store_spec {v : View} {m : LinearMemory} {addr : UInt32} {value : List UInt8}
    (checked : v.IsChecked) (valid : v.info.info.validate = .ok ()) (small : v.type.size ≤ 2 ^ 31)
    (free : m.writesLeft = none) (whole : value.length = v.type.size)
    (room : addr.toNat + v.layout.size.toNat ≤ m.size.toNat) :
    ∃ after, v.store m addr (some value) = (after, .ok ()) ∧ after.size = m.size ∧
      after.readable = m.readable ∧
      (∀ i, v.isVisible i = true → some (after.byte (addr + UInt32.ofNat i)) = value[i]?) ∧
      ∀ a, ¬ v.InRecord addr a → after.byte a = m.byte a := by
  obtain ⟨inValue, inRecord⟩ := checked.fits_of_valid valid small
  have ordered := checked.fieldsInOrder inRecord
  have ends : ∀ x ∈ v.placedFields, x.1.EndsBy value.length := by
    intro x member
    rw [whole]
    exact inValue x.1 (mem_of_placedFields member)
  obtain ⟨after, stored, size, readable, bytes⟩ := v.storeFields_spec addr m ordered ends free room
  refine ⟨after, ?_, size, readable, ?_, ?_⟩
  · rw [store_inside _ room]
    exact stored
  · intro i visible
    rw [← checked.covered_placedFields] at visible
    have inside := ordered.covered_between visible
    have addresses := m.size.toNat_lt
    have place : (addr + UInt32.ofNat i).toNat = addr.toNat + i :=
      LinearMemory.toNat_add_address (by omega)
    have distance : (addr + UInt32.ofNat i).toNat - addr.toNat = i := by omega
    rw [bytes, distance, if_pos ⟨by omega, visible⟩]
  · intro a outside
    have unchanged := bytes a
    rw [if_neg fun h => outside (inRecord_of_covered h.1 h.2)] at unchanged
    exact Option.some.inj unchanged

theorem IsChecked.store_eq_ok_iff {v : View} {m : LinearMemory} {value : List UInt8}
    (checked : v.IsChecked) (addr : UInt32) (valid : v.info.info.validate = .ok ())
    (small : v.type.size ≤ 2 ^ 31) (free : m.writesLeft = none) (whole : value.length = v.type.size) :
    (v.store m addr (some value)).2 = .ok () ↔
      addr.toNat + v.layout.size.toNat ≤ m.size.toNat := by
  constructor
  · intro stored
    apply Decidable.not_not.mp
    intro outside
    obtain ⟨a, refused⟩ := v.store_outside (some value) outside
    rw [refused] at stored
    cases stored
  · intro room
    obtain ⟨after, stored, _⟩ := checked.store_spec valid small free whole room
    rw [stored]

/-- Loading a record inside memory decodes its bytes. -/
theorem load_inside {v : View} {m : LinearMemory} {addr : UInt32} (readable : m.readable = true)
    (room : addr.toNat + v.layout.size.toNat ≤ m.size.toNat) :
    v.load m addr = v.decode (m.bytes addr v.layout.size.toNat) := by
  rw [load, LinearMemory.read_inside readable room]
  rfl

/-- A record is decoded unless a visible field has truth values past the end of the value. -/
theorem IsChecked.decode_cases {v : View} (checked : v.IsChecked) (record : List UInt8) :
    v.decode record = .error (.trap .absent) ∧ (∃ f ∈ v.info.fields, f.TruthPast v.type.size) ∨
      ∃ out, v.decode record = .ok out ∧ out.length = v.type.size ∧
        ∀ f ∈ v.info.fields, ¬ f.TruthPast v.type.size := by
  have cases := decodeFields_cases (fun x member => (checked.placed x member).1) record
    (List.replicate v.type.size 0)
  rw [List.length_replicate] at cases
  rcases cases with ⟨stopped, x, member, late⟩ | ⟨out, decoded, length, clear⟩
  · exact .inl ⟨by rw [decode, stopped], x.1, mem_of_placedFields member, late⟩
  · refine .inr ⟨out, by rw [decode, decoded], length, ?_⟩
    intro f member
    obtain ⟨place, placed⟩ := checked.exists_place member
    exact clear _ placed

/-- Loading takes the visible bytes of a value from the record; the others are zero. -/
theorem IsChecked.load_of_fits {v : View} {m : LinearMemory} (checked : v.IsChecked) (addr : UInt32)
    (value : v.FitsValue) (record : v.FitsRecord) (readable : m.readable = true)
    (room : addr.toNat + v.layout.size.toNat ≤ m.size.toNat) :
    ∃ out, v.load m addr = .ok out ∧ out.length = v.type.size ∧
      ∀ i < v.type.size, out[i]? =
        if v.isVisible i then some (Bytes.settle (v.isBool i) (m.byte (addr + UInt32.ofNat i)))
        else some 0 := by
  have ordered := checked.fieldsInOrder record
  have ends : ∀ x ∈ v.placedFields, x.1.EndsBy (List.replicate v.type.size (0 : UInt8)).length := by
    intro x member
    rw [List.length_replicate]
    exact value x.1 (mem_of_placedFields member)
  obtain ⟨out, decoded, length, bytes⟩ := decodeFields_spec (m.bytes addr v.layout.size.toNat)
    (List.replicate v.type.size 0) ordered ends (Nat.le_of_eq (LinearMemory.length_bytes _).symm)
  refine ⟨out, ?_, by simpa using length, ?_⟩
  · rw [load_inside readable room, decode, decoded]
  · intro i inside
    rw [bytes, checked.covered_placedFields, checked.boolIn_placedFields]
    split
    · rename_i visible
      rw [← checked.covered_placedFields] at visible
      have before := ordered.covered_between visible
      rw [LinearMemory.getElem?_bytes (by omega), Option.map_some]
    · rw [List.getElem?_replicate, if_pos inside]

theorem IsChecked.load_spec {v : View} {m : LinearMemory} (checked : v.IsChecked) (addr : UInt32)
    (valid : v.info.info.validate = .ok ()) (small : v.type.size ≤ 2 ^ 31) (readable : m.readable = true)
    (room : addr.toNat + v.layout.size.toNat ≤ m.size.toNat) :
    ∃ out, v.load m addr = .ok out ∧ out.length = v.type.size ∧
      ∀ i < v.type.size, out[i]? =
        if v.isVisible i then some (Bytes.settle (v.isBool i) (m.byte (addr + UInt32.ofNat i)))
        else some 0 := by
  obtain ⟨value, record⟩ := checked.fits_of_valid valid small
  exact checked.load_of_fits addr value record readable room

/-- Storing a value succeeds exactly when the record fits into memory. Loading then gives the value back on
the bytes of the visible fields and zero on all others, provided that the bytes which the fields' types
take for truth values are 0 or 1; and memory outside the visible fields of the record is left as it
was. -/
theorem load_store {v : View} {memory : Option LinearMemory} {given : Option ErasedStruct} {t : TypeRep}
    {r : Registry} (made : (resolve memory given t r).2 = .ok v)
    (valid : v.info.info.validate = .ok ()) (small : t.size ≤ 2 ^ 31) {m : LinearMemory}
    (readable : m.readable = true) (free : m.writesLeft = none) (addr : UInt32) {value : List UInt8}
    (whole : value.length = t.size)
    (settled : ∀ i b, v.isBool i = true → value[i]? = some b → b ≤ 1) :
    ((v.store m addr (some value)).2 = .ok () ↔
        addr.toNat + v.layout.size.toNat ≤ m.size.toNat) ∧
      ((v.store m addr (some value)).2 = .ok () →
        (∃ out, v.load (v.store m addr (some value)).1 addr = .ok out ∧ out.length = t.size ∧
          ∀ i < t.size, out[i]? = if v.isVisible i then value[i]? else some 0) ∧
        ∀ a, ¬ v.InRecord addr a → (v.store m addr (some value)).1.byte a = m.byte a) := by
  obtain ⟨rfl, checked⟩ := isChecked_of_resolve made
  have exactly := checked.store_eq_ok_iff addr valid small free whole
  refine ⟨exactly, ?_⟩
  intro succeeded
  have room := exactly.mp succeeded
  obtain ⟨after, stored, size, same, carried, unchanged⟩ :=
    checked.store_spec valid small free whole room
  obtain ⟨out, loaded, length, bytes⟩ := checked.load_spec addr valid small
    (same.trans readable) (by rw [size]; exact room)
  rw [stored]
  refine ⟨⟨out, loaded, length, ?_⟩, unchanged⟩
  intro i inside
  rw [bytes i inside]
  split
  · rename_i visible
    rw [← carried i visible]
    congr 1
    -- Only truth values are settled, and those of the value are settled already.
    cases truth : v.isBool i with
    | false => rfl
    | true => exact Bytes.settle_of_le true (settled i _ truth (carried i visible).symm)
  · rfl

/-- A panel with a hidden byte and unused bytes that are not zero. -/
def panelBytes : List UInt8 :=
  [7, 99, 1, 2, 1, 0, 5, 6, 1, 9, 9, 9, 4, 3, 2, 1]

def panelView : View :=
  ⟨Layout.panelType, Layout.panel, (Layout.check (some Layout.panel)).1⟩

theorem panel_load_store :
    (resolve (some .page) (some Layout.panel) Layout.panelType {}).2 = .ok panelView ∧
      (panelView.store .page 65520 (some panelBytes)).2 = .ok () ∧
      panelView.load (panelView.store .page 65520 (some panelBytes)).1 65520 =
        .ok [7, 0, 1, 2, 1, 0, 0, 0, 1, 9, 9, 9, 4, 3, 2, 1] := by
  have made : (resolve (some .page) (some Layout.panel) Layout.panelType {}).2 = .ok panelView := rfl
  have truths : ∀ i < 16, panelView.isBool i = true → (panelBytes[i]?.all (· ≤ 1)) = true := by decide
  have settled : ∀ i b, panelView.isBool i = true → panelBytes[i]? = some b → b ≤ 1 := by
    intro i b truth found
    have position : i < 16 := (List.getElem?_eq_some_iff.mp found).1
    simpa [found] using truths i position truth
  obtain ⟨exactly, back⟩ := load_store (m := .page) made rfl (by decide) rfl rfl 65520 rfl settled
  have stored := exactly.mpr (by decide)
  obtain ⟨⟨out, loaded, length, bytes⟩, _⟩ := back stored
  refine ⟨made, stored, ?_⟩
  have expected : ∀ i < 16, (if panelView.isVisible i then panelBytes[i]? else some 0) =
      ([7, 0, 1, 2, 1, 0, 0, 0, 1, 9, 9, 9, 4, 3, 2, 1] : List UInt8)[i]? := by decide
  rw [loaded]
  congr 1
  apply List.ext_getElem?
  intro i
  by_cases inside : i < 16
  · rw [bytes i inside, expected i inside]
  · have short : out.length = 16 := length
    rw [List.getElem?_eq_none (by omega), List.getElem?_eq_none (by simp; omega)]

end View

end TypeAtlas
