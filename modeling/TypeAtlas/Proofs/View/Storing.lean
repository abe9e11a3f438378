import TypeAtlas.Proofs.View.Containment

/-!
Stores that fail. The bounds of the whole record are checked before anything is written, and a value of a
view that stays inside its type is then stored completely. A store can stop halfway only at a field that
lies outside the value or the record, or at a memory that takes no more writes; and whether a view can do
so can be told from its fields alone.
-/

namespace TypeAtlas

namespace View

/-! ### Fields written one after another -/

/-- What is known when all the fields were written. -/
structure Written (value : List UInt8) (fields : List (FieldInfo × UInt32)) (m after : LinearMemory) :
    Prop where
  endsBy : ∀ x ∈ fields, x.1.EndsBy value.length
  size : after.size = m.size
  writesLeft : m.writesLeft = after.writesLeft.map (· + fields.length)
  unchanged : (∀ x ∈ fields, ¬ x.1.HasBytes) → after.byte = m.byte

/-- Why a field is not written to the record at `addr`: it reaches past the end of the value or of
memory, or memory takes no more writes. -/
inductive Refuses (m : LinearMemory) (addr : UInt32) (value : List UInt8) (f : FieldInfo)
    (place : UInt32) : Prop
  | value : ¬ f.EndsBy value.length → Refuses m addr value f place
  | memory {t : TypeRep} : f.type = some t → m.size.toNat < addr.toNat + place.toNat + t.size →
      Refuses m addr value f place
  | spent : m.writesLeft = some 0 → Refuses m addr value f place

/-- A memory with room for the field that takes every write refuses it only for the value. -/
theorem Refuses.not_endsBy {m : LinearMemory} {addr : UInt32} {value : List UInt8} {f : FieldInfo}
    {place : UInt32} (why : Refuses m addr value f place) (free : m.writesLeft = none)
    (room : ∀ t, f.type = some t → addr.toNat + place.toNat + t.size ≤ m.size.toNat) :
    ¬ f.EndsBy value.length := by
  cases why with
  | value short => exact short
  | memory type outside => exact absurd (room _ type) (Nat.not_le_of_lt outside)
  | spent closed =>
    rw [free] at closed
    cases closed

theorem Written.nil (value : List UInt8) (m : LinearMemory) : Written value [] m m where
  endsBy := by simp
  size := rfl
  writesLeft := by simp
  unchanged _ := rfl

theorem Written.cons {value : List UInt8} {x : FieldInfo × UInt32} {rest : List (FieldInfo × UInt32)}
    {m next after : LinearMemory} (first : Written value [x] m next) (others : Written value rest next after) :
    Written value (x :: rest) m after where
  endsBy := List.forall_mem_cons.mpr ⟨first.endsBy x List.mem_cons_self, others.endsBy⟩
  size := others.size.trans first.size
  writesLeft := by
    rw [first.writesLeft, others.writesLeft, Option.map_map]
    congr 1
  unchanged empty := by
    obtain ⟨here, there⟩ := List.forall_mem_cons.mp empty
    rw [others.unchanged there, first.unchanged (by simpa using here)]

/-- A field is refused and leaves memory alone, or it is written. -/
theorem storeField_cases (v : View) (m : LinearMemory) (addr : UInt32) (value : List UInt8) {f : FieldInfo}
    {t : TypeRep} (type : f.type = some t) (place : UInt32) :
    (∃ a, v.storeField m addr value f place = (m, .error a)) ∧ Refuses m addr value f place ∨
      ∃ after, v.storeField m addr value f place = (after, .ok ()) ∧ Written value [(f, place)] m after := by
  have flag := FieldInfo.endsBy_iff type value.length
  by_cases ends : f.EndsBy value.length
  · have length : (Bytes.sub f.offset.toNat t.size value).length ≤ t.size := List.length_take_le _ _
    have target : (addr + place).toNat ≤ addr.toNat + place.toNat := by
      rw [UInt32.toNat_add]
      exact Nat.mod_le _ _
    simp only [storeField, type, flag.mp ends, Bool.false_eq_true, if_false]
    rcases m.write_cases [v.name, f.name] (addr + place) (Bytes.sub f.offset.toNat t.size value) with
      ⟨⟨fault, refused⟩, reason⟩ | ⟨after, written, size, bytes, left⟩
    · left
      rw [refused]
      refine ⟨⟨_, rfl⟩, ?_⟩
      rcases reason with outside | spent
      · exact .memory type (by omega)
      · exact .spent spent
    · right
      rw [written]
      refine ⟨after, rfl, ?_, size, left, ?_⟩
      · simpa using ends
      · intro empty
        have nothing : t.size = 0 := Nat.eq_zero_of_not_pos fun positive =>
          empty _ List.mem_cons_self ⟨t, type, positive⟩
        rw [bytes, nothing, Bytes.sub, List.take_zero]
        rfl
  · left
    have short := Bool.ne_false_iff.mp fun short => ends (flag.mpr short)
    simp only [storeField, type, short, if_true]
    exact ⟨⟨_, rfl⟩, .value ends⟩

/-- All fields are written, or one is refused after those before it were written, and memory stays as
they left it. -/
theorem storeFields_cases (v : View) (addr : UInt32) (value : List UInt8)
    {fields : List (FieldInfo × UInt32)} (typed : ∀ x ∈ fields, ∃ t, x.1.type = some t)
    (m : LinearMemory) :
    (∃ after, v.storeFields addr value fields m = (after, .ok ()) ∧ Written value fields m after) ∨
      ∃ done f place rest after a, fields = done ++ (f, place) :: rest ∧
        v.storeFields addr value done m = (after, .ok ()) ∧ Written value done m after ∧
        Refuses after addr value f place ∧ v.storeFields addr value fields m = (after, .error a) := by
  induction fields generalizing m with
  | nil => exact .inl ⟨m, rfl, .nil value m⟩
  | cons x rest ih =>
    obtain ⟨f, place⟩ := x
    obtain ⟨⟨t, type⟩, others⟩ := List.forall_mem_cons.mp typed
    rcases v.storeField_cases m addr value type place with ⟨⟨a, refused⟩, why⟩ | ⟨next, stored, first⟩
    · right
      refine ⟨[], f, place, rest, m, a, rfl, rfl, .nil value m, why, ?_⟩
      simp only [storeFields, refused]
    · have step (fields : List (FieldInfo × UInt32)) :
          v.storeFields addr value ((f, place) :: fields) m = v.storeFields addr value fields next := by
        simp only [storeFields, stored]
      rcases ih others next with ⟨after, all, written⟩ |
        ⟨done, g, place', later, after, a, rfl, before, written, why, refused⟩
      · exact .inl ⟨after, (step rest).trans all, first.cons written⟩
      · right
        exact ⟨(f, place) :: done, g, place', later, after, a, rfl, (step done).trans before,
          first.cons written, why, (step _).trans refused⟩

/-! ### Stores that fail -/

/-- What can be stored: a whole value of the type, or none. -/
def IsValue (v : View) (value : Option (List UInt8)) : Prop :=
  ∀ bytes, value = some bytes → bytes.length = v.type.size

/-- A field is refused after one with bytes was written: it lies past the end of the value or of the
record, or it is the first that memory does not take. -/
def StopsAmid (v : View) (m : LinearMemory) : Prop :=
  ∃ done f place rest t, v.placedFields = done ++ (f, place) :: rest ∧ f.type = some t ∧
    (∃ x ∈ done, x.1.HasBytes) ∧ (∀ x ∈ done, x.1.EndsBy v.type.size) ∧
      (¬ f.EndsBy v.type.size ∨ v.layout.size.toNat < f.offset.toNat + t.size ∨
        m.writesLeft = some done.length)

theorem IsChecked.unchanged_or_stopsAmid {v : View} {m : LinearMemory} {addr : UInt32}
    {value : Option (List UInt8)} {a : Abort} (checked : v.IsChecked) (whole : v.IsValue value)
    (refused : (v.store m addr value).2 = .error a) :
    (v.store m addr value).1.byte = m.byte ∨ value ≠ none ∧ v.StopsAmid m := by
  by_cases room : addr.toNat + v.layout.size.toNat ≤ m.size.toNat
  case neg =>
    obtain ⟨_, unchanged⟩ := v.store_outside value room
    exact .inl (by rw [unchanged])
  rw [store_inside value room] at refused ⊢
  rcases v.storeFields_cases addr (value.getD []) (fun x member => (checked.placed x member).1) m with
    ⟨after, stored, _⟩ | ⟨done, f, place, rest, after, _, fields, _, written, why, stored⟩
  · rw [stored] at refused
    cases refused
  rw [stored]
  by_cases bytes : ∃ x ∈ done, x.1.HasBytes
  case neg => exact .inl (written.unchanged fun x member has => bytes ⟨x, member, has⟩)
  obtain ⟨x, member, has⟩ := bytes
  have present : value ≠ none := by
    rintro rfl
    exact has.not_endsBy_zero (written.endsBy x member)
  obtain ⟨bytes, rfl⟩ := Option.ne_none_iff_exists'.mp present
  have length : ((some bytes).getD []).length = v.type.size := whole bytes rfl
  have here : (f, place) ∈ v.placedFields := by simp [fields]
  obtain ⟨⟨t, type⟩, same⟩ := checked.placed _ here
  have ends := written.endsBy
  rw [length] at ends
  refine .inr ⟨present, done, f, place, rest, t, fields, type, ⟨x, member, has⟩, ends, ?_⟩
  cases why with
  | value short =>
    rw [length] at short
    exact .inl short
  | memory type' outside =>
    obtain rfl := Option.some.inj (type.symm.trans type')
    rw [written.size] at outside
    exact .inr (.inl (by simp only at same; omega))
  | spent closed =>
    have left := written.writesLeft
    rw [closed, Option.map_some, Nat.zero_add] at left
    exact .inr (.inr left)

/-! ### Views that store all or nothing -/

/-- A store that fails on a memory that takes every write inside it changes no byte. -/
def StoresAllOrNothing (v : View) : Prop :=
  ∀ (m : LinearMemory) (addr : UInt32) (value : Option (List UInt8)) (a : Abort), m.writesLeft = none →
    v.IsValue value → (v.store m addr value).2 = .error a → (v.store m addr value).1.byte = m.byte

/-- No visible field that has bytes lies inside the values of the view. -/
def NoneFitsValue (v : View) : Prop :=
  ∀ f ∈ v.info.fields, f.HasBytes → ¬ f.EndsBy v.type.size

theorem IsChecked.storesAllOrNothing {v : View} (checked : v.IsChecked) (record : v.FitsRecord)
    (either : v.FitsValue ∨ v.NoneFitsValue) : v.StoresAllOrNothing := by
  intro m addr value a free whole refused
  apply (checked.unchanged_or_stopsAmid whole refused).resolve_right
  rintro ⟨_, done, f, place, rest, t, fields, type, ⟨x, earlier, has⟩, ends, why⟩
  have member (y : FieldInfo × UInt32) (among : y ∈ done ++ (f, place) :: rest) : y.1 ∈ v.info.fields :=
    mem_of_placedFields (fields ▸ among)
  rcases why with short | outside | spent
  · rcases either with fits | strays
    · exact short (fits f (member (f, place) (by simp)))
    · exact strays x.1 (member x (by simp [earlier])) has (ends x earlier)
  · have inside := (checked.fieldsInOrder record).end_le (fields ▸ by simp) type (x := (f, place))
    have same := (checked.fieldsInOrder record).offset_eq (fields ▸ by simp) (x := (f, place))
    simp only at inside same
    omega
  · rw [free] at spent
    cases spent

/-- Just enough memory for the record, all of it zero. -/
def zeroMemory (v : View) : LinearMemory :=
  { size := v.layout.size, byte := fun _ => 0 }

/-- Where some fields lie inside the value and others do not, those inside come first and are written
before the store is refused. -/
theorem IsChecked.fits_of_allOrNothing {v : View} (checked : v.IsChecked) (record : v.FitsRecord)
    (clean : v.StoresAllOrNothing) : v.FitsValue ∨ v.NoneFitsValue := by
  have ordered := checked.fieldsInOrder record
  have room : (0 : UInt32).toNat + v.layout.size.toNat ≤ v.zeroMemory.size.toNat :=
    Nat.le_of_eq (Nat.zero_add _)
  have length : (List.replicate v.type.size (1 : UInt8)).length = v.type.size := List.length_replicate
  have tried := clean v.zeroMemory 0 (some (List.replicate v.type.size 1))
  rw [store_inside _ room, Option.getD_some] at tried
  rcases v.storeFields_cases 0 (List.replicate v.type.size 1) (fun x member => (checked.placed x member).1)
    v.zeroMemory with ⟨_, _, written⟩ | ⟨done, f, place, rest, after, a, fields, before, written, why, stopped⟩
  · left
    intro f member
    obtain ⟨place, placed⟩ := checked.exists_place member
    rw [← length]
    exact written.endsBy _ placed
  right
  intro g member bytes fits
  obtain ⟨place', placed⟩ := checked.exists_place member
  have free : after.writesLeft = none := Option.map_eq_none_iff.mp written.writesLeft.symm
  rw [fields] at ordered placed
  have stray : ¬ f.EndsBy v.type.size := by
    rw [← length]
    apply why.not_endsBy free
    intro t type
    have inside := ordered.end_le (x := (f, place)) (by simp) type
    rw [written.size, Nat.add_assoc]
    exact Nat.le_trans (Nat.add_le_add_left inside _) room
  have earlier := ordered.mem_of_endsBy stray placed bytes fits
  -- The field was written, and its first byte is no longer zero.
  obtain ⟨after', stored, _, _, effect⟩ :=
    v.storeFields_spec 0 v.zeroMemory ordered.append.1 written.endsBy rfl room
  obtain rfl : after = after' := congrArg Prod.fst (before.symm.trans stored)
  have unchanged : after.byte = v.zeroMemory.byte := by
    rw [stopped] at tried
    exact tried a rfl (by rintro _ ⟨⟩; exact length) rfl
  have byte := effect place'
  rw [if_pos ⟨Nat.zero_le _, covered_of_mem earlier bytes⟩, unchanged] at byte
  exact absurd (List.eq_of_mem_replicate (List.mem_of_getElem? byte.symm))
    (show (0 : UInt8) ≠ 1 by decide)

/-- A store that fails changes no byte, unless there is a value and one of its fields is refused after
others were written; and that happens only where a field lies past the end of the value or of the record,
or where memory takes no more writes. If the record holds all fields with bytes, the view never leaves a
record half written, in memory that takes every write inside it, exactly if all of those fields lie inside
the value or none does. So it is with every struct that was held to its contract, for values of less than
four gigabytes. -/
theorem store_all_or_nothing_iff {v : View} {memory : Option LinearMemory} {given : Option ErasedStruct}
    {t : TypeRep} {r : Registry} (made : (resolve memory given t r).2 = .ok v) :
    (∀ (m : LinearMemory) (addr : UInt32) (value : Option (List UInt8)) (a : Abort), v.IsValue value →
        (v.store m addr value).2 = .error a →
          (v.store m addr value).1.byte = m.byte ∨ value ≠ none ∧ v.StopsAmid m) ∧
      (v.FitsRecord → (v.StoresAllOrNothing ↔ v.FitsValue ∨ v.NoneFitsValue)) ∧
      (IsVetted t r given → t.size + 8 ≤ 2 ^ 32 → v.StoresAllOrNothing) := by
  obtain ⟨rfl, checked⟩ := isChecked_of_resolve made
  refine ⟨fun m addr value a => checked.unchanged_or_stopsAmid, ?_, ?_⟩
  · intro record
    exact ⟨checked.fits_of_allOrNothing record, checked.storesAllOrNothing record⟩
  · intro vetted small
    have value := fitsValue_of_valid checked (validate_of_vetted made vetted)
    exact checked.storesAllOrNothing (checked.fitsRecord value small) (.inl value)

/-- A type with one field. -/
def dialType : TypeRep :=
  .named ⟨"example.com/atlas", "atlas", "Dial"⟩ (.struct [⟨"Level", .primitive .uint32, []⟩])

/-- A description that has a second field after the end of the type. -/
def dialStruct : ErasedStruct :=
  let field (index : Int) (name : Text) (offset : UInt64) : FieldInfo :=
    { index, name, offset, attrs := [], owner := some dialType, type := some (.primitive .uint32) }
  .ofFields (some dialType) .struct "Dial" [] [field 0 "Level" 0, field 1 "Limit" 4]

def dialView : View :=
  ⟨dialType, dialStruct, (Layout.check (some dialStruct)).1⟩

theorem dial_half_written :
    (resolve (some .page) (some dialStruct) dialType {}).2 = .ok dialView ∧
      ¬ dialView.StoresAllOrNothing ∧
      (dialView.store .page 16 (some [1, 2, 3, 4])).2 =
        .error (.fault (Fault.outOfBounds .memory ["Dial", "Limit"] 4 4 4)) ∧
      (dialView.store .page 16 (some [1, 2, 3, 4])).1.bytes 16 8 = [1, 2, 3, 4, 0, 0, 0, 0] := by
  have made : (resolve (some .page) (some dialStruct) dialType {}).2 = .ok dialView := rfl
  obtain ⟨_, exactly, _⟩ := store_all_or_nothing_iff made
  refine ⟨made, ?_, rfl, by decide⟩
  intro clean
  rcases (exactly (by decide)).mp clean with fits | strays
  · exact absurd fits (by decide)
  · exact strays _ List.mem_cons_self ⟨_, rfl, by decide⟩ (by decide)

end View

end TypeAtlas
