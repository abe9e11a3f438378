import TypeAtlas.Proofs.Pointer.Copying
import TypeAtlas.Proofs.View.Containment

/-!
Loading, and where it happens. Linear memory is a range of the address space, reads hand out its bytes as
they lie there, and a value is filled in place: each field is copied to where it belongs, and its truth
values are settled there. Field by field this does to the bytes of the value what decoding does, and it
touches no byte outside of them, so that linear memory stays as it is. What is loaded are the bytes of the
visible fields, with zero or one for each truth value, and zeros everywhere else.
-/

namespace TypeAtlas

namespace View

/-! ### Filling a value in place -/

/-- Copies a field of the record at `source` to its place in the value at `target` and settles it
there. -/
def takeField (m : Memory) (source target : Pointer .byte) (f : FieldInfo) (place : UInt32) :
    Except Trap Memory :=
  match f.type with
  | none => .error .absent
  | some t =>
    let field := target.byteAdd f.offset
    let (copied, _) :=
      (source.byteAdd place.toUInt64).copyToNonoverlapping m field (Int64.ofNat t.size)
    match field.reference? with
    | some addr => .ok (copied.settleBools addr t)
    -- Nothing can be settled where there is not even one byte.
    | none => if t.hasBool then .error .absent else .ok copied

def takeFields (m : Memory) (source target : Pointer .byte) :
    List (FieldInfo × UInt32) → Except Trap Memory
  | [] => .ok m
  | (f, place) :: rest => do takeFields (← takeField m source target f place) source target rest

/-- The field has its place in a record of `n` bytes and in a value of `size` bytes. -/
def HasRoom (n size : Nat) (f : FieldInfo) (place : UInt32) : Prop :=
  ∃ t, f.type = some t ∧ place.toNat + t.size ≤ n ∧ f.offset.toNat + t.size ≤ size

/-- No byte belongs both to the record and to the value. -/
def Apart (source : UInt64) (n : Nat) (target : UInt64) (size : Nat) : Prop :=
  ∀ a, Reaches source n a → ¬ Reaches target size a

theorem Apart.part {source target : UInt64} {offset n whole size : Nat} (inside : offset + n ≤ whole)
    (apart : Apart source whole target size) : Apart (source + UInt64.ofNat offset) n target size :=
  fun a reached => apart a (reached.of_part inside)

section Filling

variable {source target n size : UInt64}

/-- Taking a field in place does to the bytes of the value what decoding it does, and nothing else. -/
theorem takeField_decodes {f : FieldInfo} {place : UInt32} (m : Memory)
    (room : HasRoom n.toNat size.toNat f place) (small : size.toNat < 2 ^ 63)
    (apart : Apart source n.toNat target size.toNat) :
    ∃ after, takeField m (.toBytes source n) (.toBytes target size) f place = .ok after ∧
      decodeField (m.read source n.toNat) (m.read target size.toNat) f place =
        .ok (after.read target size.toNat) ∧
      ∀ a, ¬ Reaches target size.toNat a → after.byte a = m.byte a := by
  obtain ⟨t, type, inSource, inTarget⟩ := room
  have different : 0 < t.size → source ≠ target := by
    rintro positive rfl
    exact apart source (by rw [Reaches, UInt64.sub_self]; exact (show 0 < n.toNat by omega))
      (by rw [Reaches, UInt64.sub_self]; exact (show 0 < size.toNat by omega))
  have copied := Pointer.copy_bytes (m := m) (show t.size < 2 ^ 63 by omega)
    (show place.toUInt64.toNat + t.size ≤ n.toNat from inSource) inTarget different
  rcases Nat.eq_zero_or_pos t.size with empty | positive
  · refine ⟨m, ?_, decodeField_of_empty type empty _ _ _, fun _ _ => rfl⟩
    have nothing : m.write (target + f.offset) (m.read (source + place.toUInt64) t.size) = m := by
      rw [empty]
      rfl
    simp only [takeField, type, copied, nothing, TypeRep.hasBool_of_empty empty,
      Memory.settleBools_of_empty empty]
    split <;> rfl
  · have offset : f.offset = UInt64.ofNat f.offset.toNat := UInt64.ofNat_toNat.symm
    have started : f.offset.toNat < size.toNat := by omega
    refine ⟨(m.write (target + f.offset) (m.read (source + place.toUInt64) t.size)).settleBools
      (target + f.offset) t, ?_, ?_, ?_⟩
    · simp only [takeField, type, copied, Pointer.reference?_toBytes started]
    · rw [offset, ← UInt64.ofNat_uInt32ToNat, Memory.read_settleBools inTarget (by omega),
        Memory.read_write (by simpa using inTarget) (by omega), Memory.read_eq_sub inSource]
      simp [decodeField, type, copyField, Nat.not_le_of_lt started, inTarget, inSource]
    · intro a outside
      have unreached : ¬ Reaches (target + f.offset) t.size a := by
        rw [offset]
        exact fun reached => outside (reached.of_part inTarget)
      rw [Memory.byte_settleBools_of_not_reaches (by omega) unreached]
      exact Memory.byte_write_of_not_reaches (by rwa [Memory.length_read])

/-- All fields are taken in place as they are decoded; the record stays as it is, so that later fields
are read as the first one was. -/
theorem takeFields_decodes {fields : List (FieldInfo × UInt32)} (m : Memory)
    (room : ∀ x ∈ fields, HasRoom n.toNat size.toNat x.1 x.2) (small : size.toNat < 2 ^ 63)
    (apart : Apart source n.toNat target size.toNat) :
    ∃ after, takeFields m (.toBytes source n) (.toBytes target size) fields = .ok after ∧
      decodeFields (m.read source n.toNat) (m.read target size.toNat) fields =
        .ok (after.read target size.toNat) ∧
      ∀ a, ¬ Reaches target size.toNat a → after.byte a = m.byte a := by
  induction fields generalizing m with
  | nil => exact ⟨m, rfl, rfl, fun _ _ => rfl⟩
  | cons x rest ih =>
    obtain ⟨first, others⟩ := List.forall_mem_cons.mp room
    obtain ⟨next, taken, decoded, frame⟩ := takeField_decodes m first small apart
    obtain ⟨after, rested, further, outside⟩ := ih next others
    have record : next.read source n.toNat = m.read source n.toNat :=
      Memory.read_congr fun a reached => frame a (apart a reached)
    rw [record] at further
    refine ⟨after, ?_, ?_, ?_⟩
    · rw [takeFields, taken]
      exact rested
    · rw [decodeFields, decoded]
      exact further
    · intro a unreached
      rw [outside a unreached, frame a unreached]

end Filling

/-! ### Loading in place -/

/-- The bytes of linear memory are those from `base` on. -/
def Hosts (host : Memory) (base : UInt64) (m : LinearMemory) : Prop :=
  ∀ i < m.size.toNat, host.byte (base + UInt64.ofNat i) = m.byte (UInt32.ofNat i)

/-- Linear memory stays where it is as long as its bytes do. -/
theorem Hosts.of_frame {host after : Memory} {base : UInt64} {m : LinearMemory} (hosts : Hosts host base m)
    (frame : ∀ a, Reaches base m.size.toNat a → after.byte a = host.byte a) : Hosts after base m := by
  intro i position
  rw [frame _ (reaches_add base position)]
  exact hosts i position

theorem Hosts.read {host : Memory} {base : UInt64} {m : LinearMemory} (hosts : Hosts host base m)
    {addr : UInt32} {n : Nat} (inside : addr.toNat + n ≤ m.size.toNat) :
    host.read (base + addr.toUInt64) n = m.bytes addr n := by
  apply List.map_congr_left
  intro i member
  have position := List.mem_range.mp member
  have byte := hosts (addr.toNat + i) (by omega)
  rwa [UInt64.ofNat_add, UInt64.ofNat_uInt32ToNat, ← UInt64.add_assoc, UInt32.ofNat_add,
    UInt32.ofNat_toNat] at byte

/-- Loads the record at `addr` of the linear memory at `base` into the value at `target`, which is
cleared first. -/
def loadInto (v : View) (host : Memory) (base : UInt64) (m : LinearMemory) (addr : UInt32)
    (target : UInt64) : Except Abort Memory :=
  match m.read [v.name] addr v.layout.size with
  | .error f => .error (.fault f)
  | .ok _ =>
    let record := .ofSlice (some (base + addr.toUInt64)) v.layout.size.toUInt64
    let value : Pointer (.ofType v.type) := .ofReference (some target)
    match takeFields (host.clear target v.type.size) record value.cast v.placedFields with
    | .ok after => .ok after
    | .error t => .error (.trap t)

theorem IsChecked.hasRoom {v : View} (checked : v.IsChecked) (valid : v.info.info.validate = .ok ())
    (small : v.type.size ≤ 2 ^ 31) :
    ∀ x ∈ v.placedFields, HasRoom v.layout.size.toNat v.type.size x.1 x.2 := by
  intro x member
  obtain ⟨_, record⟩ := checked.fits_of_valid valid small
  obtain ⟨t, type, inside⟩ := StructInfo.field_inside valid checked.type x.1 (mem_of_placedFields member)
  exact ⟨t, type, (checked.fieldsInOrder record).end_le member type, inside⟩

/-- Loading in place gives the bytes that loading gives, and changes no others. -/
theorem IsChecked.loadInto_loads {v : View} {host : Memory} {base target : UInt64} {m : LinearMemory}
    {addr : UInt32} (checked : v.IsChecked) (valid : v.info.info.validate = .ok ())
    (small : v.type.size ≤ 2 ^ 31) (readable : m.readable = true)
    (room : addr.toNat + v.layout.size.toNat ≤ m.size.toNat) (hosts : Hosts host base m)
    (apart : Apart base m.size.toNat target v.type.size) :
    ∃ after, v.loadInto host base m addr target = .ok after ∧
      v.load m addr = .ok (after.read target v.type.size) ∧
      ∀ a, ¬ Reaches target v.type.size a → after.byte a = host.byte a := by
  have size : (Element.ofType v.type).size.toNat = v.type.size :=
    UInt64.toNat_ofNat_of_lt' (show v.type.size < 2 ^ 64 by omega)
  have record : v.layout.size.toUInt64.toNat = v.layout.size.toNat := UInt32.toNat_toUInt64 _
  have places := checked.hasRoom valid small
  have separate : Apart (base + addr.toUInt64) v.layout.size.toNat target v.type.size := by
    rw [← UInt64.ofNat_uInt32ToNat]
    exact apart.part room
  have cleared : Hosts (host.clear target v.type.size) base m :=
    hosts.of_frame fun a reached => Memory.byte_clear_of_not_reaches (apart a reached)
  rw [← record, ← size] at places separate
  obtain ⟨after, taken, decoded, frame⟩ :=
    takeFields_decodes (host.clear target v.type.size) places (by omega) separate
  rw [record, size, cleared.read room, Memory.read_clear (by omega)] at decoded
  rw [size] at frame
  refine ⟨after, ?_, ?_, ?_⟩
  · rw [loadInto, LinearMemory.read_inside readable room]
    simp only [Pointer.ofSlice_some, Pointer.cast_ofReference]
    rw [taken]
  · rw [load_inside readable room, decode, decoded]
  · intro a outside
    rw [frame a outside, Memory.byte_clear_of_not_reaches outside]

/-! ### What is loaded -/

theorem IsChecked.length_of_load {v : View} {m : LinearMemory} {addr : UInt32} {value : List UInt8}
    (checked : v.IsChecked) (loaded : v.load m addr = .ok value) : value.length = v.type.size := by
  obtain ⟨record, _, decoded⟩ := bind_eq_ok loaded
  exact (checked.decode_eq_ok decoded).1

/-- The value that the record at `addr` stands for: each visible field has the bytes of memory, with zero
or one for each truth value, and all other bytes are zero. -/
structure Depicts (v : View) (m : LinearMemory) (addr : UInt32) (value : List UInt8) : Prop where
  length : value.length = v.type.size
  visible : ∀ (i : Nat) f, v.info.fields[i]? = some f → ∃ t place, f.type = some t ∧
    v.layout.offsets[i]? = some place ∧ ∀ j < t.size, ∃ a : UInt32,
      a.toNat = addr.toNat + place.toNat + j ∧ a.toNat < m.size.toNat ∧
      value[f.offset.toNat + j]? = some
        (if t.HoldsBool j then if m.byte a = 0 then 0 else 1 else m.byte a)
  hidden : ∀ k < v.type.size, v.isVisible k = false → value[k]? = some 0

theorem IsChecked.load_depicts {v : View} {m : LinearMemory} {addr : UInt32} (checked : v.IsChecked)
    (valid : v.info.info.validate = .ok ()) (small : v.type.size ≤ 2 ^ 31) (readable : m.readable = true)
    (room : addr.toNat + v.layout.size.toNat ≤ m.size.toNat) :
    ∃ value, v.load m addr = .ok value ∧ v.Depicts m addr value := by
  obtain ⟨inValue, inRecord⟩ := checked.fits_of_valid valid small
  obtain ⟨value, loaded, filled⟩ := checked.fillsAlways inValue inRecord m addr readable room
  obtain ⟨value', loaded', length, bytes⟩ := checked.load_spec addr valid small readable room
  obtain rfl : value = value' := Except.ok.inj (loaded.symm.trans loaded')
  refine ⟨value, loaded, length, ?_, ?_⟩
  · intro i f found
    obtain ⟨_, _, _, _, located⟩ := checked.row
    obtain ⟨t, place, type, laid, _⟩ := located i f found
    have member : (f, place) ∈ v.placedFields :=
      List.mem_of_getElem? (List.getElem?_zip_eq_some.mpr ⟨found, laid⟩)
    have inside : place.toNat + t.size ≤ v.layout.size.toNat :=
      (checked.fieldsInOrder inRecord).end_le member type
    have addresses := m.size.toNat_lt
    refine ⟨t, place, type, laid, ?_⟩
    intro j position
    have start : (addr + place).toNat = addr.toNat + place.toNat :=
      LinearMemory.toNat_add_place (by omega)
    have address : (addr + place + UInt32.ofNat j).toNat = addr.toNat + place.toNat + j := by
      rw [LinearMemory.toNat_add_address (by omega), start]
    refine ⟨addr + place + UInt32.ofNat j, address, by omega, ?_⟩
    rw [filled _ member t type j position, Bytes.settle_isBoolAt]
  · intro k position hidden
    rw [bytes k position, hidden, if_neg Bool.false_ne_true]

theorem load_refused {v : View} {m : LinearMemory} {addr : UInt32}
    (refused : ¬ (m.readable = true ∧ addr.toNat + v.layout.size.toNat ≤ m.size.toNat)) :
    v.load m addr = .error (.fault (m.outside [v.name] addr v.layout.size)) := by
  have missing : ¬ (m.contains addr v.layout.size && m.readable) = true := by
    rw [Bool.and_eq_true, LinearMemory.contains, decide_eq_true_eq]
    exact fun both => refused both.symm
  rw [load, LinearMemory.read, if_neg missing]
  rfl

theorem IsChecked.exists_load_iff {v : View} (checked : v.IsChecked)
    (valid : v.info.info.validate = .ok ()) (small : v.type.size ≤ 2 ^ 31) (m : LinearMemory) (addr : UInt32) :
    (∃ value, v.load m addr = .ok value) ↔
      m.readable = true ∧ addr.toNat + v.layout.size.toNat ≤ m.size.toNat := by
  constructor
  · rintro ⟨value, loaded⟩
    apply Decidable.byContradiction
    intro refused
    rw [load_refused refused] at loaded
    cases loaded
  · rintro ⟨readable, room⟩
    obtain ⟨value, loaded, _⟩ := checked.load_depicts valid small readable room
    exact ⟨value, loaded⟩

/-- Loading succeeds exactly if the record lies inside memory that can be read, and gives what it stands
for. Done in place, next to linear memory or anywhere else apart from it, it leaves these bytes in the
value and all others as they were, those of linear memory among them. -/
theorem load_depicts_record {v : View} {memory : Option LinearMemory} {given : Option ErasedStruct}
    {t : TypeRep} {r : Registry} (made : (resolve memory given t r).2 = .ok v)
    (valid : v.info.info.validate = .ok ()) (small : t.size ≤ 2 ^ 31) (m : LinearMemory) (addr : UInt32) :
    ((∃ value, v.load m addr = .ok value) ↔
        m.readable = true ∧ addr.toNat + v.layout.size.toNat ≤ m.size.toNat) ∧
      ∀ value, v.load m addr = .ok value →
        v.Depicts m addr value ∧
        ∀ host base target, Hosts host base m → Apart base m.size.toNat target t.size →
          ∃ after, v.loadInto host base m addr target = .ok after ∧ after.read target t.size = value ∧
            Hosts after base m ∧ ∀ a, ¬ Reaches target t.size a → after.byte a = host.byte a := by
  obtain ⟨rfl, checked⟩ := isChecked_of_resolve made
  have exactly := checked.exists_load_iff valid small m addr
  refine ⟨exactly, ?_⟩
  intro value loaded
  obtain ⟨readable, room⟩ := exactly.mp ⟨value, loaded⟩
  constructor
  · obtain ⟨value', loaded', depicts⟩ := checked.load_depicts valid small readable room
    obtain rfl : value = value' := Except.ok.inj (loaded.symm.trans loaded')
    exact depicts
  · intro host base target hosts apart
    obtain ⟨after, placed, loaded', frame⟩ :=
      checked.loadInto_loads valid small readable room hosts apart
    refine ⟨after, placed, Except.ok.inj (loaded'.symm.trans loaded), ?_, frame⟩
    exact hosts.of_frame fun a reached => frame a (apart a reached)

/-- A page without a byte that is a truth value already. -/
def threes : LinearMemory :=
  { LinearMemory.page with byte := fun _ => 3 }

def threesPanel : List UInt8 :=
  [3, 0, 3, 3, 1, 1, 0, 0, 1, 3, 3, 3, 3, 3, 3, 3]

/-- The last sixteen bytes of the page, loaded to the sixteen bytes in front of it. -/
theorem panel_depicts_threes :
    (resolve (some threes) (some Layout.panel) Layout.panelType {}).2 = .ok panelView ∧
      panelView.load threes 65520 = .ok threesPanel ∧ panelView.Depicts threes 65520 threesPanel ∧
      ∃ after, panelView.loadInto ⟨fun _ => 3⟩ 16 threes 65520 0 = .ok after ∧
        after.read 0 16 = threesPanel ∧ Hosts after 16 threes := by
  have made : (resolve (some threes) (some Layout.panel) Layout.panelType {}).2 = .ok panelView := rfl
  have loaded : panelView.load threes 65520 = .ok threesPanel := rfl
  obtain ⟨_, gives⟩ := load_depicts_record made rfl (by decide) threes 65520
  obtain ⟨depicts, places⟩ := gives threesPanel loaded
  have apart : Apart 16 threes.size.toNat 0 Layout.panelType.size := by
    intro a inMemory inValue
    have page : (a - 16).toNat < 65536 := inMemory
    have front : (a - 0).toNat < 16 := inValue
    rw [UInt64.toNat_sub] at page front
    have range := a.toNat_lt
    have sixteen : (16 : UInt64).toNat = 16 := rfl
    have zero : (0 : UInt64).toNat = 0 := rfl
    omega
  obtain ⟨after, placed, read, hosts, _⟩ := places ⟨fun _ => 3⟩ 16 0 (fun _ _ => rfl) apart
  exact ⟨made, loaded, depicts, after, placed, read, hosts⟩

end View

end TypeAtlas
