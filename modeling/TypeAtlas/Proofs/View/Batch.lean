import TypeAtlas.Proofs.Outcome
import TypeAtlas.Proofs.View.RoundTrip

/-!
Reading several records at once. The bytes that the records take are counted in words of 64 bits, so a
count large enough comes out as a small number of bytes and passes the check of the bounds. That never
leads to a wrong answer: so many values have no room, and asking for it stops the operation. In all other
cases the request is refused, or it gives as many values as were asked for. These are the values that are
loaded one by one, as long as the record holds all fields.
-/

namespace TypeAtlas

namespace LinearMemory

variable {m : LinearMemory} {addr : UInt32}

/-- A longer read is a read, and another one further on. -/
theorem bytes_add (n k : Nat) :
    m.bytes addr (n + k) = m.bytes addr n ++ m.bytes (addr + UInt32.ofNat n) k := by
  simp only [bytes, List.range_add, List.map_append, List.map_map, UInt32.add_assoc]
  congr 1
  apply List.map_congr_left
  intro i _
  rw [Function.comp_apply, UInt32.ofNat_add]

end LinearMemory

namespace View

/-! ### Counting bytes -/

/-- The bytes that `count` records take, as a word counts them. -/
def spanWord (v : View) (count : Nat) : Nat :=
  v.layout.size.toNat * count % 2 ^ 64

theorem toNat_toUInt64_of_nonneg {n : Int64} (nonnegative : 0 ≤ n) :
    n.toUInt64.toNat = n.toNatClampNeg := by
  have sign : (0 : Int64).toInt ≤ n.toInt := Int64.le_iff_toInt_le.mp nonnegative
  have zero : (0 : Int64).toInt = 0 := rfl
  have word : n.toUInt64.toNat = n.toBitVec.toNat := rfl
  have range := n.toBitVec.isLt
  have value : n.toInt = if 2 * n.toBitVec.toNat < 2 ^ 64 then (n.toBitVec.toNat : Int)
      else n.toBitVec.toNat - (2 ^ 64 : Nat) := BitVec.toInt_eq_toNat_cond _
  rw [Int64.toNatClampNeg, word]
  split at value <;> omega

theorem toNat_span (v : View) {n : Int64} (nonnegative : 0 ≤ n) :
    (v.layout.size.toUInt64 * n.toUInt64).toNat = v.spanWord n.toNatClampNeg := by
  rw [UInt64.toNat_mul, UInt32.toNat_toUInt64, toNat_toUInt64_of_nonneg nonnegative]
  rfl

/-! ### Requests that pass and requests that do not -/

/-- The answer is that the records do not lie inside memory. -/
def IsRefusal {α : Type} (v : View) (m : LinearMemory) (addr : UInt32) (answer : Except Abort α) : Prop :=
  ∃ size, answer =
    .error (.fault (Fault.outOfBounds .memory [v.name] addr.toNat size m.size.toNat))

section Requests

variable {v : View} {m : LinearMemory} {addr : UInt32} {n : Int64}

theorem loadAll_eq (nonnegative : 0 ≤ n) :
    v.loadAll m addr n =
      if m.size.toNat < (addr.toNat + v.spanWord n.toNatClampNeg) % 2 ^ 64 then
        .error (.fault (Fault.outOfBounds .memory [v.name] addr.toNat
          (v.spanWord n.toNatClampNeg) m.size.toNat))
      else
        Abort.ofFault (m.read [v.name] addr (v.layout.size.toUInt64 * n.toUInt64).toUInt32) >>= fun data =>
          if roomLimit < v.type.size * n.toNatClampNeg then .error (.trap .length)
          else (List.range n.toNatClampNeg).mapM fun i => v.decode (v.recordAt data i) := by
  have sign : ¬ n < 0 := Int64.not_lt.mpr nonnegative
  have passes : m.size.toUInt64 < addr.toUInt64 + v.layout.size.toUInt64 * n.toUInt64 ↔
      m.size.toNat < (addr.toNat + v.spanWord n.toNatClampNeg) % 2 ^ 64 := by
    rw [UInt64.lt_iff_toNat_lt, UInt64.toNat_add, toNat_span v nonnegative, UInt32.toNat_toUInt64,
      UInt32.toNat_toUInt64]
  simp only [loadAll, sign, passes, toNat_toUInt64_of_nonneg nonnegative, toNat_span v nonnegative,
    if_false]
  split
  · rfl
  · cases Abort.ofFault (m.read [v.name] addr (v.layout.size.toUInt64 * n.toUInt64).toUInt32) with
    | error e => rfl
    | ok data =>
      show (if roomLimit < v.type.size * n.toNatClampNeg then _ else _) = _
      split <;> rfl

theorem toNat_asked (v : View) (nonnegative : 0 ≤ n) :
    (v.layout.size.toUInt64 * n.toUInt64).toUInt32.toNat = v.spanWord n.toNatClampNeg % 2 ^ 32 := by
  rw [UInt64.toNat_toUInt32, toNat_span v nonnegative]

/-- A request whose counted bytes lie inside memory is read. Only the room for the values can still be
missing. -/
theorem loadAll_of_inside (nonnegative : 0 ≤ n) (readable : m.readable = true)
    (inside : addr.toNat + v.spanWord n.toNatClampNeg ≤ m.size.toNat) :
    v.loadAll m addr n =
      if roomLimit < v.type.size * n.toNatClampNeg then .error (.trap .length)
      else (List.range n.toNatClampNeg).mapM fun i =>
        v.decode (v.recordAt (m.bytes addr (v.spanWord n.toNatClampNeg)) i) := by
  have addresses := m.size.toNat_lt
  have asked := toNat_asked v nonnegative
  rw [Nat.mod_eq_of_lt (by omega)] at asked
  rw [loadAll_eq nonnegative, Nat.mod_eq_of_lt (by omega), if_neg (by omega),
    LinearMemory.read_inside readable (by omega), asked]
  rfl

/-- Every other request is refused. Where the sum of address and bytes wraps around it passes the first
check, but then the bytes asked for reach past the last address. -/
theorem loadAll_of_outside (nonnegative : 0 ≤ n)
    (outside : m.size.toNat < addr.toNat + v.spanWord n.toNatClampNeg) :
    v.IsRefusal m addr (v.loadAll m addr n) := by
  rw [loadAll_eq nonnegative]
  split
  · exact ⟨_, rfl⟩
  · rename_i wrapped
    have addresses := m.size.toNat_lt
    have start := addr.toNat_lt
    have word : v.spanWord n.toNatClampNeg < 2 ^ 64 := Nat.mod_lt _ (by decide)
    have asked := toNat_asked v nonnegative
    have missing : m.contains addr (v.layout.size.toUInt64 * n.toUInt64).toUInt32 = false := by
      apply decide_eq_false
      omega
    rw [LinearMemory.read, missing, Bool.false_and, if_neg Bool.false_ne_true]
    exact ⟨_, rfl⟩

/-- A memory that cannot be read refuses every request. -/
theorem loadAll_of_unreadable (nonnegative : 0 ≤ n) (closed : m.readable = false) :
    v.IsRefusal m addr (v.loadAll m addr n) := by
  rw [loadAll_eq nonnegative]
  split
  · exact ⟨_, rfl⟩
  · rw [LinearMemory.read, closed, Bool.and_false, if_neg Bool.false_ne_true]
    exact ⟨_, rfl⟩

end Requests

/-! ### The records -/

/-- The answer has `count` values. If the record holds all fields, each of them is what loading its
record alone gives. -/
structure GivesEach (v : View) (m : LinearMemory) (addr : UInt32) (count : Nat)
    (values : List (List UInt8)) : Prop where
  length : values.length = count
  each : v.FitsRecord → ∀ i < count, ∃ value, values[i]? = some value ∧
    v.load m (addr + UInt32.ofNat (i * v.layout.size.toNat)) = .ok value

/-- A view of a struct that keeps its contract decodes every record. -/
theorem IsChecked.exists_decode {v : View} (checked : v.IsChecked) (value : v.FitsValue)
    (record : List UInt8) : ∃ out, v.decode record = .ok out := by
  rcases checked.decode_cases record with ⟨_, f, member, late⟩ | ⟨out, decoded, _⟩
  · exact absurd late (value f member).not_truthPast
  · exact ⟨out, decoded⟩

theorem record_end_le (size : Nat) {i count : Nat} (position : i < count) :
    i * size + size ≤ size * count := by
  rw [← Nat.succ_mul, Nat.mul_comm]
  exact Nat.mul_le_mul_left size position

/-- A record is read with the bytes that follow it. -/
theorem recordAt_bytes (v : View) (m : LinearMemory) (addr : UInt32) {count i : Nat}
    (position : i < count) (words : v.layout.size.toNat * count < 2 ^ 32) :
    ∃ later, v.recordAt (m.bytes addr (v.layout.size.toNat * count)) i =
      m.bytes (addr + UInt32.ofNat (i * v.layout.size.toNat)) v.layout.size.toNat ++ later := by
  have next := record_end_le v.layout.size.toNat position
  have start : (UInt32.ofNat i * v.layout.size).toNat = i * v.layout.size.toNat := by
    rw [UInt32.toNat_mul, UInt32.toNat_ofNat', Nat.mod_mul_mod, Nat.mod_eq_of_lt (by omega)]
  obtain ⟨more, total⟩ := Nat.exists_eq_add_of_le next
  rw [recordAt, start, total, Nat.add_assoc, LinearMemory.bytes_add,
    List.drop_left' (LinearMemory.length_bytes _), LinearMemory.bytes_add]
  exact ⟨_, rfl⟩

theorem IsChecked.decode_append {v : View} (checked : v.IsChecked) (fits : v.FitsRecord)
    {record : List UInt8} (length : record.length = v.layout.size.toNat) (later : List UInt8) :
    v.decode (record ++ later) = v.decode record := by
  rw [decode, decode, decodeFields_append (checked.fieldsInOrder fits) (Nat.le_of_eq length.symm)]

/-- Records that lie inside memory are given one by one, if there is room for the values. -/
theorem IsChecked.loadAll_gives {v : View} {m : LinearMemory} {addr : UInt32} {n : Int64}
    (checked : v.IsChecked) (value : v.FitsValue) (nonnegative : 0 ≤ n) (readable : m.readable = true)
    (inside : addr.toNat + n.toNatClampNeg * v.layout.size.toNat ≤ m.size.toNat)
    (room : v.type.size * n.toNatClampNeg ≤ roomLimit) :
    ∃ values, v.loadAll m addr n = .ok values ∧ v.GivesEach m addr n.toNatClampNeg values := by
  generalize counted : n.toNatClampNeg = count at inside room ⊢
  have addresses := m.size.toNat_lt
  rw [Nat.mul_comm] at inside
  have span : v.spanWord count = v.layout.size.toNat * count := Nat.mod_eq_of_lt (by omega)
  have all := loadAll_of_inside (v := v) nonnegative readable (by rw [counted, span]; exact inside)
  rw [counted, span, if_neg (by omega)] at all
  have decodes : ∀ i ∈ List.range count, ∃ out,
      v.decode (v.recordAt (m.bytes addr (v.layout.size.toNat * count)) i) = .ok out :=
    fun i _ => checked.exists_decode value _
  obtain ⟨values, read⟩ := exists_mapM_eq_ok decodes
  obtain ⟨length, each⟩ := mapM_eq_ok read
  rw [List.length_range] at length
  refine ⟨values, all.trans read, length, ?_⟩
  intro fits i position
  have found := List.getElem?_eq_getElem (l := values) (i := i) (by omega)
  have decoded := each i i _ (List.getElem?_range position) found
  have next := record_end_le v.layout.size.toNat position
  have place : (addr + UInt32.ofNat (i * v.layout.size.toNat)).toNat =
      addr.toNat + i * v.layout.size.toNat := LinearMemory.toNat_add_address (by omega)
  obtain ⟨later, record⟩ := v.recordAt_bytes m addr position (by omega)
  rw [record, checked.decode_append fits (LinearMemory.length_bytes _)] at decoded
  refine ⟨_, found, ?_⟩
  rw [load_inside readable (by omega), decoded]

/-- Where the bytes of the records are too many for a word, their values are too many for any room. -/
theorem IsChecked.no_room_of_wrapped {v : View} (checked : v.IsChecked) (value : v.FitsValue) {count : Nat}
    (wrapped : 2 ^ 64 ≤ v.layout.size.toNat * count) : roomLimit < v.type.size * count := by
  have word := v.layout.size.toNat_lt
  have many : 2 ^ 32 ≤ count := by
    apply Nat.le_of_not_lt
    intro few
    have product : v.layout.size.toNat * count ≤ 2 ^ 32 * (2 ^ 32 - 1) :=
      Nat.mul_le_mul (by omega) (by omega)
    omega
  by_cases large : 2 ^ 17 ≤ v.type.size
  · calc roomLimit
      _ < 2 ^ 17 * 2 ^ 32 := by decide
      _ ≤ v.type.size * count := Nat.mul_le_mul large many
  · obtain ⟨_, _, _, close⟩ := checked.packed value (by omega)
    have bound : roundUp v.type.size 8 ≤ 8 * v.type.size :=
      roundUp_le (by decide) (by omega) (Nat.mul_mod_right _ _)
    have scaled : v.layout.size.toNat * count ≤ 8 * v.type.size * count :=
      Nat.mul_le_mul_right count (Nat.le_trans close bound)
    rw [Nat.mul_assoc] at scaled
    have limit : roomLimit = 2 ^ 48 := rfl
    omega

/-! ### Exactly the records, or a refusal -/

/-- What reading records should do, with the end of the last one counted in exact arithmetic. -/
structure ReadsExactly (v : View) (m : LinearMemory) (addr : UInt32) (n : Int64) : Prop where
  inside : addr.toNat + n.toNatClampNeg * v.layout.size.toNat ≤ m.size.toNat →
    ∃ values, v.loadAll m addr n = .ok values ∧ v.GivesEach m addr n.toNatClampNeg values
  outside : m.size.toNat < addr.toNat + n.toNatClampNeg * v.layout.size.toNat →
    v.IsRefusal m addr (v.loadAll m addr n)

/-- The bytes as a word counts them lie inside memory, and the values take more room than there is. -/
def Overreaches (v : View) (m : LinearMemory) (addr : UInt32) (n : Int64) : Prop :=
  addr.toNat + v.spanWord n.toNatClampNeg ≤ m.size.toNat ∧ roomLimit < v.type.size * n.toNatClampNeg

theorem IsChecked.readsExactly {v : View} {m : LinearMemory} {addr : UInt32} {n : Int64}
    (checked : v.IsChecked) (value : v.FitsValue) (nonnegative : 0 ≤ n) (readable : m.readable = true)
    (within : ¬ v.Overreaches m addr n) : v.ReadsExactly m addr n := by
  have addresses := m.size.toNat_lt
  constructor
  · intro inside
    have span : v.spanWord n.toNatClampNeg = n.toNatClampNeg * v.layout.size.toNat := by
      rw [spanWord, Nat.mul_comm, Nat.mod_eq_of_lt (by omega)]
    have room : v.type.size * n.toNatClampNeg ≤ roomLimit := by
      apply Nat.le_of_not_lt
      exact fun more => within ⟨by rw [span]; exact inside, more⟩
    exact checked.loadAll_gives value nonnegative readable inside room
  · intro outside
    apply loadAll_of_outside nonnegative
    apply Nat.lt_of_not_le
    intro counted
    apply within ⟨counted, ?_⟩
    -- The word differs from the exact number of bytes, so they are too many for a word.
    apply checked.no_room_of_wrapped value
    apply Nat.le_of_not_lt
    intro short
    rw [spanWord, Nat.mod_eq_of_lt short, Nat.mul_comm] at counted
    omega

/-- Reading records of a view of a struct that keeps its contract, over memory that can be read, gives
exactly the records that lie inside memory and refuses all others, with one exception: if the bytes as a
word counts them lie inside memory and the values take more room than there is, the operation is stopped.
Memory that cannot be read refuses every request. The record holds all fields of values of less than four
gigabytes. -/
theorem readsExactly_iff_not_overreaches {v : View} {memory : Option LinearMemory}
    {given : Option ErasedStruct} {t : TypeRep} {r : Registry} (made : (resolve memory given t r).2 = .ok v)
    (valid : v.info.info.validate = .ok ()) (m : LinearMemory) (addr : UInt32) {n : Int64}
    (nonnegative : 0 ≤ n) :
    (m.readable = true →
      (v.ReadsExactly m addr n ↔ ¬ v.Overreaches m addr n) ∧
        (v.Overreaches m addr n → v.loadAll m addr n = .error (.trap .length))) ∧
      (m.readable = false → v.IsRefusal m addr (v.loadAll m addr n)) ∧
      (t.size + 8 ≤ 2 ^ 32 → v.FitsRecord) := by
  obtain ⟨rfl, checked⟩ := isChecked_of_resolve made
  have value := fitsValue_of_valid checked valid
  refine ⟨?_, loadAll_of_unreadable nonnegative, checked.fitsRecord value⟩
  intro readable
  have stopped (beyond : v.Overreaches m addr n) : v.loadAll m addr n = .error (.trap .length) := by
    rw [loadAll_of_inside nonnegative readable beyond.1, if_pos beyond.2]
  refine ⟨⟨?_, checked.readsExactly value nonnegative readable⟩, stopped⟩
  intro exactly beyond
  rcases Nat.lt_or_ge m.size.toNat (addr.toNat + n.toNatClampNeg * v.layout.size.toNat) with outside | inside
  · obtain ⟨_, refused⟩ := exactly.outside outside
    rw [stopped beyond] at refused
    cases refused
  · obtain ⟨_, answered, _⟩ := exactly.inside inside
    rw [stopped beyond] at answered
    cases answered

/-- Sixteen bytes for each panel: 2 ^ 60 of them take no bytes at all in a word. -/
theorem panels_overreach :
    (resolve (some .page) (some Layout.panel) Layout.panelType {}).2 = .ok panelView ∧
      panelView.loadAll .page 0 0x1000000000000000 = .error (.trap .length) ∧
      ¬ panelView.ReadsExactly .page 0 0x1000000000000000 := by
  have made : (resolve (some .page) (some Layout.panel) Layout.panelType {}).2 = .ok panelView := rfl
  obtain ⟨reads, _⟩ := readsExactly_iff_not_overreaches made rfl .page 0
    (show (0 : Int64) ≤ 0x1000000000000000 by decide)
  obtain ⟨exactly, stopped⟩ := reads rfl
  have beyond : panelView.Overreaches .page 0 0x1000000000000000 := by
    constructor <;> decide +kernel
  exact ⟨made, stopped beyond, fun holds => exactly.mp holds beyond⟩

end View

end TypeAtlas
