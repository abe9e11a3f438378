import TypeAtlas.Proofs.Truth

/-!
Bytes that are moved and settled where they are. Reading, writing and settling at a distance from an
address are said as operations on the list of bytes from that address on: writing puts a part over them,
settling settles a part of them. A copy between two places that are apart is one such write.
-/

namespace TypeAtlas

/-! ### Bytes at a distance -/

/-- A part of some bytes reaches only what the whole does. -/
theorem Reaches.of_part {addr a : UInt64} {offset size whole : Nat} (inside : offset + size ≤ whole)
    (reached : Reaches (addr + UInt64.ofNat offset) size a) : Reaches addr whole a := by
  have shift : a - addr = a - (addr + UInt64.ofNat offset) + UInt64.ofNat offset := by grind
  rw [Reaches] at reached ⊢
  rw [shift, UInt64.toNat_add, UInt64.toNat_ofNat']
  omega

theorem reaches_add (addr : UInt64) {i n : Nat} (position : i < n) : Reaches addr n (addr + UInt64.ofNat i) := by
  have distance : addr + UInt64.ofNat i - addr = UInt64.ofNat i := by grind
  rw [Reaches, distance, UInt64.toNat_ofNat']
  exact Nat.lt_of_le_of_lt (Nat.mod_le i _) position

namespace Memory

variable {m : Memory} {addr : UInt64} {n : Nat}

theorem getElem?_read {i : Nat} (inside : i < n) :
    (m.read addr n)[i]? = some (m.byte (addr + UInt64.ofNat i)) := by
  simp [read, inside]

theorem read_eq_sub {offset size : Nat} (inside : offset + size ≤ n) :
    m.read (addr + UInt64.ofNat offset) size = Bytes.sub offset size (m.read addr n) := by
  apply List.ext_getElem?
  intro i
  by_cases position : i < size
  · rw [getElem?_read position, Bytes.getElem?_sub position, getElem?_read (by omega), UInt64.ofNat_add,
      UInt64.add_assoc]
  · rw [List.getElem?_eq_none (by simpa using position),
      List.getElem?_eq_none (by rw [Bytes.length_sub (by simpa using inside)]; omega)]

/-- Writing inside some bytes puts what is written over them. -/
theorem read_write {offset : Nat} {part : List UInt8} (inside : offset + part.length ≤ n)
    (fits : n ≤ 2 ^ 64) :
    (m.write (addr + UInt64.ofNat offset) part).read addr n = Bytes.put offset part (m.read addr n) := by
  apply List.ext_getElem?
  intro i
  by_cases position : i < n
  · rw [getElem?_read position, Bytes.getElem?_put (by simpa using inside), getElem?_read position,
      byte_write]
    have distance : (addr + UInt64.ofNat i - (addr + UInt64.ofNat offset)).toNat =
        (2 ^ 64 - offset % 2 ^ 64 + i) % 2 ^ 64 := by
      have cancelled : addr + UInt64.ofNat i - (addr + UInt64.ofNat offset) =
          UInt64.ofNat i - UInt64.ofNat offset := by grind
      rw [cancelled, UInt64.toNat_sub, UInt64.toNat_ofNat', UInt64.toNat_ofNat']
      omega
    rw [distance]
    split
    · rename_i covered
      have index : (2 ^ 64 - offset % 2 ^ 64 + i) % 2 ^ 64 = i - offset := by omega
      rw [index, List.getElem?_eq_getElem (by omega), Option.getD_some]
    · rw [List.getElem?_eq_none (by omega), Option.getD_none]
  · rw [List.getElem?_eq_none (by simpa using position),
      List.getElem?_eq_none (by simpa using position)]

theorem read_write_self {part : List UInt8} (fits : part.length ≤ 2 ^ 64) :
    (m.write addr part).read addr part.length = part := by
  have start : addr + UInt64.ofNat 0 = addr := UInt64.add_zero addr
  have whole : (m.write (addr + UInt64.ofNat 0) part).read addr part.length =
      Bytes.put 0 part (m.read addr part.length) := read_write (Nat.le_of_eq (Nat.zero_add _)) fits
  rwa [start, Bytes.put_whole (length_read _ _).symm] at whole

theorem byte_write_of_not_reaches {part : List UInt8} {a : UInt64}
    (outside : ¬ Reaches addr part.length a) : (m.write addr part).byte a = m.byte a :=
  Decidable.byContradiction fun changed => outside (reaches_of_changed changed)

/-- Memory with `n` zeros at `addr`. -/
def clear (m : Memory) (addr : UInt64) (n : Nat) : Memory :=
  m.write addr (List.replicate n 0)

theorem read_clear (fits : n ≤ 2 ^ 64) : (m.clear addr n).read addr n = List.replicate n 0 := by
  have whole : (m.clear addr n).read addr (List.replicate n (0 : UInt8)).length = List.replicate n 0 :=
    read_write_self (by simpa using fits)
  rwa [List.length_replicate] at whole

theorem byte_clear_of_not_reaches {a : UInt64} (outside : ¬ Reaches addr n a) :
    (m.clear addr n).byte a = m.byte a :=
  byte_write_of_not_reaches (by rwa [List.length_replicate])

/-- Settling part of some bytes in place settles them there. -/
theorem read_settleBools {t : TypeRep} {offset : Nat} (inside : offset + t.size ≤ n)
    (fits : n ≤ 2 ^ 64) :
    (m.settleBools (addr + UInt64.ofNat offset) t).read addr n =
      Bytes.settleBools t offset (m.read addr n) := by
  apply List.ext_getElem?
  intro i
  rw [Bytes.getElem?_settleBools]
  by_cases position : i < n
  · have distance : (addr + UInt64.ofNat i - addr).toNat = i := by
      have cancelled : addr + UInt64.ofNat i - addr = UInt64.ofNat i := by grind
      rw [cancelled, UInt64.toNat_ofNat_of_lt' (show i < 2 ^ 64 by omega)]
    rw [getElem?_read position, getElem?_read position, byte_settleBools t (by omega),
      isBoolAt_part (by omega), distance]
    rfl
  · rw [List.getElem?_eq_none (by simpa using position),
      List.getElem?_eq_none (by simpa using position)]
    rfl

theorem byte_settleBools_of_not_reaches {t : TypeRep} {a : UInt64} (fits : t.size ≤ 2 ^ 64)
    (outside : ¬ Reaches addr t.size a) : (m.settleBools addr t).byte a = m.byte a := by
  have plain : t.isBoolAt (a - addr).toNat = false :=
    Bool.eq_false_iff.mpr fun truth => outside (t.lt_size_of_isBoolAt _ truth)
  rw [byte_settleBools t fits, plain]
  rfl

theorem settleBools_of_empty {t : TypeRep} (empty : t.size = 0) (m : Memory) (addr : UInt64) :
    m.settleBools addr t = m := by
  have bytes : (m.settleBools addr t).byte = m.byte := by
    funext a
    rw [byte_settleBools t (by omega), TypeRep.isBoolAt_of_empty empty]
    rfl
  exact congrArg Memory.mk bytes

end Memory

/-! ### Copying bytes -/

namespace Pointer

/-- All of `size` bytes that begin at an address. -/
def toBytes (addr size : UInt64) : Pointer .byte :=
  ⟨⟨.address addr, size⟩, 0⟩

variable {addr size : UInt64}

theorem ofSlice_some : (ofSlice (some addr) size : Pointer .byte) = toBytes addr size := by
  have bytes : size * Element.byte.size = size := UInt64.mul_one size
  rw [ofSlice, bytes, toBytes]

theorem cast_ofReference {e : Element} :
    (ofReference (some addr) : Pointer e).cast = toBytes addr e.size :=
  rfl

theorem byteAdd_toBytes (offset : UInt64) :
    (toBytes addr size).byteAdd offset = ⟨⟨.address addr, size⟩, offset⟩ := by
  rw [byteAdd, toBytes, UInt64.zero_add]

theorem address_toBytes (offset : UInt64) : ((toBytes addr size).byteAdd offset).address = addr + offset := by
  rw [byteAdd_toBytes]
  rfl

theorem hasBytes_toBytes {offset n : UInt64} :
    ((toBytes addr size).byteAdd offset).hasBytes n = true ↔ offset.toNat + n.toNat ≤ size.toNat := by
  rw [byteAdd_toBytes, hasBytes_iff]
  exact ⟨fun enclosed => enclosed.inside, fun inside => ⟨⟨addr, rfl⟩, inside⟩⟩

theorem reference?_toBytes {offset : UInt64} (inside : offset.toNat < size.toNat) :
    ((toBytes addr size).byteAdd offset).reference? = some (addr + offset) := by
  have has : ((toBytes addr size).byteAdd offset).hasBytes Element.byte.size = true :=
    hasBytes_toBytes.mpr inside
  have aligned : ((toBytes addr size).byteAdd offset).isAligned = true := by
    simp [isAligned, Element.byte]
  rw [reference?_eq, has, aligned, Bool.and_self, if_pos rfl, address_toBytes]

theorem span_byte {count : Nat} (small : count < 2 ^ 63) :
    Element.byte.span (Int64.ofNat count) = some (UInt64.ofNat count) := by
  have value := Int64.toInt_ofNat_of_lt small
  apply Element.span_eq_some_iff.mpr
  constructor
  · apply Int64.le_iff_toInt_le.mpr
    rw [value]
    exact Int.natCast_nonneg count
  · rw [Int64.toNatClampNeg, value, UInt64.toNat_ofNat_of_lt' (show count < 2 ^ 64 by omega)]
    exact (Nat.mul_one count).symm

/-- Bytes are copied between places that are apart, if both have so many. -/
theorem copy_bytes {m : Memory} {source target offset place n : UInt64} {count : Nat}
    (small : count < 2 ^ 63) (inSource : place.toNat + count ≤ n.toNat)
    (inTarget : offset.toNat + count ≤ size.toNat) (apart : 0 < count → source ≠ target) :
    (((toBytes source n).byteAdd place).copyToNonoverlapping m
        ((toBytes target size).byteAdd offset) (Int64.ofNat count)).1 =
      m.write (target + offset) (m.read (source + place) count) := by
  rcases Nat.eq_zero_or_pos count with rfl | positive
  · rfl
  have counted : (0 : Int64) < Int64.ofNat count := by
    apply Int64.lt_iff_toInt_lt.mpr
    rw [Int64.toInt_ofNat_of_lt small]
    exact Int.natCast_pos.mpr positive
  have word : (UInt64.ofNat count).toNat = count := UInt64.toNat_ofNat_of_lt' (show count < 2 ^ 64 by omega)
  have other : ((toBytes source n).byteAdd place).sameRegion ((toBytes target size).byteAdd offset) =
      false := by
    simp [byteAdd_toBytes, sameRegion, apart positive]
  have both : (((toBytes source n).byteAdd place).hasBytes (UInt64.ofNat count) &&
      ((toBytes target size).byteAdd offset).hasBytes (UInt64.ofNat count)) = true := by
    rw [Bool.and_eq_true, hasBytes_toBytes, hasBytes_toBytes, word]
    exact ⟨inSource, inTarget⟩
  rw [copyToNonoverlapping, other, Bool.and_false, if_neg Bool.false_ne_true, copyTo_eq,
    if_neg (Int64.not_lt.mpr (Int64.le_of_lt counted)), if_neg (fun none => by simp [none] at counted),
    span_byte small]
  simp only [both, if_true, copyBytes, word, address_toBytes]

end Pointer

end TypeAtlas
