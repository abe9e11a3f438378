import TypeAtlas.Pointer.Move

/-!
How far a pointer must advance to reach a multiple of a power of two. With elements of `stride` bytes this
is the least solution `k` of `addr + k * stride ≡ 0` modulo the alignment. The common power of two of
`stride` and the alignment is taken out, and the odd rest is divided by with its inverse.
-/

namespace TypeAtlas

namespace Word

/-- The number of zero bits below the lowest one bit. -/
def trailingZeros (w : UInt64) : Nat :=
  (List.range 64).findIdx fun i => w.toNat.testBit i

/-- Approximations of the inverse of an odd word. The first agrees with it in three bits, since an odd
number is its own inverse modulo 8, and each step doubles the number of bits that agree. -/
def inverseStep (s : UInt64) : Nat → UInt64
  | 0 => s
  | k + 1 =>
    let x := inverseStep s k
    x * (2 - s * x)

/-- The inverse of the odd word `s` modulo the power of two `m`. -/
def inverse (s m : UInt64) : UInt64 :=
  inverseStep s 5 &&& (m - 1)

def isPowerOfTwo (w : UInt64) : Bool :=
  w != 0 && w &&& (w - 1) == 0

/-- Stands for the absence of an offset. -/
def noOffset : UInt64 := 0xFFFFFFFFFFFFFFFF

/-- The least `k` such that `addr + k * stride` is a multiple of the power of two `align`, or `noOffset`. -/
def alignOffset (addr stride align : UInt64) : UInt64 :=
  let mask := align - 1
  if addr &&& mask = 0 then 0
  else if stride = 0 then noOffset
  else
    let gap := (align - (addr &&& mask)) &&& mask
    let shift := UInt64.ofNat (trailingZeros stride)
    let common := (1 : UInt64) <<< shift
    if align ≤ common || gap &&& (common - 1) ≠ 0 then noOffset
    else
      let m := align >>> shift
      ((gap >>> shift) * inverse ((stride >>> shift) &&& (m - 1)) m) &&& (m - 1)

end Word

namespace Pointer

variable {e : Element}

/-- The number of elements to advance by for the address to be a multiple of `align`. -/
def alignOffset (p : Pointer e) (align : UInt64) : Except Misuse UInt64 :=
  if !Word.isPowerOfTwo align then .error .notPowerOfTwo
  else if p.isSymbolic then .ok Word.noOffset
  else .ok (Word.alignOffset p.address e.size align)

end Pointer

end TypeAtlas
