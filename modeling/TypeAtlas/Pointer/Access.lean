import TypeAtlas.Pointer.Move
import TypeAtlas.Value

/-!
Reading and writing through pointers. An access goes through only if all of its bytes lie inside a region
that has an address; otherwise it is refused and memory stays as it was.
-/

namespace TypeAtlas

/-- The bytes at all addresses. -/
structure Memory where
  byte : UInt64 → UInt8

namespace Memory

def read (m : Memory) (addr : UInt64) (n : Nat) : List UInt8 :=
  (List.range n).map fun i => m.byte (addr + UInt64.ofNat i)

/-- Memory with `bytes` put at `addr`. -/
def write (m : Memory) (addr : UInt64) (bytes : List UInt8) : Memory :=
  ⟨fun a => (bytes[(a - addr).toNat]?).getD (m.byte a)⟩

/-- `count` values of `size` bytes, side by side from `addr` on. -/
def readElements (m : Memory) (addr size : UInt64) (count : Nat) : List (List UInt8) :=
  (List.range count).map fun i => m.read (addr + UInt64.ofNat i * size) size.toNat

/-- Puts values of `size` bytes side by side from `addr` on. -/
def writeElements (m : Memory) (addr size : UInt64) : List (List UInt8) → Memory
  | [] => m
  | v :: rest => (m.write addr v).writeElements (addr + size) size rest

end Memory

namespace Element

/-- The bytes of a value, completed with zeros. -/
def bytes (e : Element) (value : List UInt8) : List UInt8 :=
  Bytes.padTo e.size.toNat value

/-- The bytes that `count` elements take, unless they are more than a word can count. -/
def span (e : Element) (count : Int64) : Option UInt64 :=
  if count < 0 || (e.size ≠ 0 && 0xFFFFFFFFFFFFFFFF / e.size < count.toUInt64) then none
  else some (count.toUInt64 * e.size)

end Element

namespace Pointer

variable {e : Element}

/-- There are `n` bytes at the pointer inside its region, which has an address. -/
def hasBytes (p : Pointer e) (n : UInt64) : Bool :=
  match p.region.origin with
  | .address _ => p.offset ≤ p.region.size && n ≤ p.region.size - p.offset
  | _ => false

/-- A whole element lies inside the region. -/
def inBounds (p : Pointer e) : Bool :=
  p.hasBytes e.size

/-- `count` elements lie inside the region, where elements may lie. -/
def hasElements (p : Pointer e) (count : Int64) : Bool :=
  match e.span count with
  | some n => e.size ≠ 0 && p.isAligned && p.hasBytes n
  | none => false

/-- The address of the element, if it may be used. -/
def reference? (p : Pointer e) : Option UInt64 :=
  if p.inBounds && p.isAligned then some p.address else none

def read (m : Memory) (p : Pointer e) : Option (List UInt8) :=
  p.reference?.map fun addr => m.read addr e.size.toNat

/-- Reads wherever the element lies inside the region. -/
def readUnaligned (m : Memory) (p : Pointer e) : Option (List UInt8) :=
  if p.inBounds then some (m.read p.address e.size.toNat) else none

/-- The memory after a write, and whether it went through. -/
def write (m : Memory) (p : Pointer e) (value : List UInt8) : Memory × Bool :=
  match p.reference? with
  | some addr => (m.write addr (e.bytes value), true)
  | none => (m, false)

/-- Copies elements; all are read before the first is written. -/
def copyElements (m : Memory) (p target : Pointer e) (count : Nat) : Memory :=
  m.writeElements target.address e.size (m.readElements p.address e.size count)

def copyBytes (m : Memory) (p target : Pointer e) (n : Nat) : Memory :=
  m.write target.address (m.read p.address n)

/-- Copies `count` elements to `target`. The ranges may overlap, and need not be aligned. -/
def copyTo (m : Memory) (p target : Pointer e) (count : Int64) : Memory × Bool :=
  if count < 0 then (m, false)
  else if count = 0 then (m, true)
  else if p.hasElements count && target.hasElements count then
    (p.copyElements m target count.toUInt64.toNat, true)
  else
    match e.span count with
    | none => (m, false)
    | some n =>
      if p.hasBytes n && target.hasBytes n then (p.copyBytes m target n.toNat, true) else (m, false)

/-- Two ranges of `n` bytes in one region have a byte in common. -/
def overlaps (p q : Pointer e) (n : UInt64) : Bool :=
  p.offset < q.offset + n && q.offset < p.offset + n

/-- Copies, but refuses ranges of one region that overlap. -/
def copyToNonoverlapping (m : Memory) (p target : Pointer e) (count : Int64) : Memory × Bool :=
  if 0 < count && p.sameRegion target then
    match e.span count with
    | none => (m, false)
    | some n => if p.overlaps target n then (m, false) else p.copyTo m target count
  else p.copyTo m target count

end Pointer

end TypeAtlas
