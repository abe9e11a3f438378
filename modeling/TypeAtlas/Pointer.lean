import TypeAtlas.TypeRep

/-!
Pointers that remember the region they were made from. A pointer is an offset into its region; moving it
never changes the region, and the checked accesses of `TypeAtlas.Pointer.Access` use the region to refuse
what lies outside. A pointer may have no region at all, or one that has no address yet.

Addresses, offsets and sizes are words, and arithmetic on them wraps.
-/

namespace TypeAtlas

/-- What a pointer points to: how many bytes it takes and what its address is a multiple of. -/
structure Element where
  size : UInt64
  align : UInt64
  deriving DecidableEq, Repr

namespace Element

def byte : Element := ⟨1, 1⟩

def ofType (t : TypeRep) : Element :=
  ⟨UInt64.ofNat t.size, UInt64.ofNat t.align⟩

end Element

/-- Where a region begins. -/
inductive Origin where
  /-- There is no region. -/
  | none
  | address (base : UInt64)
  /-- The region has no address yet and is told apart by a number of its own. -/
  | symbol (id : Nat)
  deriving DecidableEq, Repr

structure Region where
  origin : Origin
  size : UInt64
  deriving DecidableEq, Repr

namespace Region

/-- What pointers have that were made from an address alone. -/
def none : Region := ⟨.none, 0⟩

def isSymbolic (r : Region) : Bool :=
  match r.origin with
  | .symbol _ => true
  | _ => false

/-- The address of the first byte. Offsets are all there is to know of a region without an address. -/
def start (r : Region) : UInt64 :=
  match r.origin with
  | .address base => base
  | _ => 0

end Region

/-- A pointer to values of one element type. -/
structure Pointer (e : Element) where
  region : Region
  offset : UInt64
  deriving DecidableEq, Repr

namespace Pointer

variable {e : Element}

/-! ### Making pointers -/

def null : Pointer e := ⟨.none, 0⟩

/-- A bare address: it can be compared, moved and printed. -/
def ofAddress (addr : UInt64) : Pointer e := ⟨.none, addr⟩

/-- A pointer to a value, which is all of its region. -/
def ofReference : Option UInt64 → Pointer e
  | some addr => ⟨⟨.address addr, e.size⟩, 0⟩
  | none => null

/-- A pointer to the first of the elements that begin at `data`. The region has room for `capacity` of
them. -/
def ofSlice (data : Option UInt64) (capacity : UInt64) : Pointer e :=
  match data with
  | some addr => ⟨⟨.address addr, capacity * e.size⟩, 0⟩
  | none => null

/-- The start of a region of its own that has no address yet. -/
def symbolic (id : Nat) (size : UInt64) : Pointer e := ⟨⟨.symbol id, size⟩, 0⟩

/-- The same place seen as another type. -/
def cast {f : Element} (p : Pointer e) : Pointer f := ⟨p.region, p.offset⟩

/-- A pointer to the start of some bytes, seen as another type. -/
def ofBytes (data : Option UInt64) (capacity : UInt64) : Pointer e :=
  (ofSlice data capacity : Pointer .byte).cast

/-! ### Asking pointers -/

/-- The address, or the offset where the region has no address. -/
def address (p : Pointer e) : UInt64 :=
  p.region.start + p.offset

def isSymbolic (p : Pointer e) : Bool :=
  p.region.isSymbolic

def isNull (p : Pointer e) : Bool :=
  !p.isSymbolic && p.address == 0

def hasRegion (p : Pointer e) : Bool :=
  p.region.origin != .none

/-- Regions are the same when they begin at the same place. -/
def sameRegion (p q : Pointer e) : Bool :=
  p.hasRegion && p.region.origin == q.region.origin

def isAligned (p : Pointer e) : Bool :=
  p.address % e.align == 0

def text (p : Pointer e) : Text :=
  (if p.isSymbolic then "sym+0x" else "0x") ++ Text.hex p.address.toNat

/-! ### Comparing -/

/-- The pointers are certainly equal, wherever regions without an address come to lie. -/
def surelyEqual (p q : Pointer e) : Bool :=
  if p.isSymbolic || q.isSymbolic then
    p.region.origin == q.region.origin && p.offset == q.offset
  else p.address == q.address

/-- The pointers are certainly different. Of two pointers neither may be certain. -/
def surelyDifferent (p q : Pointer e) : Bool :=
  if p.isSymbolic || q.isSymbolic then
    p.region.origin == q.region.origin && p.offset != q.offset
  else p.address != q.address

end Pointer

end TypeAtlas
