import TypeAtlas.Pointer.Access

/-! Pointers to several consecutive elements. -/

namespace TypeAtlas

/-- A pointer to the first element and a number of elements, which nothing holds to the region. -/
structure Slice (e : Element) where
  data : Pointer e
  length : Int64
  deriving DecidableEq, Repr

namespace Slice

variable {e : Element}

/-- All of the elements that begin at `data`. -/
def ofElements (data : Option UInt64) (capacity : UInt64) (length : Int64) : Slice e :=
  ⟨Pointer.ofSlice data capacity, length⟩

def getUnchecked (s : Slice e) (i : Int64) : Pointer e :=
  s.data.offsetBy i

def get? (s : Slice e) (i : Int64) : Option (Pointer e) :=
  if i < 0 || s.length ≤ i then none else some (s.getUnchecked i)

/-- The elements, if they all lie inside the region, where elements may lie. -/
def values? (m : Memory) (s : Slice e) : Option (List (List UInt8)) :=
  if s.length < 0 then none
  else if s.length = 0 then some []
  else if s.data.hasElements s.length then
    some (m.readElements s.data.address e.size s.length.toUInt64.toNat)
  else none

end Slice

end TypeAtlas
