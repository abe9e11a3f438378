import TypeAtlas.Pointer

/-!
Moving pointers and measuring the distance between them. Every move adds a number of bytes to the offset,
modulo the word, and keeps the region. Only `Pointer.checkedOffset` looks at the region; the plain moves
leave it to their caller to stay inside.
-/

namespace TypeAtlas

/-- What pointers cannot be asked. -/
inductive Misuse where
  /-- A distance in elements that take no room. -/
  | zeroSized
  /-- An alignment that is no power of two. -/
  | notPowerOfTwo
  deriving DecidableEq, Repr

def Misuse.text : Misuse → Text
  | .zeroSized => "ptr: OffsetFrom on a zero-sized element type"
  | .notPowerOfTwo => "ptr: AlignOffset: align is not a power-of-two"

/-- A product of signed words, if it is one. -/
def checkedMul (a b : Int64) : Option Int64 :=
  if a = 0 || b = 0 then some 0
  else
    let c := a * b
    if c / b ≠ a || (a = -1 && b = Int64.minValue) || (b = -1 && a = Int64.minValue) then none
    else some c

/-- The ways to move a pointer. The wrapping moves may leave the region, the others should not; they move
alike. -/
inductive Move where
  | offset (count : Int64)
  | add (count : UInt64)
  | sub (count : UInt64)
  | byteAdd (n : UInt64)
  | byteSub (n : UInt64)
  | wrappingOffset (count : Int64)
  | wrappingAdd (count : UInt64)
  | wrappingSub (count : UInt64)
  | withAddress (addr : UInt64)
  deriving DecidableEq, Repr

namespace Pointer

variable {e : Element}

def byteAdd (p : Pointer e) (n : UInt64) : Pointer e :=
  { p with offset := p.offset + n }

def byteSub (p : Pointer e) (n : UInt64) : Pointer e :=
  { p with offset := p.offset - n }

/-- Moves by `count` elements, backwards when it is negative. -/
def offsetBy (p : Pointer e) (count : Int64) : Pointer e :=
  p.byteAdd (count.toUInt64 * e.size)

def add (p : Pointer e) (count : UInt64) : Pointer e :=
  p.byteAdd (count * e.size)

def sub (p : Pointer e) (count : UInt64) : Pointer e :=
  p.byteSub (count * e.size)

/-- The pointer to `addr` with the region of `p`. -/
def withAddress (p : Pointer e) (addr : UInt64) : Pointer e :=
  p.byteAdd (addr - p.address)

def move (p : Pointer e) : Move → Pointer e
  | .offset count | .wrappingOffset count => p.offsetBy count
  | .add count | .wrappingAdd count => p.add count
  | .sub count | .wrappingSub count => p.sub count
  | .byteAdd n => p.byteAdd n
  | .byteSub n => p.byteSub n
  | .withAddress addr => p.withAddress addr

def moves (p : Pointer e) (ms : List Move) : Pointer e :=
  ms.foldl move p

/-- The pointer to a field of type `f` that lies `offset` bytes into what `p` points to. -/
def field {f : Element} (p : Pointer e) (offset : UInt64) : Pointer f :=
  (p.byteAdd offset).cast

/-- Moves by `count` elements if the pointer stays between the ends of its region, both included. A
pointer without a region only stays where it is. -/
def checkedOffset (p : Pointer e) (count : Int64) : Pointer e × Bool :=
  if !p.hasRegion then (p, count = 0)
  else if p.region.size < p.offset then (p, false)
  else
    match checkedMul count e.size.toInt64 with
    | none => (p, false)
    | some delta =>
      let here := p.offset.toInt64
      if p.region.size.toInt64 - here < delta || delta < -here then (p, false)
      else ({ p with offset := (here + delta).toUInt64 }, true)

/-- The distance from `origin` in bytes. -/
def byteOffsetFrom (p origin : Pointer e) : Int64 :=
  (p.address - origin.address).toInt64

/-- The distance from `origin` in elements, rounded toward zero. -/
def offsetFrom (p origin : Pointer e) : Except Misuse Int64 :=
  if e.size = 0 || Int64.maxValue.toUInt64 < e.size then .error .zeroSized
  else .ok (p.byteOffsetFrom origin / e.size.toInt64)

end Pointer

end TypeAtlas
