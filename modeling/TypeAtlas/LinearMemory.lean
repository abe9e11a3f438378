import TypeAtlas.Failure

/-!
Linear memory: bytes at addresses of four bytes up to a size. A range is inside when its end is not past
the size, in exact arithmetic. A memory may refuse reads and writes that are inside, too.
-/

namespace TypeAtlas

structure LinearMemory where
  size : UInt32
  byte : UInt32 → UInt8
  /-- Reads inside go through. -/
  readable : Bool := true
  /-- How many more writes go through, if not all of them do. -/
  writesLeft : Option Nat := none

namespace LinearMemory

/-- One page of zeros. -/
def page : LinearMemory :=
  { size := 65536, byte := fun _ => 0 }

def contains (m : LinearMemory) (addr n : UInt32) : Bool :=
  addr.toNat + n.toNat ≤ m.size.toNat

/-- The bytes from `addr` on, wherever they lie. -/
def bytes (m : LinearMemory) (addr : UInt32) (n : Nat) : List UInt8 :=
  (List.range n).map fun i => m.byte (addr + UInt32.ofNat i)

/-- Memory with bytes put at `addr`. -/
def put (m : LinearMemory) (addr : UInt32) (data : List UInt8) : LinearMemory :=
  { m with byte := fun a => (data[(a - addr).toNat]?).getD (m.byte a) }

/-- An access at `path` that is not inside. -/
def outside (m : LinearMemory) (path : List Text) (addr n : UInt32) : Fault :=
  Fault.outOfBounds .memory path addr.toNat n.toNat m.size.toNat

def bounds (m : LinearMemory) (path : List Text) (addr n : UInt32) : Except Fault Unit :=
  if m.contains addr n then .ok () else .error (m.outside path addr n)

/-- Reads `n` bytes on behalf of `path`. -/
def read (m : LinearMemory) (path : List Text) (addr n : UInt32) : Except Fault (List UInt8) :=
  if m.contains addr n && m.readable then .ok (m.bytes addr n.toNat)
  else .error (m.outside path addr n)

/-- Writes bytes on behalf of `path`. A write that is refused leaves the memory alone. -/
def write (m : LinearMemory) (path : List Text) (addr : UInt32) (data : List UInt8) :
    LinearMemory × Except Fault Unit :=
  let n := UInt32.ofNat data.length
  if m.contains addr n && m.writesLeft != some 0 then
    ({ m.put addr data with writesLeft := m.writesLeft.map (· - 1) }, .ok ())
  else (m, .error (m.outside path addr n))

/-- The memory that a module exports under a name. -/
def exported (exports : Option (List (Text × LinearMemory))) (name : Text) :
    Except Fault LinearMemory :=
  match exports with
  | none => .error (Fault.invalidInput .memory "nil module")
  | some memories =>
    match memories.lookup name with
    | none => .error (Fault.notFound .memory "memory export" name)
    | some m => .ok m

end LinearMemory

end TypeAtlas
