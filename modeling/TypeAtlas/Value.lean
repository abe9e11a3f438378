import TypeAtlas.Abort
import TypeAtlas.Descriptor

/-!
Values in memory: what the bytes of a value mean under its type, and access to the fields of a value
through their descriptors. Words are stored with the least significant byte first.
-/

namespace TypeAtlas

/-- A value read from memory. Numbers carry their width in bytes; floats stay bit patterns. -/
inductive Value where
  | bool (b : Bool)
  | integer (width : Nat) (n : Int)
  | float (width bits : Nat)
  | text (t : Text)
  | list (items : List Value)
  | other (kind : Text)
  deriving Repr

namespace Bytes

/-- The number that bytes stand for, the least significant first. -/
def toNat : List UInt8 → Nat
  | [] => 0
  | b :: rest => b.toNat + 256 * toNat rest

/-- The last `width` bytes of a number, the least significant first. -/
def ofNat : Nat → Nat → List UInt8
  | 0, _ => []
  | width + 1, n => UInt8.ofNat (n % 256) :: ofNat width (n / 256)

/-- The number with the top bit as a sign. -/
def toInt (bytes : List UInt8) : Int :=
  Int.bmod (toNat bytes) (Nat.pow 256 bytes.length)

/-- The `size` bytes from `offset` on. -/
def sub (offset size : Nat) (bytes : List UInt8) : List UInt8 :=
  (bytes.drop offset).take size

/-- Puts `part` over the bytes from `offset` on; what would stand past the end is dropped. -/
def put (offset : Nat) (part bytes : List UInt8) : List UInt8 :=
  if offset ≤ bytes.length then
    (bytes.take offset ++ part ++ bytes.drop (offset + part.length)).take bytes.length
  else bytes

end Bytes

namespace Value

def ofPrimitive (p : Primitive) (bytes : List UInt8) : Value :=
  let own := bytes.take p.extent.size
  match p with
  | .bool => .bool (Bytes.toNat own != 0)
  | .int | .int8 | .int16 | .int32 | .int64 => .integer p.extent.size (Bytes.toInt own)
  | .uint | .uint8 | .uint16 | .uint32 | .uint64 | .uintptr =>
    .integer p.extent.size (Bytes.toNat own)
  | .float32 | .float64 => .float p.extent.size (Bytes.toNat own)
  | .string => .text []
  | .complex64 | .complex128 | .emptyInterface | .unsafePointer =>
    .other (TypeRep.kindName (.primitive p))

mutual

/-- The value of a type at the front of some bytes. References are not followed, so a string, which
only an untouched value can hold here, is empty. -/
def ofBytes (bytes : List UInt8) : TypeRep → Value
  | .primitive p => ofPrimitive p bytes
  | .named _ d => ofBytes bytes d
  | .array n e => .list ((List.range n).map fun i => ofBytes (bytes.drop (i * e.size)) e)
  | .struct fields => .list (ofMembers bytes fields (TypeRep.offsets fields))
  | t => .other t.kindName

def ofMembers (bytes : List UInt8) : List (Member TypeRep) → List Nat → List Value
  | ⟨_, t, _⟩ :: rest, offset :: offsets =>
    ofBytes (bytes.drop offset) t :: ofMembers bytes rest offsets
  | _, _ => []

end

mutual

/-- Whether telling the value of this type takes a look at its bytes. -/
def isRead : TypeRep → Bool
  | .primitive p =>
    match p with
    | .complex64 | .complex128 | .emptyInterface | .unsafePointer => false
    | _ => true
  | .named _ d => isRead d
  | .array n e => 0 < n && isRead e
  | .struct fields => isReadMember fields
  | _ => false

def isReadMember : List (Member TypeRep) → Bool
  | [] => false
  | ⟨_, t, _⟩ :: rest => isRead t || isReadMember rest

end

/-- The value of a type at an offset from nowhere. At no distance there is not even a value. -/
def atNowhere (offset : UInt64) (t : TypeRep) : Except Trap Value :=
  if offset == 0 then .ok (.other "invalid")
  else if isRead t then .error .absent
  else .ok (ofBytes [] t)

end Value

/-! ### Truth values -/

namespace TypeRep

mutual

/-- The byte at an offset into a value of this type is a truth value, at whatever depth. -/
def isBoolAt : TypeRep → Nat → Bool
  | .primitive p, i => p == .bool && i == 0
  | .named _ d, i => d.isBoolAt i
  | .array n e, i => i / e.size < n && e.isBoolAt (i % e.size)
  | .struct fields, i => isBoolAtMember fields (offsets fields) i
  | _, _ => false

def isBoolAtMember : List (Member TypeRep) → List Nat → Nat → Bool
  | ⟨_, t, _⟩ :: rest, offset :: offsets, i =>
    (offset ≤ i && t.isBoolAt (i - offset)) || isBoolAtMember rest offsets i
  | _, _, _ => false

end

mutual

/-- A value of this type contains a truth value. -/
def hasBool : TypeRep → Bool
  | .primitive p => p == .bool
  | .named _ d => d.hasBool
  | .array n e => 0 < n && e.hasBool
  | .struct fields => hasBoolMember fields
  | _ => false

def hasBoolMember : List (Member TypeRep) → Bool
  | [] => false
  | ⟨_, t, _⟩ :: rest => t.hasBool || hasBoolMember rest

end

end TypeRep

namespace Bytes

/-- Makes every truth value of the value of type `t` at `start` a zero or a one; anything but zero is
true. -/
def settleBools (t : TypeRep) (start : Nat) (bytes : List UInt8) : List UInt8 :=
  bytes.mapIdx fun i b => if start ≤ i && t.isBoolAt (i - start) && 1 < b then 1 else b

/-- `size` bytes that begin with those of `part`; the others are zero. -/
def padTo (size : Nat) (part : List UInt8) : List UInt8 :=
  put 0 part (List.replicate size 0)

end Bytes

namespace FieldInfo

/-- What went wrong when a field was asked for in a value of another type. -/
def wrongOwner (owner : TypeRep) : Text :=
  "introspect: AnyField.Value: owner is not a *" ++ owner.text

/-- The value of a field in the owner that an argument of the given type points to, if it points to
anything. -/
def valueIn (f : FieldInfo) (argument : TypeRep) (target : Option (List UInt8)) : Except Text Value :=
  match f.owner with
  | none => .error Trap.absent.text
  | some owner =>
    if argument = .pointer owner then
      match f.type, target with
      | none, _ => .error "interface conversion: reflect.Type is nil, not *reflect.rtype"
      | some t, some memory => .ok (Value.ofBytes (memory.drop f.offset.toNat) t)
      | some t, none => (Value.atNowhere f.offset t).mapError Trap.text
    else .error (wrongOwner owner)

/-- The memory of the owner after the field was set to a number, which only integers can be. -/
def setNumber (f : FieldInfo) (n : Int) (memory : List UInt8) : List UInt8 :=
  match f.type with
  | some t =>
    if t.isInteger then Bytes.put f.offset.toNat (Bytes.ofNat t.size (n % 0x10000000000000000).toNat) memory
    else memory
  | none => memory

/-- The bytes of the field inside its owner. -/
def bytesIn (f : FieldInfo) (size : Nat) (memory : List UInt8) : List UInt8 :=
  Bytes.sub f.offset.toNat size memory

end FieldInfo

end TypeAtlas
