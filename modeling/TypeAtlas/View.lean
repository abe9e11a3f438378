import TypeAtlas.LinearMemory
import TypeAtlas.Registry
import TypeAtlas.Value
import TypeAtlas.Wit.Check

/-!
Views copy records between values and linear memory. A view exists only for a struct whose fields lie in
memory as its record does. Only the visible fields of the struct are copied: the other bytes of a value
are zero when it is loaded, and the other bytes of memory are left alone when it is stored.

A value is the list of its bytes.
-/

namespace TypeAtlas

/-- A view of values of one type. -/
structure View where
  type : TypeRep
  info : ErasedStruct
  layout : Layout

namespace View

/-! ### Making views -/

/-- The view of values of type `t` by the struct `s`. -/
def ofStruct (t : TypeRep) (s : ErasedStruct) : Except Abort View :=
  match s.type with
  | none => .error (.trap .absent)
  | some described =>
    if described ≠ t then
      .error (.fault (Fault.typeMismatch .memory [s.name] t.text described.text))
    else
      match Layout.check (some s) with
      | (layout, .ok ()) => .ok ⟨t, s, layout⟩
      | (_, .error a) => .error a

/-- The view of values of type `t` over a memory, by a given struct or by the one that the registry has. -/
def resolve (memory : Option LinearMemory) (given : Option ErasedStruct) (t : TypeRep) (r : Registry) :
    Registry × Except Abort View :=
  match memory, given with
  | none, _ => (r, .error (.fault (Fault.invalidInput .memory "nil memory")))
  | some _, some s => (r, ofStruct t s)
  | some _, none =>
    match r.struct (some t) with
    | (r, .ok s) => (r, ofStruct t s)
    | (r, .error f) => (r, .error (.failure f))

def name (v : View) : Text :=
  v.info.name

/-- The visible fields with their offsets in the record. -/
def placedFields (v : View) : List (FieldInfo × UInt32) :=
  v.info.fields.zip v.layout.offsets

/-! ### Loading -/

/-- Copies a field of a record into a value, if it has its place in both. -/
def copyField (record value : List UInt8) (t : TypeRep) (offset : UInt64) (witOffset : UInt32) :
    List UInt8 :=
  if offset.toNat + t.size ≤ value.length && witOffset.toNat + t.size ≤ record.length then
    Bytes.put offset.toNat (Bytes.sub witOffset.toNat t.size record) value
  else value

/-- Takes one field of a record into a value. Truth values past the end of the value cannot be settled. -/
def decodeField (record value : List UInt8) (f : FieldInfo) (witOffset : UInt32) :
    Except Trap (List UInt8) :=
  match f.type with
  | none => .error .absent
  | some t =>
    if value.length ≤ f.offset.toNat && t.hasBool then .error .absent
    else .ok (Bytes.settleBools t f.offset.toNat (copyField record value t f.offset witOffset))

def decodeFields (record value : List UInt8) : List (FieldInfo × UInt32) → Except Trap (List UInt8)
  | [] => .ok value
  | (f, witOffset) :: rest => do
    decodeFields record (← decodeField record value f witOffset) rest

/-- The value that the bytes of a record stand for. -/
def decode (v : View) (record : List UInt8) : Except Abort (List UInt8) :=
  match decodeFields record (List.replicate v.type.size 0) v.placedFields with
  | .ok value => .ok value
  | .error t => .error (.trap t)

/-- Reads the record at `addr`. -/
def load (v : View) (m : LinearMemory) (addr : UInt32) : Except Abort (List UInt8) := do
  v.decode (← Abort.ofFault (m.read [v.name] addr v.layout.size))

/-- The most bytes that can be asked for at once. -/
def roomLimit : Nat := 0x1000000000000

/-- Record `i` of consecutive records, together with those after it: a field that reaches past the end of
its record is taken from there. -/
def recordAt (v : View) (data : List UInt8) (i : Nat) : List UInt8 :=
  data.drop (UInt32.ofNat i * v.layout.size).toNat

/-- Reads `n` consecutive records from `addr` on. -/
def loadAll (v : View) (m : LinearMemory) (addr : UInt32) (n : Int64) :
    Except Abort (List (List UInt8)) := do
  if n < 0 then throw (.fault (Fault.invalidInput .memory "negative record count"))
  let total := v.layout.size.toUInt64 * n.toUInt64
  if m.size.toUInt64 < addr.toUInt64 + total then
    throw (.fault (Fault.outOfBounds .memory [v.name] addr.toNat total.toNat m.size.toNat))
  let data ← Abort.ofFault (m.read [v.name] addr total.toUInt32)
  if roomLimit < v.type.size * n.toUInt64.toNat then throw (.trap .length)
  (List.range n.toUInt64.toNat).mapM fun i => v.decode (v.recordAt data i)

/-- A field that the view does not have. -/
def missing (v : View) (field : Text) : Fault :=
  Fault.notFound .memory "field" (v.name ++ "." ++ field)

/-- The bytes of a value of type `t`, read at `place` from the record at `addr`. -/
def readPart (v : View) (m : LinearMemory) (field : Text) (addr place : UInt32) (t : TypeRep) :
    Except Fault (List UInt8) := do
  let path := [v.name, field]
  m.bounds path addr v.layout.size
  let data ← m.read path place (UInt32.ofNat t.size)
  return Bytes.settleBools t 0 (Bytes.padTo t.size data)

/-- Reads one visible field by its name, together with its type. -/
def field (v : View) (m : LinearMemory) (addr : UInt32) (name : Text) :
    Except Abort (TypeRep × List UInt8) :=
  match v.placedFields.find? fun (f, _) => f.name = name with
  | none => .error (.fault (v.missing name))
  | some (f, witOffset) =>
    match f.type with
    | none => .error (.trap .absent)
    | some t => (Abort.ofFault (v.readPart m name addr (addr + witOffset) t)).map fun b => (t, b)

/-- Reads a field as a value of type `t`, given its name and offset. -/
def loadField (v : View) (m : LinearMemory) (addr : UInt32) (name : Text) (offset : UInt64)
    (t : TypeRep) : Except Fault (List UInt8) :=
  match v.info.field? name with
  | none => .error (v.missing name)
  | some f =>
    if f.offset ≠ offset then .error (v.missing name)
    else v.readPart m name addr (addr + offset.toUInt32) t

/-! ### Storing -/

/-- Writes one field of a value to the record at `addr`. -/
def storeField (v : View) (m : LinearMemory) (addr : UInt32) (value : List UInt8) (f : FieldInfo)
    (witOffset : UInt32) : LinearMemory × Except Abort Unit :=
  match f.type with
  | none => (m, .error (.trap .absent))
  | some t =>
    let path := [v.name, f.name]
    if t.size ≠ 0 && value.length < f.offset.toNat + t.size then
      (m, .error (.fault (Fault.outOfBounds .memory path f.offset.toNat t.size value.length)))
    else
      let (m, written) := m.write path (addr + witOffset) (Bytes.sub f.offset.toNat t.size value)
      (m, Abort.ofFault written)

/-- Writes fields in order up to the first that is refused; those before it stay written. -/
def storeFields (v : View) (addr : UInt32) (value : List UInt8) :
    List (FieldInfo × UInt32) → LinearMemory → LinearMemory × Except Abort Unit
  | [], m => (m, .ok ())
  | (f, witOffset) :: rest, m =>
    match v.storeField m addr value f witOffset with
    | (m, .ok ()) => v.storeFields addr value rest m
    | (m, .error a) => (m, .error a)

/-- Writes the visible fields of a value to the record at `addr`. An absent value has no bytes. -/
def store (v : View) (m : LinearMemory) (addr : UInt32) (value : Option (List UInt8)) :
    LinearMemory × Except Abort Unit :=
  match m.bounds [v.name] addr v.layout.size with
  | .error f => (m, .error (.fault f))
  | .ok () => v.storeFields addr (value.getD []) v.placedFields m

end View

end TypeAtlas
