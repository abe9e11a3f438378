import TypeAtlas.Abort
import TypeAtlas.Descriptor.Erased
import TypeAtlas.Wit.Kebab
import TypeAtlas.Wit.Layout

/-!
The interface type with the same values as a runtime type. Structs become records and arrays tuples;
pointers, slices and other types that live on the heap have no counterpart.
-/

namespace TypeAtlas

def Primitive.wit? : Primitive → Option WitPrimitive
  | .bool => some .bool
  | .int8 => some .s8
  | .uint8 => some .u8
  | .int16 => some .s16
  | .uint16 => some .u16
  | .int32 => some .s32
  | .uint32 => some .u32
  | .int | .int64 => some .s64
  | .uint | .uint64 | .uintptr => some .u64
  | .float32 => some .f32
  | .float64 => some .f64
  | .string => some .string
  | .complex64 | .complex128 | .emptyInterface | .unsafePointer => none

namespace WitType

/-- No interface type has the values of `t`. -/
def noCounterpart (path : List Text) (t : TypeRep) : Fault :=
  Fault.of {
    path
    phase := .layout
    kind := .unsupported
    goType := t.text
    detail := "no WIT counterpart for " ++ t.kindName }

mutual

/-- The counterpart of the type `whole`, which is defined as `t`. -/
def counterpart (path : List Text) (label : Label) (whole : TypeRep) :
    TypeRep → Except Fault WitType
  | .named _ d => counterpart path label whole d
  | .primitive p =>
    match p.wit? with
    | some w => .ok (.primitive w)
    | none => .error (noCounterpart path whole)
  | .array n e =>
    match counterpart (path ++ [("[]" : Text)]) (0 :: label) e e with
    | .ok t => .ok (.tuple label (List.replicate n t))
    | .error f => .error f
  | .struct fields =>
    match counterparts path label 0 fields with
    | .ok ts => .ok (.record label ts)
    | .error f => .error f
  | .pointer _ | .slice _ | .map .. | .channel .. | .function .. =>
    .error (noCounterpart path whole)

def counterparts (path : List Text) (label : Label) (i : Nat) :
    List (Member TypeRep) → Except Fault (List (WitField WitType))
  | [] => .ok []
  | ⟨name, t, _⟩ :: rest =>
    match counterpart (path ++ [name]) (i :: label) t t with
    | .error f => .error f
    | .ok w =>
      match counterparts path label (i + 1) rest with
      | .ok ws => .ok (⟨Kebab.ofName name, w⟩ :: ws)
      | .error f => .error f

end

/-- The interface type with the values of a runtime type. -/
def ofType (t : TypeRep) : Except Fault WitType :=
  counterpart [t.text] [] t t

/-- The same for a type that may be absent, which has no name to report. -/
def ofType? (t : Option TypeRep) : Except Abort WitType :=
  match t with
  | none => .error (.trap .absent)
  | some t => Abort.ofFault (ofType t)

/-- The field of a record for a visible field; without a type there is none. -/
def ofField (owner : Text) (i : Nat) (f : FieldInfo) : Except Abort (WitField WitType) :=
  match f.type with
  | none => .error (.trap .absent)
  | some t =>
    (Abort.ofFault (counterpart [owner, f.name] [i] t t)).map fun w => ⟨Kebab.ofName f.name, w⟩

/-- The fields of the record that describes the visible fields of a struct. -/
def recordFields (s : ErasedStruct) : Except Abort (List (WitField WitType)) :=
  s.fields.zipIdx.mapM fun (f, i) => ofField s.name i f

/-- The record that describes the visible fields of a struct. -/
def record? (s : Option ErasedStruct) : Except Abort WitType :=
  match s with
  | none => .error (.fault (Fault.invalidInput .layout "nil struct"))
  | some s => (recordFields s).map (.record [])

end WitType

end TypeAtlas
