import TypeAtlas.Descriptor.Erased

/-!
Outlines of descriptors as plain text, one write per line. The destination may refuse a write; the
outline then stops at once and reports the refusal.
-/

namespace TypeAtlas

/-- A destination of text. `room` bounds the writes it still accepts; `attempts` counts them all. -/
structure Sink where
  room : Option Nat
  attempts : Nat := 0
  out : Text := []
  deriving DecidableEq, Repr

/-- Writing that stops at the first refusal. -/
abbrev Writing := ExceptT Failure (StateM Sink)

namespace Sink

/-- A destination that accepts everything. -/
def unbounded : Sink where
  room := none

def bounded (writes : Nat) : Sink where
  room := some writes

def refusal : Failure := .message "write refused"

/-- One write: all of the text or, without room, nothing. -/
def write (t : Text) : Writing Unit := fun s =>
  match s.room with
  | none => (.ok (), { s with attempts := s.attempts + 1, out := s.out ++ t })
  | some 0 => (.error refusal, { s with attempts := s.attempts + 1 })
  | some (room + 1) =>
    (.ok (), { room := some room, attempts := s.attempts + 1, out := s.out ++ t })

end Sink

namespace Outline

/-- A type in an outline; an absent one is marked. -/
def typeText : Option TypeRep → Text
  | some t => t.text
  | none => "%!s(<nil>)"

/-- A raw value with the sign of the type of the enumeration. -/
def rawText (owner : Option TypeRep) (raw : UInt64) : Text :=
  match owner.map TypeRep.underlying with
  | some (.primitive .int) | some (.primitive .int8) | some (.primitive .int16)
  | some (.primitive .int32) | some (.primitive .int64) => Text.ofInt raw.toInt64.toInt
  | _ => Text.ofNat raw.toNat

def fieldText (indent : Text) (f : FieldInfo) : Text :=
  indent ++ displayName f.name ++ " (" ++ typeText f.type ++ ", " ++ Text.ofNat f.offset.toNat ++ ")\n"

def writeField (f : FieldInfo) : Writing Unit :=
  Sink.write (fieldText "\t" f)

def writeStruct (s : StructInfo) : Writing Unit := do
  Sink.write (s.kind.keyword ++ " " ++ s.name ++ ", with " ++ Text.ofInt s.count ++ " fields:\n")
  s.fields.forM writeField

def writeVariant (v : VariantInfo) : Writing Unit :=
  match v.raw with
  | some raw => Sink.write ("\t" ++ v.name ++ " = " ++ rawText v.owner raw ++ "\n")
  | none =>
    if TypeRep.isNoType v.listType then Sink.write ("\t" ++ v.name ++ "\n")
    else do
      Sink.write ("\t" ++ v.name ++ ", with " ++ Text.ofInt v.count ++ " fields:\n")
      v.fields.forM fun f => Sink.write (fieldText "\t\t" f)

def writeEnum (e : EnumInfo) : Writing Unit := do
  Sink.write ("enum " ++ e.name ++ ", with " ++ Text.ofInt e.count ++ " variants:\n")
  e.variants.forM writeVariant

def writeParameter (p : ParameterInfo) : Writing Unit :=
  Sink.write ("\t" ++ displayName p.name ++ " (" ++ typeText p.type ++ ")\n")

def writeFunction (f : FunctionInfo) : Writing Unit := do
  Sink.write ("fn " ++ f.name ++ ", with " ++ Text.ofInt f.count ++ " parameters:\n")
  f.parameters.forM writeParameter
  if TypeRep.isNoType f.result then pure ()
  else Sink.write ("\treturns " ++ typeText f.result ++ "\n")

/-- The outline of a descriptor that can answer for its kind; `none` when it cannot. -/
def write? (d : Descriptor) : Option (Writing Unit) :=
  match d.kind with
  | .struct | .union | .tuple => d.struct?.map writeStruct
  | .enum => d.enum?.map writeEnum
  | .function => d.function?.map writeFunction
  | _ => none

end Outline

end TypeAtlas
