import TypeAtlas.Text

/-!
Interface types: the types in which components exchange values. A definition carries a label, so that
two uses of one definition can be told from two definitions that look alike.
-/

namespace TypeAtlas

inductive WitPrimitive where
  | bool
  | s8 | u8 | s16 | u16 | s32 | u32 | s64 | u64
  | f32 | f64
  | char
  | string
  deriving DecidableEq, Repr

/-- A place in a tree of types: the positions passed on the way to it. -/
abbrev Label := List Nat

structure WitField (τ : Type) where
  name : Text
  type : τ
  deriving Repr

inductive WitType where
  /-- A type that is not known. -/
  | absent
  | primitive (p : WitPrimitive)
  | record (label : Label) (fields : List (WitField WitType))
  | tuple (label : Label) (members : List WitType)
  | variant (label : Label) (cases : List (Option WitType))
  | enum (label : Label) (cases : Nat)
  | option (label : Label) (payload : WitType)
  | result (label : Label) (ok error : Option WitType)
  | list (label : Label) (element : WitType)
  | flags (label : Label) (count : Nat)
  | alias (label : Label) (target : WitType)
  /-- A definition without a layout, such as a resource. -/
  | handle (label : Label)
  deriving Repr

instance : Inhabited WitType := ⟨.absent⟩

def WitPrimitive.name : WitPrimitive → Text
  | .bool => "bool"
  | .s8 => "s8"
  | .u8 => "u8"
  | .s16 => "s16"
  | .u16 => "u16"
  | .s32 => "s32"
  | .u32 => "u32"
  | .s64 => "s64"
  | .u64 => "u64"
  | .f32 => "f32"
  | .f64 => "f64"
  | .char => "char"
  | .string => "string"

def WitPrimitive.all : List WitPrimitive :=
  [.bool, .s8, .u8, .s16, .u16, .s32, .u32, .s64, .u64, .f32, .f64, .char, .string]

def WitPrimitive.ofName? (name : Text) : Option WitPrimitive :=
  all.find? fun p => p.name = name

namespace WitType

mutual

/-- The spelling of a type; only primitives, records and tuples have one. -/
def text : WitType → Text
  | .primitive p => p.name
  | .record _ fields => "record \x7b " ++ Text.join ", " (fieldTexts fields) ++ " \x7d"
  | .tuple _ members => "tuple<" ++ Text.join ", " (texts members) ++ ">"
  | _ => "unknown"

def texts : List WitType → List Text
  | [] => []
  | t :: rest => t.text :: texts rest

def fieldTexts : List (WitField WitType) → List Text
  | [] => []
  | ⟨name, t⟩ :: rest => (name ++ ": " ++ t.text) :: fieldTexts rest

end

end WitType

end TypeAtlas
