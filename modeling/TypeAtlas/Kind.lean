import TypeAtlas.Text

/-!
The shapes a described type can have. Shapes are numbered; a number without a shape is kept as it is.
-/

namespace TypeAtlas

inductive Kind where
  | struct
  | union
  | enum
  | tuple
  | array
  | slice
  | function
  | unknown (code : UInt8)
  deriving DecidableEq, Repr

namespace Kind

def ofCode (code : UInt8) : Kind :=
  match code.toNat with
  | 0 => .struct
  | 1 => .union
  | 2 => .enum
  | 3 => .tuple
  | 4 => .array
  | 5 => .slice
  | 6 => .function
  | _ => .unknown code

def code : Kind → UInt8
  | .struct => 0
  | .union => 1
  | .enum => 2
  | .tuple => 3
  | .array => 4
  | .slice => 5
  | .function => 6
  | .unknown c => c

/-- A sketch of the shape. -/
def sketch : Kind → Text
  | .struct => "struct \x7b ... \x7d"
  | .union => "union \x7b ... \x7d"
  | .enum => "enum \x7b ... \x7d"
  | .tuple => "tuple ( ... )"
  | .array => "array [type; n]"
  | .slice => "slice [type]"
  | .function => "fn (...)"
  | .unknown _ => "unknown"

/-- The short name used in outlines. -/
def keyword : Kind → Text
  | .struct => "struct"
  | .union => "union"
  | .enum => "enum"
  | .tuple => "tuple"
  | .array => "array"
  | .slice => "slice"
  | .function => "func"
  | .unknown _ => "unknown"

/-- Structs, unions and tuples all consist of fields. -/
def hasFields : Kind → Bool
  | .struct | .union | .tuple => true
  | _ => false

end Kind

end TypeAtlas
