import TypeAtlas.Text.Quoted

/-!
Runtime types: their identity, their spelling, and where the fields of a struct lie in memory on a
machine with words of eight bytes. Types without a name are equal when they are built alike; a named
type carries its definition, and names are unique, so equality of terms is identity of types.
-/

namespace TypeAtlas

/-- Types that are not built from others. -/
inductive Primitive where
  | bool
  | int | int8 | int16 | int32 | int64
  | uint | uint8 | uint16 | uint32 | uint64 | uintptr
  | float32 | float64
  | complex64 | complex128
  | string
  | emptyInterface
  | unsafePointer
  deriving DecidableEq, Repr

inductive Direction where
  | both
  | receive
  | send
  deriving DecidableEq, Repr

/-- A declared name: the import path and the name of its package, and the name itself. The names that
belong to no package have an empty path. -/
structure TypeName where
  path : Text
  package : Text
  name : Text
  deriving DecidableEq, Repr

/-- A named component with a tag. -/
structure Member (τ : Type) where
  name : Text
  type : τ
  tag : Text
  deriving Repr

/-- A runtime type. The term is finite, so a type that is defined in terms of itself has none. But it comes
back to itself only behind a pointer, a slice, a map, a channel or a function, where nothing below looks for
more than spelling and identity: there it can be cut, in the same way wherever its name occurs. Of the
interfaces only the empty one is here; one with methods that has a name can stand as a name for it, which
has the same size and alignment. -/
inductive TypeRep where
  | primitive (p : Primitive)
  | named (name : TypeName) (definition : TypeRep)
  | pointer (element : TypeRep)
  | slice (element : TypeRep)
  | array (length : Nat) (element : TypeRep)
  | map (key value : TypeRep)
  | channel (direction : Direction) (element : TypeRep)
  | function (inputs outputs : List TypeRep) (variadic : Bool)
  | struct (fields : List (Member TypeRep))
  deriving Repr

namespace TypeRep

instance : Inhabited TypeRep := ⟨.primitive .bool⟩

/-! ### Identity -/

mutual

/-- Structural comparison. -/
def beq : TypeRep → TypeRep → Bool
  | .primitive p, .primitive q => p == q
  | .named m d, .named n e => m == n && d.beq e
  | .pointer d, .pointer e => d.beq e
  | .slice d, .slice e => d.beq e
  | .array m d, .array n e => m == n && d.beq e
  | .map k d, .map l e => k.beq l && d.beq e
  | .channel s d, .channel t e => s == t && d.beq e
  | .function i o v, .function j p w => beqAll i j && beqAll o p && v == w
  | .struct f, .struct g => beqMembers f g
  | _, _ => false

def beqAll : List TypeRep → List TypeRep → Bool
  | [], [] => true
  | d :: ds, e :: es => d.beq e && beqAll ds es
  | _, _ => false

def beqMembers : List (Member TypeRep) → List (Member TypeRep) → Bool
  | [], [] => true
  | ⟨m, d, s⟩ :: ds, ⟨n, e, t⟩ :: es => m == n && d.beq e && s == t && beqMembers ds es
  | _, _ => false

end

mutual

theorem beq_iff (a b : TypeRep) : a.beq b = true ↔ a = b := by
  cases a <;> cases b <;> simp [beq, beq_iff, beqAll_iff, beqMembers_iff, and_assoc]

theorem beqAll_iff (a b : List TypeRep) : beqAll a b = true ↔ a = b := by
  cases a <;> cases b <;> simp [beqAll, beq_iff, beqAll_iff]

theorem beqMembers_iff (a b : List (Member TypeRep)) : beqMembers a b = true ↔ a = b := by
  cases a with
  | nil => cases b <;> simp [beqMembers]
  | cons f fs =>
    cases b with
    | nil => simp [beqMembers]
    | cons g gs =>
      obtain ⟨m, d, s⟩ := f
      obtain ⟨n, e, t⟩ := g
      simp [beqMembers, beq_iff d e, beqMembers_iff fs gs, and_assoc]

end

instance : DecidableEq TypeRep := fun a b =>
  decidable_of_iff (a.beq b = true) (beq_iff a b)

/-- The type behind its names. -/
def underlying : TypeRep → TypeRep
  | .named _ d => d.underlying
  | t => t

/-- The fields of a struct type, named or not. -/
def fields? (t : TypeRep) : Option (List (Member TypeRep)) :=
  match t.underlying with
  | .struct fields => some fields
  | _ => none

/-! ### Spelling -/

end TypeRep

def Primitive.name : Primitive → Text
  | .bool => "bool"
  | .int => "int"
  | .int8 => "int8"
  | .int16 => "int16"
  | .int32 => "int32"
  | .int64 => "int64"
  | .uint => "uint"
  | .uint8 => "uint8"
  | .uint16 => "uint16"
  | .uint32 => "uint32"
  | .uint64 => "uint64"
  | .uintptr => "uintptr"
  | .float32 => "float32"
  | .float64 => "float64"
  | .complex64 => "complex64"
  | .complex128 => "complex128"
  | .string => "string"
  | .emptyInterface => "interface \x7b\x7d"
  | .unsafePointer => "unsafe.Pointer"

def Primitive.all : List Primitive :=
  [.bool, .int, .int8, .int16, .int32, .int64, .uint, .uint8, .uint16, .uint32, .uint64, .uintptr,
    .float32, .float64, .complex64, .complex128, .string, .emptyInterface, .unsafePointer]

/-- The primitive type with a spelling. -/
def Primitive.ofName? (name : Text) : Option Primitive :=
  all.find? fun p => p.name = name

/-- `package.Name`, or the bare name outside packages. -/
def TypeName.short (n : TypeName) : Text :=
  if n.package.isEmpty then n.name else n.package ++ "." ++ n.name

/-- `import/path.Name`. -/
def TypeName.qualified (n : TypeName) : Text :=
  n.path ++ "." ++ n.name

namespace TypeRep

def channelText (d : Direction) (element : Text) : Text :=
  match d with
  | .send => "chan<- " ++ element
  | .receive => "<-chan " ++ element
  | .both => if element.head? == some 0x3C then "chan (" ++ element ++ ")" else "chan " ++ element

/-- The result part of a function type. -/
def resultsText : List Text → Text
  | [] => []
  | [t] => " " ++ t
  | ts => " (" ++ Text.join ", " ts ++ ")"

mutual

/-- The spelling of a type. -/
def text : TypeRep → Text
  | .primitive p => p.name
  | .named n _ => n.short
  | .pointer e => "*" ++ e.text
  | .slice e => "[]" ++ e.text
  | .array n e => "[" ++ Text.ofNat n ++ "]" ++ e.text
  | .map k v => "map[" ++ k.text ++ "]" ++ v.text
  | .channel d e => channelText d e.text
  | .function inputs outputs variadic =>
    "func(" ++ Text.join ", " (inputTexts variadic inputs) ++ ")" ++ resultsText (texts outputs)
  | .struct [] => "struct \x7b\x7d"
  | .struct fields => "struct \x7b" ++ Text.join ";" (memberTexts fields) ++ " \x7d"

def texts : List TypeRep → List Text
  | [] => []
  | t :: rest => t.text :: texts rest

/-- Parameter types; the last one of a variadic function shows its element type. -/
def inputTexts (variadic : Bool) : List TypeRep → List Text
  | [] => []
  | [.slice e] => [if variadic then "..." ++ e.text else "[]" ++ e.text]
  | t :: rest => t.text :: inputTexts variadic rest

def memberTexts : List (Member TypeRep) → List Text
  | [] => []
  | ⟨name, t, tag⟩ :: rest =>
    (" " ++ name ++ " " ++ t.text ++ Text.when (!tag.isEmpty) (" " ++ Text.quote tag)) ::
      memberTexts rest

end

/-- The spelling of a type that may be absent. -/
def describe : Option TypeRep → Text
  | some t => t.text
  | none => "<nil>"

/-- The name of a type's outermost construction. -/
def kindName (t : TypeRep) : Text :=
  match t.underlying with
  | .primitive .emptyInterface => "interface"
  | .primitive p => p.name
  | .named .. => []
  | .pointer _ => "ptr"
  | .slice _ => "slice"
  | .array .. => "array"
  | .map .. => "map"
  | .channel .. => "chan"
  | .function .. => "func"
  | .struct _ => "struct"

/-- Integers of any width, and types defined as such. -/
def isInteger (t : TypeRep) : Bool :=
  match t.underlying with
  | .primitive p =>
    match p with
    | .int | .int8 | .int16 | .int32 | .int64 => true
    | .uint | .uint8 | .uint16 | .uint32 | .uint64 | .uintptr => true
    | _ => false
  | _ => false

/-- `import/path.Name`, or the spelling for types that are not declared in a package. -/
def qualifiedName : TypeRep → Text
  | .named n d => if n.path.isEmpty then (TypeRep.named n d).text else n.qualified
  | t => t.text

/-! ### Placement -/

end TypeRep

/-- The number of bytes a value takes and the alignment of its address. -/
structure Extent where
  size : Nat
  align : Nat
  deriving DecidableEq, Repr

/-- The first multiple of `align` from `n` on. -/
def roundUp (n align : Nat) : Nat :=
  (n + align - 1) / align * align

namespace Extent

/-- `n` values side by side. -/
def times (n : Nat) (e : Extent) : Extent :=
  ⟨n * e.size, e.align⟩

/-- Where members come to lie one after another from `start` on, each at the next multiple of its
alignment. -/
def offsetsFrom (start : Nat) : List Extent → List Nat
  | [] => []
  | e :: rest => roundUp start e.align :: offsetsFrom (roundUp start e.align + e.size) rest

/-- The end of the last member. -/
def endFrom (start : Nat) : List Extent → Nat
  | [] => start
  | e :: rest => endFrom (roundUp start e.align + e.size) rest

def maxAlign : List Extent → Nat
  | [] => 1
  | e :: rest => max e.align (maxAlign rest)

/-- The extent of members laid out in order. A last member without bytes gets one byte of its own,
unless there are no bytes at all, so that its address stays inside. -/
def record (members : List Extent) : Extent :=
  let stop := endFrom 0 members
  let stop :=
    match members.getLast? with
    | some last => if last.size = 0 ∧ 0 < stop then stop + 1 else stop
    | none => stop
  ⟨roundUp stop (maxAlign members), maxAlign members⟩

end Extent

def Primitive.extent : Primitive → Extent
  | .bool | .int8 | .uint8 => ⟨1, 1⟩
  | .int16 | .uint16 => ⟨2, 2⟩
  | .int32 | .uint32 | .float32 => ⟨4, 4⟩
  | .int | .int64 | .uint | .uint64 | .uintptr | .float64 | .unsafePointer => ⟨8, 8⟩
  | .complex64 => ⟨8, 4⟩
  | .complex128 => ⟨16, 8⟩
  | .string | .emptyInterface => ⟨16, 8⟩

namespace TypeRep

mutual

def extent : TypeRep → Extent
  | .primitive p => p.extent
  | .named _ d => d.extent
  | .pointer _ | .map .. | .channel .. | .function .. => ⟨8, 8⟩
  | .slice _ => ⟨24, 8⟩
  | .array n e => e.extent.times n
  | .struct fields => Extent.record (extents fields)

def extents : List (Member TypeRep) → List Extent
  | [] => []
  | ⟨_, t, _⟩ :: rest => t.extent :: extents rest

end

def size (t : TypeRep) : Nat :=
  t.extent.size

def align (t : TypeRep) : Nat :=
  t.extent.align

/-- The offsets of a list of fields in a struct that consists of them. -/
def offsets (fields : List (Member TypeRep)) : List Nat :=
  Extent.offsetsFrom 0 (extents fields)

/-- The fields of a struct type with their offsets. -/
def placedFields (fields : List (Member TypeRep)) : List (Member TypeRep × Nat) :=
  fields.zip (offsets fields)

/-! ### The absent type -/

/-- The import path of the descriptor package. -/
def libraryPath : Text := "github.com/wippyai/introspect"

def libraryType (name : Text) (definition : TypeRep) : TypeRep :=
  .named ⟨libraryPath, "introspect", name⟩ definition

/-- Stands for an absent type: the fields of a unit variant, the result of a function without one, the
integers of a sum type. -/
def noType : TypeRep :=
  libraryType "NoType" (.struct [])

def isNoType (t : Option TypeRep) : Bool :=
  t == some noType

end TypeRep

/-- A name that other packages may use: its first letter is upper-case. -/
def isExported (name : Text) : Bool :=
  match name.runes with
  | r :: _ => Text.isUpper r.code
  | [] => false

end TypeAtlas
