import TypeAtlas.Attribute
import TypeAtlas.Source.Type

/-!
The annotated declarations of a package, ready to be described: structs with their fields, sums with
the types that implement an interface, integer enums with their constants, and functions.
-/

namespace TypeAtlas

namespace Model

structure Field where
  name : Text
  type : SourceType
  attrs : List Attribute

structure Struct where
  name : Text
  attrs : List Attribute
  type : SourceType
  fields : List Field

/-- A type that implements the interface of a sum, itself or, with `pointer`, only behind a pointer. -/
structure Case where
  name : Text
  attrs : List Attribute
  type : SourceType
  pointer : Bool
  fields : List Field

structure Sum where
  name : Text
  attrs : List Attribute
  type : SourceType
  cases : List Case

/-- A constant of an integer enum. -/
structure Constant where
  name : Text
  attrs : List Attribute
  value : Int

structure Enumeration where
  name : Text
  attrs : List Attribute
  type : SourceType
  integer : Source.Basic
  constants : List Constant

/-- A parameter, without a name when it is blank or has none. -/
structure Parameter where
  name : Text
  type : SourceType

structure Function where
  name : Text
  attrs : List Attribute
  params : List Parameter
  results : List SourceType
  /-- The full signature, with the names of parameters and results. -/
  signature : SourceType

inductive Declared where
  | struct (s : Struct)
  | sum (s : Sum)
  | enumeration (e : Enumeration)
  | function (f : Function)

def Declared.name : Declared → Text
  | .struct s => s.name
  | .sum s => s.name
  | .enumeration e => e.name
  | .function f => f.name

end Model

/-- What the annotations of a package ask for. `taken` holds the names that its own files declare. -/
structure Model where
  package : Source.PackageRef
  taken : List Text
  declarations : List Model.Declared

namespace Model

/-- The declaration with a given name. -/
def lookup? (m : Model) (name : Text) : Option Declared :=
  m.declarations.find? (·.name == name)

end Model

end TypeAtlas
