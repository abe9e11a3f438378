import TypeAtlas.Attribute
import TypeAtlas.Kind
import TypeAtlas.TypeRep

/-!
Descriptors: what is said about a struct, an enumeration or a function. A descriptor answers whatever
its author wrote, so counts, indices and owners are data here and may disagree with the members; which
descriptors keep their promises is the business of the contract.
-/

namespace TypeAtlas

/-- One field of a struct or of a variant. The offset is the distance from the start of the owner. -/
structure FieldInfo where
  index : Int
  name : Text
  offset : UInt64
  attrs : List Attribute
  owner : Option TypeRep
  type : Option TypeRep
  deriving DecidableEq, Repr

/-- A struct, union or tuple. `listType` lists the descriptors of the fields as a type of its own. -/
structure StructInfo where
  kind : Kind
  name : Text
  attrs : List Attribute
  type : Option TypeRep
  count : Int
  fields : List FieldInfo
  listType : Option TypeRep
  deriving DecidableEq, Repr

/-- The key that tells the variants of one enumeration apart. -/
structure Discriminant where
  key : UInt64
  deriving DecidableEq, Repr

def Discriminant.text (d : Discriminant) : Text :=
  "Discriminant(" ++ Text.ofNat d.key.toNat ++ ")"

/-- One variant of an enumeration. `raw` is its integer value as a word; sum types have none. -/
structure VariantInfo where
  index : Int
  name : Text
  attrs : List Attribute
  owner : Option TypeRep
  type : Option TypeRep
  count : Int
  fields : List FieldInfo
  listType : Option TypeRep
  raw : Option UInt64
  discriminant : Option Discriminant
  deriving DecidableEq, Repr

/-- An enumeration over integers, or a sum type when `integer` is the absent type. -/
structure EnumInfo where
  kind : Kind
  name : Text
  attrs : List Attribute
  type : Option TypeRep
  integer : Option TypeRep
  count : Int
  variants : List VariantInfo
  listType : Option TypeRep
  deriving DecidableEq, Repr

structure ParameterInfo where
  index : Int
  name : Text
  attrs : List Attribute
  owner : Text
  type : Option TypeRep
  deriving DecidableEq, Repr

structure FunctionInfo where
  kind : Kind
  name : Text
  attrs : List Attribute
  type : Option TypeRep
  count : Int
  parameters : List ParameterInfo
  listType : Option TypeRep
  result : Option TypeRep
  deriving DecidableEq, Repr

/-- A member without a name is shown as a blank. -/
def displayName (name : Text) : Text :=
  if name.isEmpty then "_" else name

/-- The absent type describes itself as a struct without fields. -/
def StructInfo.noType : StructInfo where
  kind := .struct
  name := "introspect.NoType"
  attrs := []
  type := some TypeRep.noType
  count := 0
  fields := []
  listType := some TypeRep.noType

end TypeAtlas
