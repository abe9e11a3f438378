import TypeAtlas.Descriptor

/-!
Erased descriptors: owned copies that no longer depend on who wrote them. An erased descriptor keeps no
count of its own and answers with the number of members it holds; that of an enumeration or a function
has the kind that goes with it. A descriptor is what an author wrote, or an erased one, or a bare name
and kind without members.
-/

namespace TypeAtlas

structure ErasedStruct where
  kind : Kind
  name : Text
  attrs : List Attribute
  type : Option TypeRep
  fields : List FieldInfo
  listType : Option TypeRep
  deriving DecidableEq, Repr

structure ErasedVariant where
  index : Int
  name : Text
  attrs : List Attribute
  owner : Option TypeRep
  type : Option TypeRep
  fields : List FieldInfo
  listType : Option TypeRep
  raw : Option UInt64
  discriminant : Option Discriminant
  deriving DecidableEq, Repr

structure ErasedEnum where
  name : Text
  attrs : List Attribute
  type : Option TypeRep
  integer : Option TypeRep
  variants : List ErasedVariant
  listType : Option TypeRep
  deriving DecidableEq, Repr

structure ErasedFunction where
  name : Text
  attrs : List Attribute
  type : Option TypeRep
  parameters : List ParameterInfo
  listType : Option TypeRep
  result : Option TypeRep
  deriving DecidableEq, Repr

/-! ### Erasing -/

def StructInfo.erase (s : StructInfo) : ErasedStruct where
  kind := s.kind
  name := s.name
  attrs := s.attrs
  type := s.type
  fields := s.fields
  listType := s.listType

/-- The copy of a variant, with its discriminant if `keep` holds. -/
def VariantInfo.erase (keep : Bool) (v : VariantInfo) : ErasedVariant where
  index := v.index
  name := v.name
  attrs := v.attrs
  owner := v.owner
  type := v.type
  fields := v.fields
  listType := v.listType
  raw := v.raw
  discriminant := if keep then v.discriminant else none

def EnumInfo.eraseKeeping (keep : Bool) (e : EnumInfo) : ErasedEnum where
  name := e.name
  attrs := e.attrs
  type := e.type
  integer := e.integer
  variants := e.variants.map (VariantInfo.erase keep)
  listType := e.listType

/-- The copy of an enumeration whose type is not known, without discriminants. -/
def EnumInfo.erase (e : EnumInfo) : ErasedEnum :=
  e.eraseKeeping false

/-- The copy of an enumeration of a known type keeps the discriminants. -/
def EnumInfo.eraseTyped (e : EnumInfo) : ErasedEnum :=
  e.eraseKeeping true

def FunctionInfo.erase (f : FunctionInfo) : ErasedFunction where
  name := f.name
  attrs := f.attrs
  type := f.type
  parameters := f.parameters
  listType := f.listType
  result := f.result

/-! ### Reading erased descriptors -/

namespace ErasedStruct

/-- The type that lists erased fields. -/
def fieldsType : TypeRep :=
  .slice (.pointer (TypeRep.libraryType "AnyField" (.struct [])))

/-- An erased struct from its parts. Without a descriptor there is no type listing the fields, so the
list of erased fields stands in. -/
def ofFields (type : Option TypeRep) (kind : Kind) (name : Text) (attrs : List Attribute)
    (fields : List FieldInfo) : ErasedStruct where
  kind := kind
  name := name
  attrs := attrs
  type := type
  fields := fields
  listType := some (if fields.isEmpty then TypeRep.noType else fieldsType)

/-- What the erased descriptor answers. -/
def info (m : ErasedStruct) : StructInfo where
  kind := m.kind
  name := m.name
  attrs := m.attrs
  type := m.type
  count := m.fields.length
  fields := m.fields
  listType := m.listType

def field? (m : ErasedStruct) (name : Text) : Option FieldInfo :=
  m.fields.find? (·.name == name)

end ErasedStruct

def ErasedVariant.info (m : ErasedVariant) : VariantInfo where
  index := m.index
  name := m.name
  attrs := m.attrs
  owner := m.owner
  type := m.type
  count := m.fields.length
  fields := m.fields
  listType := m.listType
  raw := m.raw
  discriminant := m.discriminant

namespace ErasedEnum

def info (m : ErasedEnum) : EnumInfo where
  kind := .enum
  name := m.name
  attrs := m.attrs
  type := m.type
  integer := m.integer
  count := m.variants.length
  variants := m.variants.map ErasedVariant.info
  listType := m.listType

def variant? (m : ErasedEnum) (name : Text) : Option ErasedVariant :=
  m.variants.find? (·.name == name)

/-- The first variant with the given integer value. -/
def variantByValue? (m : ErasedEnum) (raw : UInt64) : Option ErasedVariant :=
  m.variants.find? (·.raw == some raw)

end ErasedEnum

def ErasedFunction.info (m : ErasedFunction) : FunctionInfo where
  kind := .function
  name := m.name
  attrs := m.attrs
  type := m.type
  count := m.parameters.length
  parameters := m.parameters
  listType := m.listType
  result := m.result

/-! ### Descriptors of every sort -/

inductive Descriptor where
  | struct (s : StructInfo)
  | erasedStruct (m : ErasedStruct)
  | enum (e : EnumInfo)
  | erasedEnum (m : ErasedEnum)
  | function (f : FunctionInfo)
  | erasedFunction (m : ErasedFunction)
  | bare (kind : Kind) (name : Text) (attrs : List Attribute)
  deriving DecidableEq, Repr

namespace Descriptor

def kind : Descriptor → Kind
  | .struct s => s.kind
  | .erasedStruct m => m.kind
  | .enum e => e.kind
  | .erasedEnum _ => .enum
  | .function f => f.kind
  | .erasedFunction _ => .function
  | .bare k _ _ => k

def name : Descriptor → Text
  | .struct s => s.name
  | .erasedStruct m => m.name
  | .enum e => e.name
  | .erasedEnum m => m.name
  | .function f => f.name
  | .erasedFunction m => m.name
  | .bare _ n _ => n

def attrs : Descriptor → List Attribute
  | .struct s => s.attrs
  | .erasedStruct m => m.attrs
  | .enum e => e.attrs
  | .erasedEnum m => m.attrs
  | .function f => f.attrs
  | .erasedFunction m => m.attrs
  | .bare _ _ as => as

/-- The described type; bare descriptors have none to tell. -/
def type : Descriptor → Option TypeRep
  | .struct s => s.type
  | .erasedStruct m => m.type
  | .enum e => e.type
  | .erasedEnum m => m.type
  | .function f => f.type
  | .erasedFunction m => m.type
  | .bare .. => none

def struct? : Descriptor → Option StructInfo
  | .struct s => some s
  | .erasedStruct m => some m.info
  | _ => none

def enum? : Descriptor → Option EnumInfo
  | .enum e => some e
  | .erasedEnum m => some m.info
  | _ => none

def function? : Descriptor → Option FunctionInfo
  | .function f => some f
  | .erasedFunction m => some m.info
  | _ => none

/-- What is erased stays as it is; a bare descriptor cannot be erased. -/
def erase? : Descriptor → Option Descriptor
  | .struct s => some (.erasedStruct s.erase)
  | .enum e => some (.erasedEnum e.erase)
  | .function f => some (.erasedFunction f.erase)
  | .bare .. => none
  | m => some m

end Descriptor

end TypeAtlas
