import TypeAtlas.Emit.Item
import TypeAtlas.Model

/-!
Which items describe a declaration. In the package itself everything can be named, and unexported
members are described on request; another package sees and names exported things only. Indices count
the members that are described.
-/

namespace TypeAtlas.Emit

open Source Model

/-- The package described, and from where. -/
structure Viewpoint where
  package : PackageRef
  foreign : Bool
  hidden : Bool

namespace Viewpoint

/-- Whether something with the given name is described. -/
def sees (v : Viewpoint) (name : Text) : Bool :=
  isExported name || (!v.foreign && v.hidden)

/-- Whether a type can be spelled. -/
def canName (v : Viewpoint) (t : SourceType) : Bool :=
  !v.foreign || t.nameableOutside

/-- An identifier as comments show it. -/
def display (v : Viewpoint) (name : Text) : Text :=
  if v.foreign then v.package.name ++ "." ++ name else name

/-- The quoted name of a declaration with its import path. -/
def qualified (v : Viewpoint) (name : Text) : Code :=
  [.text (Text.quote (v.package.path ++ "." ++ name))]

def descriptorName (v : Viewpoint) (base : Text) (exported : Bool) : Text :=
  Emit.descriptorName v.foreign base exported

end Viewpoint

/-! ### Common parts -/

/-- An identifier of the descriptor package. -/
def described (name : Text) : Code :=
  [.imported library name]

def reflectType : Code :=
  [.imported reflection "Type"]

/-- The runtime type of what is spelled. -/
def typeFor (spelled : Code) : Code :=
  .imported reflection "TypeFor" :: .text "[" :: spelled ++ ("]()" : Code)

/-- A method of one statement that returns a value. -/
def accessor (descriptor : Text) (signature value : Code) : Item :=
  .method descriptor signature [("return " : Code) ++ value]

def quoted (t : Text) : Code :=
  [.text (Text.quote t)]

/-- The items of a list of members; there are none without members. -/
def memberItems (descriptor : Text) (kind : MemberKind) (names : List Text) : List Item :=
  if names.isEmpty then [] else [.members descriptor kind names]

/-- The methods that answer for a list of members. -/
def memberMethods (d : Text) (kind : MemberKind) (names : List Text) : List Item :=
  if names.isEmpty then []
  else [
    accessor d [.text (kind.count ++ "() int")] [.generated (kind.countName d)],
    accessor d (.text (kind.array ++ "() []") :: described kind.info)
      [.generated (kind.arrayName d), .text "[:]"],
    accessor d (.text (kind.array ++ "Type() ") :: reflectType)
      (typeFor [.generated (kind.listName d)])]

def attributeItems (d : Text) (attrs : List Attribute) : List Item :=
  if attrs.isEmpty then [] else [.attributes d attrs]

def attributeMethods (d : Text) (attrs : List Attribute) : List Item :=
  if attrs.isEmpty then []
  else [accessor d (("Attributes() []" : Code) ++ described "Attribute") [.generated (tableName d)]]

/-- The methods that say what a descriptor describes. -/
def headMethods (v : Viewpoint) (d kind name : Text) (attrs : List Attribute) (type : Code) :
    List Item :=
  [accessor d (("Kind() " : Code) ++ described "Kind") (described kind),
    accessor d "Name() string" (v.qualified name)] ++
  attributeMethods d attrs ++
  [accessor d (("Type() " : Code) ++ reflectType) (typeFor type)]

/-! ### Structs -/

/-- A field with the name of its descriptor. -/
structure NamedField where
  field : Field
  descriptor : Text

/-- The fields that are seen and can be named. -/
def Viewpoint.fields (v : Viewpoint) (fields : List Field) : List Field :=
  fields.filter fun f => v.sees f.name && v.canName f.type

def Viewpoint.namedFields (v : Viewpoint) (base : Text) (exported : Bool) (fields : List Field) :
    List NamedField :=
  (v.fields fields).map fun f =>
    ⟨f, v.descriptorName (memberBase base f.name) (exported && isExported f.name)⟩

/-- The descriptor of a field; `owner` spells the type it belongs to. -/
def fieldItems (v : Viewpoint) (ownerName : Text) (owner : Code) (f : NamedField) : List Item :=
  let d := f.descriptor
  let type : Code := [.type f.field.type]
  [.descriptor d (v.display ownerName ++ "." ++ f.field.name) type] ++
  attributeItems d f.field.attrs ++
  [accessor d "DeclarationIndex() int" [.generated (indexName d)],
    accessor d "Name() string" (quoted f.field.name),
    accessor d "ByteOffset() uintptr"
      (.imported (Spelling.standardPackage "unsafe") "Offsetof" :: ("(" : Code) ++ owner ++
        [.text ("\x7b\x7d." ++ f.field.name ++ ")")])] ++
  attributeMethods d f.field.attrs ++
  [accessor d (("OwnerType() " : Code) ++ reflectType) (typeFor owner),
    accessor d (("Type() " : Code) ++ reflectType) (typeFor type),
    accessor d (("Of(o *" : Code) ++ owner ++ (") *" : Code) ++ type) [.text ("&o." ++ f.field.name)]]

def structDescriptor (v : Viewpoint) (s : Struct) : Text :=
  v.descriptorName s.name (isExported s.name)

def structItems (v : Viewpoint) (s : Struct) : List Item :=
  let d := structDescriptor v s
  let fields := v.namedFields s.name (isExported s.name) s.fields
  let names := fields.map (·.descriptor)
  let owner : Code := [.source s.name]
  [.descriptor d (v.display s.name) owner] ++ memberItems d .fields names ++
  attributeItems d s.attrs ++ headMethods v d "KindStruct" s.name s.attrs owner ++
  memberMethods d .fields names ++ [accessor d (("Owner() *" : Code) ++ owner) "nil"] ++
  fields.flatMap (fieldItems v s.name owner)

/-! ### Enums -/

/-- The type of the discriminants of an enum. -/
def discriminant (enum : Text) : Code :=
  described "Discriminant" ++ [.text "[", .source enum, .text "]"]

/-- A discriminant made from a key. -/
def newDiscriminant (enum : Text) (key : Code) : Code :=
  described "NewDiscriminant" ++ [.text "[", .source enum, .text "]("] ++ key ++ (")" : Code)

/-- The methods of an enum; `cases` are the statements that find the discriminant of a variant. -/
def enumItems (v : Viewpoint) (d name : Text) (attrs : List Attribute) (integer : List Item)
    (variants : List Text) (cases : List Code) : List Item :=
  [.descriptor d (v.display name) (.source name :: discriminant name)] ++
  memberItems d .variants variants ++ attributeItems d attrs ++
  headMethods v d "KindEnum" name attrs [.source name] ++ integer ++
  memberMethods d .variants variants ++
  [.method d
    (("DiscriminantOf(v " : Code) ++ .source name :: (") (" : Code) ++ discriminant name ++
      (", bool)" : Code))
    (cases ++ [("return " : Code) ++ discriminant name ++ [.text "\x7b\x7d, false"]])]

/-- The first constant of every value, in order. -/
def firstOfEachValue (constants : List Constant) : List Constant :=
  constants.foldl (fun kept c => if kept.any (·.value == c.value) then kept else kept ++ [c]) []

/-- The constants that are described. -/
def Viewpoint.constants (v : Viewpoint) (e : Enumeration) : List Constant :=
  firstOfEachValue (e.constants.filter fun c => v.sees c.name)

def Viewpoint.variantName (v : Viewpoint) (enum variant : Text) : Text :=
  v.descriptorName (variantBase enum variant) (isExported enum && isExported variant)

/-- The methods that every variant starts with. -/
def variantMethods (d enum name : Text) (attrs : List Attribute) : List Item :=
  [accessor d "DeclarationIndex() int" [.generated (indexName d)],
    accessor d "Name() string" (quoted name)] ++
  attributeMethods d attrs ++
  [accessor d (("OwnerType() " : Code) ++ reflectType) (typeFor [.source enum])]

def constantItems (v : Viewpoint) (e : Enumeration) (c : Constant) : List Item :=
  let d := v.variantName e.name c.name
  let value : Code := [.source c.name]
  let integer : Code := [.type (.basic e.integer)]
  [.descriptor d (v.display c.name) (.source e.name :: discriminant e.name)] ++
  attributeItems d c.attrs ++ variantMethods d e.name c.name c.attrs ++
  [accessor d (("Type() " : Code) ++ reflectType) (described "NoTypeOf" ++ ("()" : Code)),
    .method d "RawValue() (uint64, bool)"
      [("v := " : Code) ++ value, ("return uint64(v), true" : Code)],
    accessor d (("IntegerValue() (" : Code) ++ integer ++ (", bool)" : Code))
      (integer ++ ("(" : Code) ++ value ++ ("), true" : Code)),
    .method d (("Discriminant() " : Code) ++ discriminant e.name)
      [("v := " : Code) ++ value, ("return " : Code) ++ newDiscriminant e.name "uint64(v)"]]

def enumerationDescriptor (v : Viewpoint) (e : Enumeration) : Text :=
  v.descriptorName e.name (isExported e.name)

def enumerationItems (v : Viewpoint) (e : Enumeration) : List Item :=
  let d := enumerationDescriptor v e
  let constants := v.constants e
  let cases : List Code :=
    if constants.isEmpty then []
    else [
      [.text "switch v \x7b"],
      ("case " : Code) ++ separated (constants.map fun c => [.source c.name]) ++ (":" : Code),
      ("return " : Code) ++ newDiscriminant e.name "uint64(v)" ++ (", true" : Code),
      [.text "\x7d"]]
  let integer :=
    [accessor d (("IntegerType() " : Code) ++ reflectType) (typeFor [.type (.basic e.integer)])]
  enumItems v d e.name e.attrs integer (constants.map fun c => v.variantName e.name c.name) cases ++
  constants.flatMap (constantItems v e)

/-- The cases of a sum that are seen and can be named. -/
def Viewpoint.cases (v : Viewpoint) (s : Sum) : List Case :=
  s.cases.filter fun c => v.sees c.name && v.canName c.type

/-- A value of a case may be held directly or behind a pointer. -/
def caseTypes (c : Case) : Code :=
  if c.pointer then [.text "*", .type c.type] else [.type c.type, .text ", *", .type c.type]

def caseItems (v : Viewpoint) (s : Sum) (c : Case) : List Item :=
  let d := v.variantName s.name c.name
  let type : Code := [.type c.type]
  let exported := isExported s.name && isExported c.name
  let fields := v.namedFields (variantBase s.name c.name) exported c.fields
  let names := fields.map (·.descriptor)
  [.descriptor d (v.display c.name) (.source s.name :: discriminant s.name ++ type)] ++
  memberItems d .fields names ++ attributeItems d c.attrs ++
  variantMethods d s.name c.name c.attrs ++
  [accessor d (("Type() " : Code) ++ reflectType) (typeFor type)] ++
  memberMethods d .fields names ++
  [accessor d (("IntegerValue() (" : Code) ++ described "NoType" ++ (", bool)" : Code))
      (described "NoType" ++ [.text "\x7b\x7d, false"]),
    accessor d (("Discriminant() " : Code) ++ discriminant s.name)
      (newDiscriminant s.name [.generated (indexName d)])] ++
  fields.flatMap (fieldItems v c.name type)

def sumDescriptor (v : Viewpoint) (s : Sum) : Text :=
  v.descriptorName s.name (isExported s.name)

def sumItems (v : Viewpoint) (s : Sum) : List Item :=
  let cases := v.cases s
  let selection : List Code :=
    if cases.isEmpty then []
    else
      [[.text "switch v.(type) \x7b"]] ++
      (cases.flatMap fun c => [
        ("case " : Code) ++ caseTypes c ++ (":" : Code),
        ("return " : Code) ++
          newDiscriminant s.name [.generated (indexName (v.variantName s.name c.name))] ++
          (", true" : Code)]) ++
      [[.text "\x7d"]]
  enumItems v (sumDescriptor v s) s.name s.attrs [] (cases.map fun c => v.variantName s.name c.name)
    selection ++
  cases.flatMap (caseItems v s)

/-! ### Functions -/

/-- The type of a function without the names of its parameters and results. -/
def nameless : SourceType → SourceType
  | .function params results variadic =>
    .function (params.map fun b => ⟨[], b.type⟩) (results.map fun b => ⟨[], b.type⟩) variadic
  | t => t

/-- The types that a function's type is spelled from, one by one. -/
def spelledTypes (f : Function) : List SourceType :=
  match f.signature with
  | .function params results variadic =>
    let inputs := params.map (·.type)
    let inputs :=
      match inputs.getLast? with
      | some (.slice e) => if variadic then inputs.dropLast ++ [e] else inputs
      | _ => inputs
    inputs ++ results.map (·.type)
  | _ => []

/-- A function is described if the types of its parameters and results can be named. -/
def Viewpoint.describes (v : Viewpoint) (f : Function) : Bool :=
  f.params.all (fun p => v.canName p.type) && f.results.all v.canName

def functionDescriptor (v : Viewpoint) (f : Function) : Text :=
  v.descriptorName f.name (isExported f.name)

def Viewpoint.paramName (v : Viewpoint) (f : Function) (p : Parameter) (i : Nat) : Text :=
  v.descriptorName (paramBase f.name p.name i) (isExported f.name)

def paramItems (v : Viewpoint) (f : Function) (p : Parameter) (i : Nat) : List Item :=
  let d := v.paramName f p i
  let which := if p.name.isEmpty then Text.ofNat i else p.name
  [.descriptor d ("parameter " ++ which ++ " of " ++ v.display f.name) [],
    accessor d "ParameterIndex() int" [.generated (indexName d)],
    accessor d "Name() string" (quoted p.name),
    accessor d "OwnerName() string" (v.qualified f.name),
    accessor d (("Type() " : Code) ++ reflectType) (typeFor [.type p.type])]

/-- The struct of several results, and the method that answers for the results if there are any. -/
def resultItems (v : Viewpoint) (f : Function) (d : Text) : List Item × List Item :=
  let answer (c : Code) : List Item := [accessor d (("ReturnType() " : Code) ++ reflectType) (typeFor c)]
  match f.results with
  | [] => ([], [])
  | [t] => ([], answer [.type t])
  | types => ([.results d (v.display f.name) types], answer [.generated (resultsName d)])

def functionItems (v : Viewpoint) (f : Function) : List Item :=
  let d := functionDescriptor v f
  let type : Code := [.type (nameless f.signature)]
  let params := f.params.zipIdx
  let names := params.map fun (p, i) => v.paramName f p i
  let (tuple, answer) := resultItems v f d
  [.descriptor d (v.display f.name) ((spelledTypes f).map .type)] ++
  memberItems d .parameters names ++ tuple ++ attributeItems d f.attrs ++
  headMethods v d "KindFunction" f.name f.attrs type ++ memberMethods d .parameters names ++ answer ++
  [accessor d (("Func() " : Code) ++ type) [.source f.name]] ++
  params.flatMap fun (p, i) => paramItems v f p i

/-! ### Declarations -/

/-- The items that describe a declaration; a function that cannot be described has none. -/
def items (v : Viewpoint) : Declared → List Item
  | .struct s => structItems v s
  | .sum s => sumItems v s
  | .enumeration e => enumerationItems v e
  | .function f => if v.describes f then functionItems v f else []

/-- The descriptor to register for a struct or function. -/
def registered (v : Viewpoint) : Declared → Option Text
  | .struct s => some (structDescriptor v s)
  | .function f => if v.describes f then some (functionDescriptor v f) else none
  | _ => none

/-- The type and descriptor to register for an enum. -/
def registeredEnum (v : Viewpoint) : Declared → Option (Text × Text)
  | .sum s => some (s.name, sumDescriptor v s)
  | .enumeration e => some (e.name, enumerationDescriptor v e)
  | _ => none

/-- Registration of everything described, if there is anything. -/
def initItems (v : Viewpoint) (declarations : List Declared) : List Item :=
  let descriptors := declarations.filterMap (registered v)
  let enums := declarations.filterMap (registeredEnum v)
  if descriptors.isEmpty && enums.isEmpty then [] else [.init descriptors enums]

end TypeAtlas.Emit
