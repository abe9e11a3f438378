import TypeAtlas.Attribute
import TypeAtlas.Emit.Code
import TypeAtlas.Emit.Name

/-!
The items of a generated file. An item is written in lines, and what it declares, refers to and mentions is
what stands in them. The identifiers that it claims beforehand are listed apart, in the order in which they
are claimed.
-/

namespace TypeAtlas.Emit

open Source

/-- How the members of a descriptor are called. -/
structure MemberKind where
  count : Text
  array : Text
  list : Text
  info : Text

namespace MemberKind

def fields : MemberKind := ⟨"FieldCount", "Fields", "FieldList", "FieldInfo"⟩
def variants : MemberKind := ⟨"VariantCount", "Variants", "VariantList", "VariantInfo"⟩
def parameters : MemberKind := ⟨"ParameterCount", "Parameters", "ParameterList", "ParameterInfo"⟩

/-- The constant that counts the members of a descriptor. -/
def countName (k : MemberKind) (descriptor : Text) : Text :=
  lowerFirst descriptor ++ k.count

/-- The array of the members. -/
def arrayName (k : MemberKind) (descriptor : Text) : Text :=
  lowerFirst descriptor ++ k.array

/-- The type that lists the members. -/
def listName (k : MemberKind) (descriptor : Text) : Text :=
  lowerFirst descriptor ++ k.list

end MemberKind

/-- The name of a descriptor's attribute table. -/
def tableName (descriptor : Text) : Text :=
  lowerFirst descriptor ++ "Attributes"

/-- The name of the struct that holds the results of a function. -/
def resultsName (descriptor : Text) : Text :=
  lowerFirst descriptor ++ "Results"

/-- The package that descriptors are written against. -/
def library : PackageRef := ⟨TypeRep.libraryPath, "introspect"⟩

/-- The package that registers descriptors. -/
def registry : PackageRef := ⟨"github.com/wippyai/introspect/registry", "registry"⟩

def reflection : PackageRef := Spelling.standardPackage "reflect"

inductive Item where
  /-- A descriptor type. `needs` is code spelled on the way to it. -/
  | descriptor (name subject : Text) (needs : Code)
  /-- The index constants, the array, the count checks and the list type of a descriptor's members. -/
  | members (descriptor : Text) (kind : MemberKind) (names : List Text)
  /-- A table of attributes. -/
  | attributes (descriptor : Text) (attrs : List Attribute)
  /-- A struct with a field for each result of a function. -/
  | results (descriptor subject : Text) (types : List SourceType)
  | method (receiver : Text) (signature : Code) (body : List Code)
  /-- Registers descriptors, and enums with the types they describe. -/
  | init (descriptors : List Text) (enums : List (Text × Text))

namespace Item

/-- The identifiers that are claimed for an item, in order. -/
def claims : Item → List Text
  | .descriptor name _ _ => [name]
  | .members d kind names =>
    [kind.countName d, kind.arrayName d, kind.listName d] ++ names.map indexName
  | .attributes d _ => [tableName d]
  | .results d _ _ => [resultsName d]
  | .method .. | .init .. => []

/-! ### Lines -/

/-- The index constants count up from zero and end in the number of members. -/
def indexConstants (count : Text) (names : List Text) : List Line :=
  match names with
  | [] => [[.declared count]]
  | first :: rest =>
    [.declared (indexName first), .code " = iota"] ::
      rest.map (fun name => [.declared (indexName name)]) ++ [[.declared count]]

/-- The array has each member at its index. -/
def arrayEntry (name : Text) : Code :=
  [.generated (indexName name), .text ": ", .generated name, .text "\x7b\x7d,"]

/-- The difference of two numbers, which does not compile if it is negative. -/
def difference (first second : Code) : Code :=
  ("_ = uint(" : Code) ++ first ++ (" - " : Code) ++ second ++ (")" : Code)

def attributeEntry (a : Attribute) : Text :=
  "\x7bName: " ++ Text.quote a.name ++
    Text.when a.hasValue (", Value: " ++ Text.quote a.value ++ ", HasValue: true") ++ "\x7d,"

/-- The call that registers descriptors, if there are any. -/
def registration (descriptors : List Text) : List Line :=
  if descriptors.isEmpty then []
  else
    let values := descriptors.map fun d => [.generated d, .text "\x7b\x7d"]
    [[.code (("r.MustRegister(" : Code) ++ separated values ++ (")" : Code))]]

/-- The call that registers an enum with the type it describes. -/
def enumRegistration (type descriptor : Text) : Code :=
  [.imported registry "MustRegisterEnum", .text "[", .source type, .text "](r, ",
    .generated descriptor, .text "\x7b\x7d)"]

def methodHeader (receiver : Text) (signature : Code) : Code :=
  [.text "func (", .generated receiver, .text ") "] ++ signature

/-- How an item is written if its methods have a line for each statement. -/
def lines : Item → List Line
  | .descriptor name subject _ => [
      [.code [.text ("// " ++ name ++ " describes " ++ subject ++ ".")]],
      [.code "type ", .declared name,
        .code [.text " struct\x7b ", .imported library "Defaults", .text " \x7d"]]]
  | .members d kind names =>
    let count : Code := [.generated (kind.countName d)]
    let length : Code := [.text "len(", .generated (kind.arrayName d), .text ")"]
    block "const (" (indexConstants (kind.countName d) names) ")" ++
    block [.code "var ", .declared (kind.arrayName d),
        .code [.text " = [...]", .imported library kind.info, .text "\x7b"]]
      (names.map fun name => [.code (arrayEntry name)]) "\x7d" ++
    block "const (" [difference length count, difference count length] ")" ++
    block [.code "type ", .declared (kind.listName d), .code " struct \x7b"]
      (names.map fun name => [.code [.generated name]]) "\x7d"
  | .attributes d attrs =>
    block [.code "var ", .declared (tableName d),
        .code [.text " = []", .imported library "Attribute", .text "\x7b"]]
      (attrs.map fun a => [.code [.text (attributeEntry a)]]) "\x7d"
  | .results d subject types =>
    [.code [.text ("// " ++ resultsName d ++ " is the result tuple of " ++ subject ++ ".")]] ::
    block [.code "type ", .declared (resultsName d), .code " struct \x7b"]
      (types.zipIdx.map fun (t, i) => [.code [.text ("R" ++ Text.ofNat i ++ " "), .type t]]) "\x7d"
  | .method receiver signature body => spreadMethod (methodHeader receiver signature) body
  | .init descriptors enums =>
    block "func init() \x7b"
      ([.code [.text "r := ", .imported registry "Default", .text "()"]] ::
        registration descriptors ++
        enums.map fun (type, d) => [.code (enumRegistration type d)]) "\x7d"

/-- How an item is written in a formatted file: its methods stay on one line where they fit. -/
def written (s : Spelling) : Item → List Line
  | .method receiver signature body =>
    methodLines s (methodHeader receiver signature) body
  | item => item.lines

/-! ### What stands in the lines -/

/-- The identifiers an item declares. -/
def declares (item : Item) : List Text :=
  item.lines.flatMap Line.declares

/-- The code of an item, less the identifiers it declares. -/
def code (item : Item) : Code :=
  item.lines.flatMap Line.code

/-- The identifiers an item refers to among those of the generated file. -/
def refers (item : Item) : List Text :=
  generatedNames item.code

/-- Code that is spelled before an item is written. -/
def needs : Item → Code
  | .descriptor _ _ needs => needs
  | .members .. | .attributes .. | .results .. | .method .. | .init .. => []

/-- The code in which an item mentions packages, in order. -/
def mentions (item : Item) : Code :=
  item.needs ++ item.code

/-- The types an item spells. -/
def types (item : Item) : List SourceType :=
  item.mentions.filterMap fun
    | .type t => some t
    | _ => none

end Item

end TypeAtlas.Emit
