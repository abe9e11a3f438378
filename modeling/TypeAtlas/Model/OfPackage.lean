import TypeAtlas.Model
import TypeAtlas.Source.Constant
import TypeAtlas.Source.Directive
import TypeAtlas.Source.MethodSet
import TypeAtlas.Source.Position

/-!
Reading the annotations of a package. All files are scanned before anything is built, so what a
declaration is given does not depend on the order of files. Files that were generated here earlier are
not looked at: describing a package again gives the same result.
-/

namespace TypeAtlas

namespace Source

/-- The first line of generated files. -/
def generatedHeader : Text := "// Code generated by introspectgen. DO NOT EDIT."

def File.isGenerated (f : File) : Bool :=
  (Comment.all f.lines).contains generatedHeader

/-- The names declared in files written by hand, in the order of the files. -/
def Package.ownEntries (p : Package) : List Entry :=
  (p.files.filter fun f => !f.isGenerated).flatMap File.entries

/-- The files that generated files are said to be. -/
def Package.generatedNames (p : Package) : List Text :=
  (p.files.filter File.isGenerated).map (·.clause.position.file)

/-- The order of positions; names at the same one are in their own order. -/
def placedLe (a b : Entry × Position) : Bool :=
  a.2.lt b.2 || (a.2 == b.2 && Text.le a.1.name b.1.name)

/-- The names of a package in the order of their positions. Names said to be in a generated file are
left out. -/
def Package.scopeEntries (p : Package) : List Entry :=
  let generated := p.generatedNames
  ((p.placed.filter fun (e, position) => e.isNamed && !generated.contains position.file).mergeSort
    placedLe).map (·.1)

end Source

namespace Model

open Source

/-- A package among the packages it can see, and its names in the order of their positions. -/
structure Reading where
  world : World
  package : Catalog
  entries : List Entry

namespace Reading

def path (r : Reading) : Text :=
  r.package.ref.path

def resolve (r : Reading) (f : File) (e : TypeExpr) (params : List Text) : SourceType :=
  e.resolve ⟨r.world, r.package, f, params⟩

def valueOf (r : Reading) (f : File) (d : Definition) : SourceType × Option Int :=
  Scope.value ⟨r.world, r.package, f, []⟩ d

/-- A variable without a type has that of its value. -/
def variableType (t : SourceType) : SourceType :=
  match t with
  | .basic .untypedInt => .basic (.plain .int)
  | t => t

/-- The spelling of what a name stands for. -/
def objectText (r : Reading) (e : Entry) : Text :=
  match e.object with
  | .type s => r.path ++ "." ++ s.name ++ paramsText s.params
  | .constant d => (r.valueOf e.file d).1.fullText
  | .variable d => (variableType (r.valueOf e.file d).1).fullText
  | .function params signature =>
    "func" ++ paramsText params ++ (r.resolve e.file signature params).fullText.drop 4

def unsupported (r : Reading) (e : Entry) (detail : Text) : Fault :=
  Fault.of {
    detail
    phase := .generate
    kind := .unsupported
    path := [r.path, e.name]
    goType := r.objectText e }

/-- The fields of a struct type; blank ones cannot be described. -/
def fields (r : Reading) (owner : Text) (components : List (Component SourceType)) :
    Except Fault (List Field) :=
  (components.filter fun c => c.name != ("_" : Text)).mapM fun c =>
    match Attribute.ofTag c.tag with
    | .ok attrs => .ok ⟨c.name, c.type, attrs⟩
    | .error cause =>
      .error (.mk {
          phase := .parse
          kind := .invalidAttribute
          path := [r.path, owner, c.name] }
        (some (.fault cause)))

end Reading

/-- A declaration with the directives found on it. -/
structure Annotation where
  entry : Entry
  directives : Directives

/-- The directives of every name, or the first that cannot be read. -/
def scan (p : Package) : Except Fault (List Annotation) :=
  (p.ownEntries.filter (·.isNamed)).mapM fun e =>
    (Directives.parse [p.ref.path, e.name] e.doc).map (⟨e, ·⟩)

namespace Reading

/-- The attributes that the annotations give a name. -/
def attrsOf (annotations : List Annotation) (name : Text) : List Attribute :=
  ((annotations.find? (·.entry.name == name)).map (·.directives.attrs)).getD []

/-- The declared type of an entry. -/
def typeOf (r : Reading) (e : Entry) : SourceType :=
  .defined (some r.package.ref) e.name []

def struct (r : Reading) (a : Annotation) : Except Fault Struct :=
  let e := a.entry
  match e.object with
  | .type spec =>
    if spec.isAlias then .error (r.unsupported e "reflect applies to defined struct types")
    else if !spec.params.isEmpty then .error (r.unsupported e "generic types cannot be described")
    else
      match r.world.underlying (r.typeOf e) with
      | .struct _ components =>
        (r.fields e.name components).map fun fields => ⟨e.name, a.directives.attrs, r.typeOf e, fields⟩
      | t => .error (r.unsupported e ("reflect applies to struct types, not " ++ t.fullText))
  | _ => .error (r.unsupported e "reflect applies to struct types")

/-- A type of the package as a case of a sum, if it implements the interface. -/
def case? (r : Reading) (annotations : List Annotation) (sum : Text) (interface : SourceType)
    (e : Entry) : Except Fault (Option Case) :=
  match e.object with
  | .type spec =>
    let t := r.typeOf e
    if spec.isAlias || e.name == sum || !spec.params.isEmpty || r.world.isInterface t then .ok none
    else
      let direct := r.world.implements t interface
      if !direct && !r.world.implements (.pointer t) interface then .ok none
      else
        let attrs := attrsOf annotations e.name
        match r.world.underlying t with
        | .struct _ components =>
          (r.fields e.name components).map fun fields => some ⟨e.name, attrs, t, !direct, fields⟩
        | _ => .ok (some ⟨e.name, attrs, t, !direct, []⟩)
  | _ => .ok none

/-- The implementations of an interface in the package, in the order of declaration. -/
def cases (r : Reading) (annotations : List Annotation) (sum : Text) (interface : SourceType) :
    Except Fault (List Case) :=
  (r.entries.mapM (r.case? annotations sum interface)).map fun found =>
    found.filterMap id

/-- A constant of the package as a variant of an enum, if it is of that type. One that may be and whose value
is not read is refused: no value is made up for it. -/
def constant? (r : Reading) (annotations : List Annotation) (enum : SourceType) (e : Entry) :
    Except Fault (Option Constant) :=
  match e.object with
  | .constant d =>
    match r.valueOf e.file d with
    | (t, some n) =>
      .ok (if r.world.identical t enum then some ⟨e.name, attrsOf annotations e.name, n⟩ else none)
    | (t, none) =>
      if d.type.isSome && !r.world.identical t enum then .ok none
      else .error (r.unsupported e "the value of a variant is read from an integer or the name of a constant")
  | _ => .ok none

/-- The constants of a type in the package, in the order of declaration. -/
def constants (r : Reading) (annotations : List Annotation) (enum : SourceType) :
    Except Fault (List Constant) :=
  (r.entries.mapM (r.constant? annotations enum)).map fun found => found.filterMap id

def enum (r : Reading) (annotations : List Annotation) (a : Annotation) : Except Fault Declared :=
  let e := a.entry
  let attrs := a.directives.attrs
  let refused (t : SourceType) : Except Fault Declared :=
    .error (r.unsupported e ("enum needs an integer or interface type, not " ++ t.fullText))
  match e.object with
  | .type spec =>
    if spec.isAlias then .error (r.unsupported e "enum applies to defined types")
    else if !spec.params.isEmpty then .error (r.unsupported e "generic types cannot be described")
    else
      let t := r.typeOf e
      match r.world.underlying t with
      | .basic b =>
        if b.isInteger then
          (r.constants annotations t).map fun constants => .enumeration ⟨e.name, attrs, t, b, constants⟩
        else refused (.basic b)
      | .any => (r.cases annotations e.name .any).map fun cases => .sum ⟨e.name, attrs, t, cases⟩
      | .interface home methods embedded =>
        (r.cases annotations e.name (.interface home methods embedded)).map fun cases =>
          .sum ⟨e.name, attrs, t, cases⟩
      | u => refused u
  | _ => .error (r.unsupported e "enum applies to defined types")

/-- Blank parameters have no name to describe them by. -/
def parameter (b : Binding SourceType) : Parameter :=
  ⟨if b.name == ("_" : Text) then [] else b.name, b.type⟩

def function (r : Reading) (a : Annotation) : Except Fault Function :=
  let e := a.entry
  match e.object with
  | .function params signature =>
    if !params.isEmpty then .error (r.unsupported e "generic functions cannot be described")
    else
      let t := r.resolve e.file signature []
      match t with
      | .function inputs outputs _ =>
        .ok ⟨e.name, a.directives.attrs, inputs.map parameter, outputs.map (·.type), t⟩
      | _ => .error (r.unsupported e "func applies to functions")
  | _ => .error (r.unsupported e "func applies to functions")

/-- Builds one marked declaration. -/
def declared (r : Reading) (annotations : List Annotation) (a : Annotation) : Except Fault Declared :=
  if a.directives.reflect then (r.struct a).map .struct
  else if a.directives.enum then r.enum annotations a
  else (r.function a).map .function

end Reading

/-- The names that the files of a package declare, sorted. -/
def takenNames (p : Package) : List Text :=
  ((p.ownEntries.map (·.name)).mergeSort Text.le).eraseReps

/-- The model of a package that can import the others, or the first fault: of all comments first, then
of the marked declarations in their order. -/
def ofPackage (others : List Package) (p : Package) : Except Fault Model := do
  let r : Reading := ⟨World.ofPackages (p :: others), p.catalog, p.scopeEntries⟩
  let annotations ← scan p
  let declarations ← (annotations.filter (·.directives.marks)).mapM (r.declared annotations)
  return ⟨p.ref, takenNames p, declarations⟩

end Model

end TypeAtlas
