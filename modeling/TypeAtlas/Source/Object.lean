import TypeAtlas.Source.Comment
import TypeAtlas.Source.Syntax

/-!
The names that packages declare, what they stand for, and the methods on them. In a group of constants a
member may leave out its type and values; it then repeats those of the member before it, counted on. A
method belongs to the declared type that its receiver leads to through aliases.
-/

namespace TypeAtlas.Source

/-- A constant or variable as it is declared: its type, if one is written, its value, and the place of
its specification in the group. -/
structure Definition where
  type : Option TypeExpr
  value : Text
  ordinal : Nat

/-- What a package-level name can stand for. -/
inductive Object where
  | type (spec : TypeSpec)
  | constant (d : Definition)
  | variable (d : Definition)
  | function (params : List Text) (signature : TypeExpr)

/-- A name declared in a file, with the lines in front of it and those in front of the group in which
it is alone. -/
structure Entry where
  file : File
  name : Text
  own : List Text
  group : List Text
  object : Object

/-- The only member of a group without documentation of its own has that of the group. -/
def Entry.doc (e : Entry) : List Text :=
  let own := Comment.documentation e.own
  if own.isEmpty then Comment.documentation e.group else own

/-- Blank names declare nothing that could be referred to. -/
def Entry.isNamed (e : Entry) : Bool :=
  e.name != ("_" : Text)

/-- Functions of this name run when a package is loaded. A package may have several of them. -/
def startName : Text := "init"

def Entry.isStart (e : Entry) : Bool :=
  match e.object with
  | .function .. => e.name == startName
  | _ => false

/-- Whether the name of an entry means anything where it is written. -/
def Entry.isReferable (e : Entry) : Bool :=
  e.isNamed && !e.isStart

/-- The documentation of a group, for its only member. -/
def sharedDoc {α : Type} (doc : List Text) (specs : List α) : List Text :=
  if specs.length = 1 then doc else []

/-- Fills in the type and the values that members of a group of constants repeat; `last` is the member
that wrote them. -/
def repeated (last : ValueSpec) : List ValueSpec → List ValueSpec
  | [] => []
  | s :: rest =>
    if s.type.isSome || !s.values.isEmpty then s :: repeated s rest
    else { s with type := last.type, values := last.values } :: repeated last rest

/-- The members of a group as if each wrote its type and values. -/
def completed (constant : Bool) (specs : List ValueSpec) : List ValueSpec :=
  if constant then repeated ⟨[], [], none, []⟩ specs else specs

/-- The names one declaration introduces; methods introduce none. -/
def Declaration.entries (f : File) : Declaration → List Entry
  | .types doc specs => specs.map fun s => ⟨f, s.name, s.doc, sharedDoc doc specs, .type s⟩
  | .values constant doc specs =>
    (completed constant specs).zipIdx.flatMap fun (s, ordinal) =>
      s.names.zipIdx.map fun (n, i) =>
        let d : Definition := ⟨s.type, s.values.getD i [], ordinal⟩
        ⟨f, n, s.doc, sharedDoc doc specs, if constant then .constant d else .variable d⟩
  | .function doc name none params signature => [⟨f, name, doc, [], .function params signature⟩]
  | .function _ _ (some _) _ _ => []

def File.entries (f : File) : List Entry :=
  f.declarations.flatMap (·.entries f)

/-- A method on a declared type of the same package: the names that its receiver gives to the parameters
of the type, and the signature, in which they may occur. -/
structure MethodEntry where
  base : Text
  pointer : Bool
  file : File
  name : Text
  params : List Text
  signature : TypeExpr

/-- A package with all that its files declare, in the order of the files. -/
structure Catalog where
  ref : PackageRef
  entries : List Entry
  methods : List MethodEntry := []

/-- An alias with the package and the file that declare it. -/
structure Alias where
  package : Catalog
  file : File
  spec : TypeSpec

/-- The path and the name, which no other alias has. -/
def Alias.key (a : Alias) : Text × Text :=
  (a.package.ref.path, a.spec.name)

namespace Catalog

def entry? (c : Catalog) (name : Text) : Option Entry :=
  c.entries.find? fun e => e.isReferable && e.name == name

/-- The alias that an entry declares, if it declares one. -/
def alias? (c : Catalog) (e : Entry) : Option Alias :=
  match e.object with
  | .type s => if s.isAlias then some ⟨c, e.file, s⟩ else none
  | _ => none

def aliases (c : Catalog) : List Alias :=
  (c.entries.filter (·.isReferable)).filterMap c.alias?

def typeSpec? (c : Catalog) (name : Text) : Option (File × TypeSpec) :=
  match c.entry? name with
  | some ⟨f, _, _, _, .type s⟩ => some (f, s)
  | _ => none

/-- The declared type behind the name that a receiver gives, and whether the receiver is a pointer to
it. A name that is an alias is followed, for as many steps as there are names. -/
def base? (c : Catalog) : Nat → Bool → Text → Option (Text × Bool)
  | 0, _, _ => none
  | fuel + 1, pointer, name =>
    match c.typeSpec? name with
    | none => none
    | some (_, s) =>
      if !s.isAlias then some (name, pointer)
      else
        match s.definition with
        | .name n => c.base? fuel pointer n
        | .pointer (.name n) => if pointer then none else c.base? fuel true n
        | _ => none

/-- The method that a declaration in a file makes, if it makes one. A blank method is none. -/
def method? (c : Catalog) (f : File) : Declaration → Option MethodEntry
  | .function _ name (some r) _ signature =>
    if name == ("_" : Text) then none
    else
      (c.base? (c.entries.length + 1) r.pointer r.type).map fun (base, pointer) =>
        ⟨base, pointer, f, name, r.params, signature⟩
  | _ => none

end Catalog

/-- Looks up all that a package declares. -/
def Package.catalog (p : Package) : Catalog :=
  let c : Catalog := ⟨p.ref, p.files.flatMap File.entries, []⟩
  { c with methods := p.files.flatMap fun f => f.declarations.filterMap (c.method? f) }

end TypeAtlas.Source
