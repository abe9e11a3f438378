import TypeAtlas.Source.Object
import TypeAtlas.Source.Path

/-!
What names mean. A type's name is looked up among the type parameters of its declaration. After that,
a name with a qualifier belongs to an import of its file; one without belongs to the packages that its
file opens, then to its own package, and last it may need no declaration.
-/

namespace TypeAtlas.Source

/-- The size of what a declaration writes down. -/
def Declaration.extent : Declaration → Nat
  | .types _ specs => specs.foldr (fun s n => s.definition.text.length + 1 + n) 0
  | .values _ _ specs => specs.foldr (fun s n => (s.type.map fun t => t.text.length + 1).getD 1 + n) 0
  | .function _ _ _ _ signature => signature.text.length + 1

def Package.extent (p : Package) : Nat :=
  p.files.foldr (fun f n => f.declarations.foldr (fun d k => d.extent + k) n) 0

/-- The packages in sight, and the types their aliases stand for. The `extent` of what they write down
is more than the number of types in it. -/
structure World where
  packages : List Catalog
  extent : Nat
  aliases : List ((Text × Text) × SourceType) := []

namespace World

def package? (w : World) (path : Text) : Option Catalog :=
  w.packages.find? fun p => p.ref.path == path

/-- The package at an import path. One that is not in sight has the name its path ends in. -/
def refAt (w : World) (path : Text) : PackageRef :=
  match w.package? path with
  | some p => p.ref
  | none => ⟨path, Path.last path⟩

/-- A declared type, or the alias together with what it stands for. -/
def declared (w : World) (ref : PackageRef) (s : TypeSpec) (args : List SourceType) : SourceType :=
  if s.isAlias then
    let target := (w.aliases.lookup (ref.path, s.name)).getD (.basic .invalid)
    .alias (some ref) s.name args
      (if s.params.isEmpty then target else target.subst (s.params.zip args))
  else .defined (some ref) s.name args

end World

/-- Where a type is written: the package, the file and the type parameters around it. -/
structure Scope where
  world : World
  package : Catalog
  file : File
  params : List Text := []

/-- The predeclared constraint of types that can be compared. -/
def comparableType : SourceType := .defined none "comparable" []

/-- Names that need no declaration. -/
def predeclared (name : Text) : SourceType :=
  let primitives : List Primitive :=
    [.bool, .int, .int8, .int16, .int32, .int64, .uint, .uint8, .uint16, .uint32, .uint64, .uintptr,
      .float32, .float64, .complex64, .complex128, .string]
  if name == ("any" : Text) then .any
  else if name == ("error" : Text) then .defined none "error" []
  else if name == ("comparable" : Text) then comparableType
  else if name == ("byte" : Text) then .basic .byte
  else if name == ("rune" : Text) then .basic .rune
  else
    match primitives.find? (·.name == name) with
    | some p => .basic (.plain p)
    | none => .basic .invalid

namespace Scope

/-- The import that a qualifier stands for in this file. -/
def import? (s : Scope) (qualifier : Text) : Option PackageRef :=
  (s.file.imports.map fun i =>
    let ref := s.world.refAt i.path
    (((i.name.filter (!·.isEmpty)).getD ref.name), ref)).lookup qualifier

/-- The packages whose names are used in this file as they are. -/
def opened (s : Scope) : List PackageRef :=
  (s.file.imports.filter (·.name == some ("." : Text))).map fun i => s.world.refAt i.path

/-- A name of a package in sight. -/
def member? (s : Scope) (ref : PackageRef) (name : Text) : Option (Catalog × Entry) := do
  let p ← s.world.package? ref.path
  return (p, ← p.entry? name)

/-- The declaration that a name refers to, with the package it belongs to. -/
def entry? (s : Scope) (name : Text) : Option (Catalog × Entry) :=
  match Text.cut 0x2E name with
  | (qualifier, some name) => s.import? qualifier >>= (s.member? · name)
  | (_, none) =>
    ((if isExported name then s.opened else []).findSome? (s.member? · name)).orElse fun _ =>
      (s.package.entry? name).map (s.package, ·)

/-- The names of the one type that no package in sight declares. -/
def isUnsafePointer (s : Scope) (name : Text) : Bool :=
  match Text.cut 0x2E name with
  | (qualifier, some member) =>
    member == ("Pointer" : Text) && s.import? qualifier == some unsafePackage
  | (_, none) => name == ("Pointer" : Text) && s.opened.contains unsafePackage

/-- The alias that a name refers to. A parameter of that name hides it. -/
def alias? (s : Scope) (name : Text) : Option Alias :=
  if s.params.contains name || s.isUnsafePointer name then none
  else s.entry? name >>= fun (p, e) => p.alias? e

/-- The meaning of a type's name with the arguments it is given. -/
def meaning (s : Scope) (name : Text) (args : List SourceType) : SourceType :=
  if s.params.contains name then .parameter name
  else if s.isUnsafePointer name then .basic (.plain .unsafePointer)
  else
    match s.entry? name with
    | some (p, ⟨_, _, _, _, .type spec⟩) => s.world.declared p.ref spec args
    | some _ => .basic .invalid
    | none => predeclared name

end Scope

/-- The name of an embedded field: that of its type without qualifier, pointer and arguments. -/
def TypeExpr.embeddedName : TypeExpr → Text
  | .name n | .instance n _ =>
    match Text.cut 0x2E n with
    | (_, some member) => member
    | (n, none) => n
  | .pointer e => e.embeddedName
  | _ => []

/-- Exported methods come first, each part in the order of names. -/
def methodLe (a b : Binding SourceType) : Bool :=
  if isExported a.name == isExported b.name then Text.le a.name b.name else isExported a.name

mutual

/-- The type that an expression denotes. -/
def TypeExpr.resolve (s : Scope) : TypeExpr → SourceType
  | .name n => s.meaning n []
  | .pointer e => .pointer (e.resolve s)
  | .slice e => .slice (e.resolve s)
  | .array n e => .array n (e.resolve s)
  | .map k v => .map (k.resolve s) (v.resolve s)
  | .channel d e => .channel d (e.resolve s)
  | .function params results variadic =>
    .function (resolveParams s variadic params) (resolveParams s false results) variadic
  | .struct fields => .struct s.package.ref.path (resolveFields s fields)
  | .interface methods embedded =>
    .interface s.package.ref.path ((resolveParams s false methods).mergeSort methodLe)
      (resolveAll s embedded)
  | .instance n args => s.meaning n (resolveAll s args)

def resolveAll (s : Scope) : List TypeExpr → List SourceType
  | [] => []
  | e :: rest => e.resolve s :: resolveAll s rest

/-- The last parameter of a variadic list is a slice of what is written. -/
def resolveParams (s : Scope) (variadic : Bool) :
    List (Binding TypeExpr) → List (Binding SourceType)
  | [] => []
  | [⟨n, e⟩] => [⟨n, if variadic then .slice (e.resolve s) else e.resolve s⟩]
  | ⟨n, e⟩ :: rest => ⟨n, e.resolve s⟩ :: resolveParams s variadic rest

def resolveFields (s : Scope) : List (Component TypeExpr) → List (Component SourceType)
  | [] => []
  | ⟨n, embedded, e, tag⟩ :: rest =>
    ⟨if embedded then e.embeddedName else n, embedded, e.resolve s, tag⟩ :: resolveFields s rest

end

namespace World

/-- The type that a declaration gives its name. -/
def definition (w : World) (p : Catalog) (f : File) (s : TypeSpec) : SourceType :=
  s.definition.resolve ⟨w, p, f, s.params⟩

/-- The aliases that the definition of an alias mentions. -/
def mentioned (w : World) (a : Alias) : List Alias :=
  a.spec.definition.mentions.filterMap (Scope.alias? ⟨w, a.package, a.file, a.spec.params⟩)

/-- Finds out what an alias stands for, after the aliases that its definition mentions. A chain of them
is no longer than there are aliases. -/
def settle : Nat → World → Alias → World
  | 0, w, _ => w
  | fuel + 1, w, a =>
    if (w.aliases.lookup a.key).isSome then w
    else
      let w := (w.mentioned a).foldl (settle fuel) w
      { w with aliases := (a.key, w.definition a.package a.file a.spec) :: w.aliases }

/-- Packages in sight of each other, before anything is known about their aliases. -/
def unsettled (packages : List Package) : World :=
  ⟨packages.map Package.catalog, packages.foldr (fun p n => p.extent + n) 0, []⟩

/-- The aliases that the packages in sight declare. -/
def declaredAliases (w : World) : List Alias :=
  w.packages.flatMap Catalog.aliases

def ofPackages (packages : List Package) : World :=
  let w := unsettled packages
  w.declaredAliases.foldl (settle w.declaredAliases.length) w

/-- The number of declared names, which bounds every chain of definitions. -/
def bound (w : World) : Nat :=
  w.packages.foldr (fun p n => p.entries.length + n) 0

/-- The declaration of a type: its parameters and the type it is defined as. -/
def definition? (w : World) (ref : PackageRef) (name : Text) : Option (List Text × SourceType) := do
  let p ← w.package? ref.path
  let (f, s) ← p.typeSpec? name
  return (s.params, w.definition p f s)

/-- The predeclared interface of errors. -/
def errorInterface : SourceType :=
  .interface [] [⟨"Error", .function [] [⟨[], .basic (.plain .string)⟩] false⟩] []

/-- The interfaces that need no declaration. -/
def predeclaredInterface (name : Text) : SourceType :=
  if name == ("comparable" : Text) then .interface [] [] [comparableType] else errorInterface

def underlyingFrom (w : World) : Nat → SourceType → SourceType
  | 0, t => t.unalias
  | fuel + 1, t =>
    match t.unalias with
    | .defined none name _ => predeclaredInterface name
    | .defined (some ref) name args =>
      match w.definition? ref name with
      | some (params, d) => w.underlyingFrom fuel (d.subst (params.zip args))
      | none => .basic .invalid
    | t => t

/-- The type behind names and aliases. -/
def underlying (w : World) (t : SourceType) : SourceType :=
  w.underlyingFrom (w.bound + 1) t

end World

end TypeAtlas.Source
