import TypeAtlas.Descriptor.Contract
import TypeAtlas.Keyed
import TypeAtlas.Registry.Reflection

/-!
The registry of descriptors. Structs and enumerations are kept by type, functions by name, and all of
them can be found by name. Registering the same thing twice changes nothing; registering something else
in its place is refused. A struct that nobody registered can be described by reflection; such a
description gives way to a registered one.

Operations are functions from a registry to a registry and an answer. `Registry.run` performs a list of
them.
-/

namespace TypeAtlas

structure Registry where
  structs : Keyed (Option TypeRep) ErasedStruct := []
  enums : Keyed (Option TypeRep) ErasedEnum := []
  functions : Keyed Text ErasedFunction := []
  /-- The types whose structs were described by reflection. -/
  reflected : List (Option TypeRep) := []
  byName : Keyed Text Descriptor := []
  /-- Describe structs by reflection when asked for. -/
  fallback : Bool := true
  /-- Refuse descriptors that break the contract. -/
  validates : Bool := true
  deriving DecidableEq

/-- One member of a registry. -/
structure Registry.Entry where
  descriptor : Descriptor
  type : Option TypeRep
  name : Text
  kind : Kind
  reflected : Bool := false
  deriving DecidableEq, Repr

namespace Registry

/-- What an operation answers, and the registry it leaves behind. -/
abbrev Answer (α : Type) := Registry × Except Failure α

def isReflected (r : Registry) (t : Option TypeRep) : Bool :=
  r.reflected.contains t

def duplicate (what name : Text) : Failure :=
  .fault (Fault.duplicate .register what name)

/-! ### Which descriptors say the same -/

def sameField (a b : FieldInfo) : Bool :=
  a.name == b.name && a.offset == b.offset && a.type == b.type

def sameStruct (a b : ErasedStruct) : Bool :=
  a.name == b.name && a.fields.length == b.fields.length &&
    (a.fields.zip b.fields).all fun (f, g) => sameField f g

/-- A variant without a value counts as having the value zero. -/
def sameVariant (a b : ErasedVariant) : Bool :=
  a.name == b.name && a.raw.getD 0 == b.raw.getD 0

def sameEnum (a b : ErasedEnum) : Bool :=
  a.name == b.name && a.variants.length == b.variants.length &&
    (a.variants.zip b.variants).all fun (v, w) => sameVariant v w

def sameFunction (a b : ErasedFunction) : Bool :=
  a.type == b.type && a.parameters.length == b.parameters.length

/-! ### Publishing -/

/-- A name is free for a type if nobody has it or its holder describes the same type. -/
def nameIsFree (r : Registry) (name : Text) (t : Option TypeRep) : Bool :=
  match r.byName.get? name with
  | none => true
  | some d => d.type == t

/-- Stores a struct in place of a reflected one, if there is one. -/
def storeStruct (r : Registry) (m : ErasedStruct) : Registry :=
  { r with
    structs := r.structs.set m.type m
    reflected := r.reflected.filter (· ≠ m.type)
    byName := r.byName.set m.name (.erasedStruct m) }

def publishStruct (r : Registry) (m : ErasedStruct) : Answer Unit :=
  let fresh : Answer Unit :=
    if r.nameIsFree m.name m.type then (r.storeStruct m, .ok ())
    else (r, .error (duplicate "name" m.name))
  match r.structs.get? m.type with
  | none => fresh
  | some previous =>
    if r.isReflected m.type then fresh
    else if sameStruct previous m then (r, .ok ())
    else (r, .error (duplicate "struct" m.name))

def storeEnum (r : Registry) (m : ErasedEnum) : Registry :=
  { r with
    enums := r.enums.set m.type m
    byName := r.byName.set m.name (.erasedEnum m) }

def publishEnum (r : Registry) (m : ErasedEnum) : Answer Unit :=
  match r.enums.get? m.type with
  | some previous =>
    if sameEnum previous m then (r, .ok ()) else (r, .error (duplicate "enum" m.name))
  | none =>
    if r.nameIsFree m.name m.type then (r.storeEnum m, .ok ())
    else (r, .error (duplicate "name" m.name))

def storeFunction (r : Registry) (m : ErasedFunction) : Registry :=
  { r with
    functions := r.functions.set m.name m
    byName := r.byName.set m.name (.erasedFunction m) }

def publishFunction (r : Registry) (m : ErasedFunction) : Answer Unit :=
  match r.functions.get? m.name with
  | some previous =>
    if sameFunction previous m then (r, .ok ()) else (r, .error (duplicate "function" m.name))
  | none =>
    match r.byName.get? m.name with
    | some _ => (r, .error (duplicate "name" m.name))
    | none => (r.storeFunction m, .ok ())

/-! ### Registering -/

/-- The contract check that comes before publishing. -/
def vet (r : Registry) (what : Text) (verdict : Except Failure Unit)
    (publish : Registry → Answer Unit) : Answer Unit :=
  match verdict with
  | .ok () => publish r
  | .error cause =>
    if r.validates then
      (r, .error (.fault (Fault.wrap .register .invalidInput (some cause) what)))
    else publish r

def registerStruct (r : Registry) (s : StructInfo) : Answer Unit :=
  r.vet ("struct " ++ s.name) s.validate (·.publishStruct s.erase)

/-- Registers an enumeration by the copy `m` of it. -/
def registerEnumAs (r : Registry) (e : EnumInfo) (m : ErasedEnum) : Answer Unit :=
  r.vet ("enum " ++ e.name) e.validate (·.publishEnum m)

/-- Registers an enumeration without its discriminants. -/
def registerEnum (r : Registry) (e : EnumInfo) : Answer Unit :=
  r.registerEnumAs e e.erase

/-- Registers an enumeration of a known type, with its discriminants. -/
def registerEnumOf (r : Registry) (e : EnumInfo) : Answer Unit :=
  r.registerEnumAs e e.eraseTyped

def registerFunction (r : Registry) (f : FunctionInfo) : Answer Unit :=
  r.vet ("function " ++ f.name) f.validate (·.publishFunction f.erase)

def unsupported (r : Registry) (d : Descriptor) (why : Text) : Answer Unit :=
  (r, .error (.fault (Fault.unsupported .register (d.name ++ ": " ++ why))))

/-- Registers a descriptor as the struct that it answers for. -/
def registerAsStruct (r : Registry) (d : Descriptor) : Answer Unit :=
  match d.struct? with
  | some s => r.registerStruct s
  | none => r.unsupported d "struct kind without StructInfo"

/-- Registers a descriptor as the enumeration that it answers for; an erased one is kept as it is. -/
def registerAsEnum (r : Registry) (d : Descriptor) : Answer Unit :=
  match d with
  | .enum e => r.registerEnum e
  | .erasedEnum m => r.registerEnumAs m.info m
  | _ => r.unsupported d "enum kind without EnumInfo"

/-- Registers a descriptor as the function that it answers for. -/
def registerAsFunction (r : Registry) (d : Descriptor) : Answer Unit :=
  match d.function? with
  | some f => r.registerFunction f
  | none => r.unsupported d "function kind without FunctionInfo"

/-- Registers a descriptor according to its kind. -/
def register (r : Registry) (d : Descriptor) : Answer Unit :=
  match d.kind with
  | .struct | .union | .tuple => r.registerAsStruct d
  | .enum => r.registerAsEnum d
  | .function => r.registerAsFunction d
  | k => r.unsupported d ("kind " ++ k.keyword)

/-- Registers descriptors in order up to the first that is refused. -/
def registerAll (r : Registry) : List Descriptor → Answer Unit
  | [] => (r, .ok ())
  | d :: rest =>
    match r.register d with
    | (r, .ok ()) => r.registerAll rest
    | (r, .error f) => (r, .error f)

/-! ### Looking up -/

/-- Keeps a reflected description; it takes its name only if nobody has it. -/
def cacheStruct (r : Registry) (t : TypeRep) (m : ErasedStruct) : Registry :=
  { r with
    structs := r.structs.set (some t) m
    reflected := some t :: r.reflected
    byName := if (r.byName.get? m.name).isNone then r.byName.set m.name (.erasedStruct m) else r.byName }

/-- The struct of a type: the registered one, or a description by reflection, which is kept. -/
def struct (r : Registry) (t : Option TypeRep) : Answer ErasedStruct :=
  match t with
  | none => (r, .error (.fault (Fault.invalidInput .reflect "cannot describe a nil type")))
  | some t =>
    match r.structs.get? (some t) with
    | some m => (r, .ok m)
    | none =>
      if !r.fallback then (r, .error (.fault (Fault.notFound .reflect "struct" t.text)))
      else
        match Reflection.struct t with
        | .error f => (r, .error (.fault f))
        | .ok m => (r.cacheStruct t m, .ok m)

def enum? (r : Registry) (t : Option TypeRep) : Option ErasedEnum :=
  r.enums.get? t

def function? (r : Registry) (name : Text) : Option ErasedFunction :=
  r.functions.get? name

def lookup? (r : Registry) (name : Text) : Option Descriptor :=
  r.byName.get? name

/-- The number of descriptors, reflected ones included. -/
def count (r : Registry) : Nat :=
  r.structs.length + r.enums.length + r.functions.length

/-- Removes every descriptor. -/
def reset (r : Registry) : Registry :=
  { fallback := r.fallback, validates := r.validates }

/-! ### Entries -/

/-- The order of entries: by name, then by kind; entries that agree in both are ordered by type. -/
def Entry.le (a b : Entry) : Bool :=
  Text.lt a.name b.name ||
    (a.name == b.name &&
      (decide (a.kind.code < b.kind.code) ||
        (a.kind.code == b.kind.code && Text.le (TypeRep.describe a.type) (TypeRep.describe b.type))))

def structEntry (r : Registry) (e : Option TypeRep × ErasedStruct) : Entry where
  descriptor := .erasedStruct e.2
  type := e.1
  name := e.2.name
  kind := e.2.kind
  reflected := r.isReflected e.1

def enumEntry (e : Option TypeRep × ErasedEnum) : Entry where
  descriptor := .erasedEnum e.2
  type := e.1
  name := e.2.name
  kind := .enum

def functionEntry (e : Text × ErasedFunction) : Entry where
  descriptor := .erasedFunction e.2
  type := e.2.type
  name := e.2.name
  kind := .function

/-- Every descriptor of the registry, sorted. -/
def entries (r : Registry) : List Entry :=
  (r.structs.map r.structEntry ++ r.enums.map enumEntry ++ r.functions.map functionEntry).mergeSort
    Entry.le

/-! ### Runs -/

/-- The operations that can change a registry. -/
inductive Operation where
  | registerStruct (s : StructInfo)
  | registerEnum (e : EnumInfo)
  | registerEnumOf (e : EnumInfo)
  | registerFunction (f : FunctionInfo)
  | register (ds : List Descriptor)
  | struct (t : Option TypeRep)
  | reset

/-- Performs an operation; of a lookup, only its success counts. -/
def perform (r : Registry) : Operation → Answer Unit
  | .registerStruct s => r.registerStruct s
  | .registerEnum e => r.registerEnum e
  | .registerEnumOf e => r.registerEnumOf e
  | .registerFunction f => r.registerFunction f
  | .register ds => r.registerAll ds
  | .struct t => ((r.struct t).1, (r.struct t).2.map fun _ => ())
  | .reset => (r.reset, .ok ())

/-- The registry after a list of operations. -/
def run (r : Registry) (ops : List Operation) : Registry :=
  ops.foldl (fun r op => (r.perform op).1) r

end Registry

end TypeAtlas
