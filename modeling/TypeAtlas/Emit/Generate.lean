import TypeAtlas.Emit.Clause
import TypeAtlas.Emit.Plan
import TypeAtlas.Model.OfPackage

/-!
Generating the descriptors of a package. The items are planned, their identifiers are claimed in order,
and the packages they mention are imported in order; what remains is to write them down.
-/

namespace TypeAtlas.Emit

open Source Model

structure Options where
  /-- The package to generate, or nothing to join the package described. -/
  into : Text := []
  /-- Describe unexported members too. -/
  hidden : Bool := false
  /-- Register all descriptors. -/
  register : Bool := false
  /-- Only these declarations, unless there are none. -/
  only : List Text := []

/-- A generated file. -/
structure Output where
  clause : Clause
  spelling : Spelling
  items : List Item

/-- Why there is no output: a fault, or text that is no source file. -/
inductive Refusal where
  | fault (f : Fault)
  | malformed

def Refusal.toFault : Refusal → Fault
  | .fault f => f
  | .malformed => Fault.wrap .generate .invalidInput none "formatting generated source"

/-! ### Well-formed files -/

/-- Characters that no import path may contain. -/
def isIllegalInPath (c : Nat) : Bool :=
  ("!\"#$%&'()*,:;<=>?[\\]^`\x7b|\x7d" : Text).any (·.toNat == c) || c == Text.replacement

def isImportPath (path : Text) : Bool :=
  !path.isEmpty &&
    path.codes.all fun c => Text.isGraphic c && !Text.isBlank c && !isIllegalInPath c

/-- The imports of a file. -/
def areImportable (s : ImportSet) : Bool :=
  s.entries.all fun e => isImportPath e.1

/-! ### Lines -/

/-- Every blank is a space. -/
def spaced (t : Text) : Text :=
  t.runes.flatMap fun r => if Text.isBlank r.code then [0x20] else r.bytes

/-- The lines of a text without the spaces around them, those that are empty left out. -/
def linesOf (t : Text) : List Text :=
  ((t.splitOn 0x0A).map fun line => Text.squeeze (spaced line)).filter fun line => !line.isEmpty

/-- What is written below the imports. -/
def Output.written (o : Output) : List Line :=
  o.items.flatMap (Item.written o.spelling)

def Output.text (o : Output) : Text :=
  generatedHeader ++ "\n" ++ o.clause.text ++ "\n" ++ o.spelling.imports.formatted ++
    o.spelling.lines o.written

def Output.lines (o : Output) : List Text :=
  linesOf o.text

/-! ### Generation -/

/-- The identifiers that are claimed for items, in order. -/
def claimedNames (items : List Item) : List Text :=
  items.flatMap Item.claims

/-- The identifiers that the output declares. -/
def Output.declares (o : Output) : List Text :=
  o.written.flatMap Line.declares

/-- The identifiers that the output refers to as its own. -/
def Output.refers (o : Output) : List Text :=
  generatedNames (o.written.flatMap Line.code)

/-- The declarations asked for that can be described. -/
def select (m : Model) (v : Viewpoint) (only : List Text) : Except Fault (List Declared) :=
  match only.find? fun name => (m.lookup? name).isNone with
  | some name => .error (Fault.notFound .generate "annotated declaration" name)
  | none =>
    .ok (m.declarations.filter fun d => (only.isEmpty || only.contains d.name) && v.sees d.name)

def viewpoint (m : Model) (o : Options) : Viewpoint :=
  ⟨m.package, !o.into.isEmpty, o.hidden⟩

/-- Everything that is written for the chosen declarations. -/
def plan (v : Viewpoint) (register : Bool) (declarations : List Declared) : List Item :=
  declarations.flatMap (items v) ++ if register then initItems v declarations else []

/-- The packages that the items mention, imported in the order of their mention. -/
def spellingFor (v : Viewpoint) (items : List Item) : Spelling :=
  (items.flatMap Item.mentions).foldl Spelling.usePiece ⟨v.package, v.foreign, {}⟩

/-- Generates the descriptors of a model. -/
def generate (m : Model) (o : Options) : Except Refusal Output :=
  if o.hidden && !o.into.isEmpty then
    .error (.fault (Fault.invalidInput .generate
      "unexported members are only visible in the defining scope"))
  else
    let v := viewpoint m o
    match select m v o.only with
    | .error f => .error (.fault f)
    | .ok declarations =>
      let items := plan v o.register declarations
      match (Names.start v.foreign m.taken).claim (claimedNames items) with
      | (_, some name) => .error (.fault (declaredTwice name))
      | (_, none) =>
        let package := if v.foreign then o.into else m.package.name
        let spelling := spellingFor v items
        match Clause.parse? package with
        | some clause =>
          if areImportable spelling.imports then .ok ⟨clause, spelling, items⟩ else .error .malformed
        | none => .error .malformed

end TypeAtlas.Emit
