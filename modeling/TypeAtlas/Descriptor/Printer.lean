import TypeAtlas.Descriptor.Outline
import TypeAtlas.Descriptor.Visitor

/-!
The outline as a visit. A walk calls the visitor's method for the kind of a descriptor. Members are visited
through a sequence that offers one result after another, and its consumer stops it. To the printer the
refusal of a destination is a result like any other, which it looks at after every write.
-/

namespace TypeAtlas

namespace Visitor

variable {m : Type → Type} {α β : Type}

/-- Calls the method for the kind of a descriptor; `none` when the descriptor cannot answer for its kind. -/
def walk? (v : Methods m α) (d : Descriptor) : Option (m α) :=
  match d.kind with
  | .struct | .union | .tuple => d.struct?.map v.struct
  | .enum => d.enum?.map v.enum
  | .function => d.function?.map v.function
  | _ => none

/-- Results with their positions, offered to a consumer that says each time whether it wants another. -/
abbrev Results (m : Type → Type) (α : Type) :=
  (Nat → α → m Bool) → m Unit

variable [Monad m]

/-- The results of visiting items in order. What comes after the last one wanted is not visited. -/
def resultsFrom (visit : Int → β → m α) (position : Nat) : List β → Results m α
  | [], _ => pure ()
  | item :: rest, consume => do
    let result ← visit position item
    if ← consume position result then resultsFrom visit (position + 1) rest consume

/-- Goes over results as long as they are no failures, and returns the failure that ended it. -/
def firstFailure (results : Results (StateT (Option Failure) m) (Option Failure)) :
    m (Option Failure) := do
  let (_, failure) ← (results fun _ failure => do set failure; return failure.isNone).run none
  return failure

/-- Visits items in order up to the first failure. -/
def untilFailure (visit : Int → β → m (Option Failure)) (items : List β) : m (Option Failure) :=
  firstFailure (resultsFrom (fun position item => liftM (visit position item)) 0 items)

end Visitor

namespace Outline

/-- Printing tells why the destination refused a text, if it did. -/
abbrev Printing := StateM Sink (Option Failure)

/-- A writing with its refusal as a result. -/
def Printing.ofWriting (w : Writing Unit) : Printing := fun s =>
  match w.run.run s with
  | (.ok (), s) => (none, s)
  | (.error f, s) => (some f, s)

def print (t : Text) : Printing :=
  .ofWriting (Sink.write t)

/-- Goes on only if nothing was refused. -/
def Printing.andThen (first next : Printing) : Printing := do
  match ← first with
  | none => next
  | some f => return some f

def printEach : List Text → Printing
  | [] => return none
  | t :: rest => (print t).andThen (printEach rest)

def structHeader (s : StructInfo) : Text :=
  s.kind.keyword ++ " " ++ s.name ++ ", with " ++ Text.ofInt s.count ++ " fields:\n"

def enumHeader (e : EnumInfo) : Text :=
  "enum " ++ e.name ++ ", with " ++ Text.ofInt e.count ++ " variants:\n"

def functionHeader (f : FunctionInfo) : Text :=
  "fn " ++ f.name ++ ", with " ++ Text.ofInt f.count ++ " parameters:\n"

def variantHeader (v : VariantInfo) : Text :=
  "\t" ++ v.name ++ ", with " ++ Text.ofInt v.count ++ " fields:\n"

def valueText (v : VariantInfo) (raw : UInt64) : Text :=
  "\t" ++ v.name ++ " = " ++ rawText v.owner raw ++ "\n"

def parameterText (p : ParameterInfo) : Text :=
  "\t" ++ displayName p.name ++ " (" ++ typeText p.type ++ ")\n"

def resultText (f : FunctionInfo) : Text :=
  "\treturns " ++ typeText f.result ++ "\n"

def printField (_ : Int) (f : FieldInfo) : Printing :=
  print (fieldText "\t" f)

/-- A variant is its value, its name or, if it has fields, a header and a line for each. -/
def printVariant (_ : Int) (v : VariantInfo) : Printing :=
  match v.raw with
  | some raw => print (valueText v raw)
  | none =>
    if TypeRep.isNoType v.listType then print ("\t" ++ v.name ++ "\n")
    else (print (variantHeader v)).andThen (printEach (v.fields.map (fieldText "\t\t")))

def printParameter (_ : Int) (p : ParameterInfo) : Printing :=
  print (parameterText p)

/-- Prints outlines; the indices of members do not matter to it. -/
def printer : Visitor.Methods (StateM Sink) (Option Failure) where
  struct s := (print (structHeader s)).andThen (Visitor.untilFailure printField s.fields)
  enum e := (print (enumHeader e)).andThen (Visitor.untilFailure printVariant e.variants)
  function f :=
    ((print (functionHeader f)).andThen (Visitor.untilFailure printParameter f.parameters)).andThen
      (if TypeRep.isNoType f.result then return none else print (resultText f))
  field := printField
  variant := printVariant
  parameter := printParameter

end Outline

end TypeAtlas
