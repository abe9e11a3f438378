import TypeAtlas.Keyed
import TypeAtlas.Text.Template

/-!
Failures as data. A fault names the phase and the kind of what went wrong, where, and for which types;
it may have a cause. A check that collects everything it finds reports its faults together. The wording
of every failure is fixed here, and so is what it means for a failure to match another one: some fault
of its tree has the same phase and kind.
-/

namespace TypeAtlas

/-- The stage that failed, by name. -/
structure Phase where
  name : Text
  deriving DecidableEq, Repr

namespace Phase

def validate : Phase := ⟨"validate"⟩
def register : Phase := ⟨"register"⟩
def reflect : Phase := ⟨"reflect"⟩
def generate : Phase := ⟨"generate"⟩
def parse : Phase := ⟨"parse"⟩
def layout : Phase := ⟨"layout"⟩
def memory : Phase := ⟨"memory"⟩

end Phase

/-- What went wrong, by name. -/
structure FaultKind where
  name : Text
  deriving DecidableEq, Repr

namespace FaultKind

def indexMismatch : FaultKind := ⟨"index_mismatch"⟩
def countMismatch : FaultKind := ⟨"count_mismatch"⟩
def offsetOutOfBounds : FaultKind := ⟨"offset_out_of_bounds"⟩
def misaligned : FaultKind := ⟨"misaligned"⟩
def duplicate : FaultKind := ⟨"duplicate"⟩
def notFound : FaultKind := ⟨"not_found"⟩
def invalidInput : FaultKind := ⟨"invalid_input"⟩
def invalidAttribute : FaultKind := ⟨"invalid_attribute"⟩
def unsupported : FaultKind := ⟨"unsupported"⟩
def outOfBounds : FaultKind := ⟨"out_of_bounds"⟩
def layoutMismatch : FaultKind := ⟨"layout_mismatch"⟩
def typeMismatch : FaultKind := ⟨"type_mismatch"⟩

end FaultKind

/-- A fault apart from its cause. -/
structure Report where
  phase : Phase
  kind : FaultKind
  path : List Text := []
  goType : Text := []
  witType : Text := []
  detail : Text := []
  value : Option Datum := none
  deriving DecidableEq, Repr

mutual

/-- A single fault, a collection of faults about one subject, or a message from elsewhere. -/
inductive Failure where
  | fault (f : Fault)
  | violations (subject : Text) (faults : List Fault)
  | message (text : Text)

inductive Fault where
  | mk (report : Report) (cause : Option Failure)

end

instance : Inhabited Failure := ⟨.message []⟩

instance : Inhabited Fault := ⟨.mk { phase := ⟨[]⟩, kind := ⟨[]⟩ } none⟩

/-! ### Wording -/

namespace Report

/-- `Go type X`, `WIT type Y`, both or neither. -/
def types (r : Report) : Text :=
  Text.join ", "
    ((if r.goType.isEmpty then [] else [("Go type " ++ r.goType : Text)]) ++
      (if r.witType.isEmpty then [] else [("WIT type " ++ r.witType : Text)]))

/-- `[phase] kind at a.b.c: types - detail` without the parts that are empty. -/
def message (r : Report) : Text :=
  let types := r.types
  "[" ++ r.phase.name ++ "] " ++ r.kind.name ++
    Text.when (!r.path.isEmpty) (" at " ++ Text.join "." r.path) ++
    Text.when (!types.isEmpty) (": " ++ types) ++
    Text.when (!r.detail.isEmpty) ((if types.isEmpty then ": " else " - ") ++ r.detail)

end Report

namespace Fault

def report : Fault → Report
  | .mk r _ => r

def cause : Fault → Option Failure
  | .mk _ c => c

def kind (f : Fault) : FaultKind :=
  f.report.kind

/-- A fault without a cause. -/
def of (r : Report) : Fault :=
  .mk r none

end Fault

namespace Failure

/-- Messages sorted by kind as they come in: the kinds in the order of their first occurrence, and the
messages of each in order. -/
structure Groups where
  kinds : List FaultKind := []
  messages : Keyed FaultKind (List Text) := []

namespace Groups

/-- A message joins those of its kind; the first of a kind puts the kind at the end of the order. -/
def add (g : Groups) (item : FaultKind × Text) : Groups where
  kinds := if (g.messages.get? item.1).isNone then g.kinds ++ [item.1] else g.kinds
  messages := g.messages.set item.1 ((g.messages.get? item.1).getD [] ++ [item.2])

/-- Every kind with its messages. -/
def toList (g : Groups) : List (FaultKind × List Text) :=
  g.kinds.map fun k => (k, (g.messages.get? k).getD [])

end Groups

/-- The messages by kind, collected in one pass. -/
def grouped (items : List (FaultKind × Text)) : List (FaultKind × List Text) :=
  (items.foldl Groups.add {}).toList

def groupText (group : FaultKind × List Text) : Text :=
  "\n  " ++ group.1.name ++ ":\n" ++ group.2.flatMap fun m => ("    - " ++ m ++ "\n" : Text)

/-- The report on a collection: a header with the number of faults, then one group per kind. -/
def collection (subject : Text) (items : List (FaultKind × Text)) : Text :=
  if items.isEmpty then "[validate] no violations"
  else
    subject ++ ": " ++ Text.ofNat items.length ++ " violation(s):\n" ++
      ((grouped items).flatMap groupText).dropLast

end Failure

mutual

def Failure.text : Failure → Text
  | .fault f => f.text
  | .violations subject faults => Failure.collection subject (Failure.labelled faults)
  | .message t => t

/-- The message of a fault, with its cause in parentheses. -/
def Fault.text : Fault → Text
  | .mk r c => r.message ++ Failure.causeText c

def Failure.causeText : Option Failure → Text
  | none => []
  | some f => " (caused by: " ++ f.text ++ ")"

def Failure.labelled : List Fault → List (FaultKind × Text)
  | [] => []
  | f :: rest => (f.kind, f.text) :: Failure.labelled rest

end

/-! ### Matching -/

/-- What a failure can be compared with: any fault of a phase and kind, any collection, or nothing. -/
inductive Failure.Target where
  | fault (phase : Phase) (kind : FaultKind)
  | violations
  | nothing
  deriving DecidableEq, Repr

/-- A failure used as a target. A message from elsewhere is matched by nothing. -/
def Failure.target : Failure → Failure.Target
  | .fault f => .fault f.report.phase f.report.kind
  | .violations .. => .violations
  | .message _ => .nothing

/-- A fault matches by its own phase and kind. -/
def Fault.answers (target : Failure.Target) (f : Fault) : Bool :=
  target == .fault f.report.phase f.report.kind

/-- What is directly behind a failure: the cause of a fault, the members of a collection. -/
def Failure.behind : Failure → List Failure
  | .fault f => f.cause.toList
  | .violations _ faults => faults.map .fault
  | .message _ => []

/-- What a failure says to a target by itself. A collection answers for its members too, but not for
their causes. -/
def Failure.answers (target : Failure.Target) : Failure → Bool
  | .fault f => f.answers target
  | .violations _ faults => target == .violations || faults.any (·.answers target)
  | .message _ => false

mutual

/-- Whether some node of the tree answers the target. -/
def Failure.meets (target : Failure.Target) : Failure → Bool
  | .fault f => f.meets target
  | .violations _ faults =>
    target == .violations || faults.any (·.answers target) || Failure.anyMeets target faults
  | .message _ => false

def Fault.meets (target : Failure.Target) : Fault → Bool
  | .mk r c => Fault.answers target (.mk r none) || Failure.causeMeets target c

def Failure.causeMeets (target : Failure.Target) : Option Failure → Bool
  | none => false
  | some f => f.meets target

def Failure.anyMeets (target : Failure.Target) : List Fault → Bool
  | [] => false
  | f :: rest => f.meets target || Failure.anyMeets target rest

end

/-- The first fault in depth-first order. A fault comes before its cause, so a collection answers with
its first member. -/
def Failure.firstFault? : Failure → Option Fault
  | .fault f => some f
  | .violations _ faults => faults.head?
  | .message _ => none

mutual

/-- The subject of the first collection in depth-first order. -/
def Failure.firstSubject? : Failure → Option Text
  | .fault f => f.firstSubject?
  | .violations subject _ => some subject
  | .message _ => none

def Fault.firstSubject? : Fault → Option Text
  | .mk _ none => none
  | .mk _ (some c) => c.firstSubject?

end

/-- The failure directly behind a fault. -/
def Failure.unwrap? : Failure → Option Failure
  | .fault f => f.cause
  | _ => none

/-- Adds a fault to those collected so far, if there is one. -/
def Failure.add (faults : List Fault) (f : Option Fault) : List Fault :=
  faults ++ f.toList

/-- What a series of checks collects. -/
def Failure.collected (found : List (Option Fault)) : List Fault :=
  found.foldl Failure.add []

/-- Nothing collected is no failure. -/
def Failure.ofFaults (subject : Text) (faults : List Fault) : Except Failure Unit :=
  if faults.isEmpty then .ok () else .error (.violations subject faults)

/-! ### The faults of this library -/

namespace Fault

/-- A member whose declared index differs from its position. -/
def indexMismatch (phase : Phase) (path : List Text) (declared position : Int) : Fault :=
  of {
    phase, path
    kind := .indexMismatch
    detail := "declared index " ++ Text.ofInt declared ++ " at position " ++ Text.ofInt position
    value := some (.number declared) }

/-- A count that disagrees with the members it counts. -/
def countMismatch (phase : Phase) (path : List Text) (what : Text) (declared actual : Int) : Fault :=
  of {
    phase, path
    kind := .countMismatch
    detail := what ++ " count " ++ Text.ofInt declared ++ ", " ++ Text.ofInt actual ++ " described"
    value := some (.number declared) }

/-- A field whose bytes do not fit inside its owner. -/
def offsetOutOfBounds (phase : Phase) (path : List Text) (offset size owner : Nat) : Fault :=
  of {
    phase, path
    kind := .offsetOutOfBounds
    detail := "offset " ++ Text.ofNat offset ++ " + size " ++ Text.ofNat size ++
      " exceeds owner size " ++ Text.ofNat owner
    value := some (.number offset) }

/-- An offset that is not a multiple of the alignment of its type. -/
def misaligned (phase : Phase) (path : List Text) (goType : Text) (offset align : Nat) : Fault :=
  of {
    phase, path, goType
    kind := .misaligned
    detail := "offset " ++ Text.ofNat offset ++ " not aligned to " ++ Text.ofNat align
    value := some (.number offset) }

/-- A second, conflicting publication of the same thing. -/
def duplicate (phase : Phase) (what name : Text) : Fault :=
  of { phase, kind := .duplicate, detail := what ++ " " ++ Text.quote name ++ " already registered" }

def notFound (phase : Phase) (what name : Text) : Fault :=
  of { phase, kind := .notFound, detail := what ++ " " ++ Text.quote name ++ " not found" }

def invalidInput (phase : Phase) (detail : Text) : Fault :=
  of { phase, detail, kind := .invalidInput }

/-- A malformed metadata entry. -/
def invalidAttribute (path : List Text) (entry reason : Text) : Fault :=
  of {
    path
    phase := .parse
    kind := .invalidAttribute
    detail := Text.quote entry ++ ": " ++ reason
    value := some (.text entry) }

def unsupported (phase : Phase) (what : Text) : Fault :=
  of { phase, kind := .unsupported, detail := what }

/-- An access past the end of a memory. -/
def outOfBounds (phase : Phase) (path : List Text) (addr size limit : Nat) : Fault :=
  of {
    phase, path
    kind := .outOfBounds
    detail := "address " ++ Text.ofNat addr ++ " + " ++ Text.ofNat size ++ " bytes exceeds " ++
      Text.ofNat limit
    value := some (.number addr) }

/-- A field placed differently by the two layouts. -/
def layoutMismatch (path : List Text) (goType witType : Text) (goOffset witOffset : Nat) : Fault :=
  of {
    path, goType, witType
    phase := .layout
    kind := .layoutMismatch
    detail := "Go offset " ++ Text.ofNat goOffset ++ ", canonical offset " ++ Text.ofNat witOffset }

/-- Two types that should agree. -/
def typeMismatch (phase : Phase) (path : List Text) (goType witType : Text) : Fault :=
  of { phase, path, goType, witType, kind := .typeMismatch }

/-- A failure from elsewhere with a phase and kind of its own. -/
def wrap (phase : Phase) (kind : FaultKind) (cause : Option Failure) (detail : Text) : Fault :=
  .mk { phase, kind, detail } cause

end Fault

end TypeAtlas
