import TypeAtlas.Source.Scope

/-!
The packages that generated code refers to. The first package of a name is imported under it, every
further one under the name with the first number from 2 on that is free.
-/

namespace TypeAtlas.Emit

open Source

/-- Import paths with the local names they are imported under, in the order of first use. -/
structure ImportSet where
  entries : List (Text × Text) := []

/-- The standard library's paths have no dot in their first element. -/
def isStandard (path : Text) : Bool :=
  !(Text.cut 0x2F path).1.contains 0x2E

namespace ImportSet

def localName? (s : ImportSet) (path : Text) : Option Text :=
  s.entries.lookup path

def isTaken (s : ImportSet) (name : Text) : Bool :=
  s.entries.any fun e => e.2 == name

/-- The first free one of `name` with numbers from `i` on. One more try than there are imports finds
it. -/
def numbered (s : ImportSet) (name : Text) : Nat → Nat → Text
  | 0, i => name ++ Text.ofNat i
  | tries + 1, i =>
    let candidate := name ++ Text.ofNat i
    if s.isTaken candidate then s.numbered name tries (i + 1) else candidate

def freeName (s : ImportSet) (name : Text) : Text :=
  if s.isTaken name then s.numbered name s.entries.length 2 else name

/-- Imports a package unless it is imported already. -/
def use (s : ImportSet) (p : PackageRef) : ImportSet :=
  match s.localName? p.path with
  | some _ => s
  | none => ⟨s.entries ++ [(p.path, s.freeName p.name)]⟩

/-- The name that qualifies a package's identifiers. -/
def localName (s : ImportSet) (path : Text) : Text :=
  (s.localName? path).getD []

/-- One import; the local name is written unless the path ends in it. -/
def line (e : Text × Text) : Text :=
  "\t" ++ Text.when (e.2 != Path.last e.1) (e.2 ++ " ") ++ Text.quote e.1 ++ "\n"

/-- The import declaration: the standard library first, each part in the given order. -/
def blockBy (le : Text → Text → Bool) (s : ImportSet) : Text :=
  let sorted (entries : List (Text × Text)) := entries.mergeSort fun a b => le a.1 b.1
  if s.entries.isEmpty then []
  else
    let standard := sorted (s.entries.filter fun e => isStandard e.1)
    let other := sorted (s.entries.filter fun e => !isStandard e.1)
    "import (\n" ++ standard.flatMap line ++
      Text.when (!standard.isEmpty && !other.isEmpty) "\n" ++ other.flatMap line ++ ")\n"

/-- The import declaration with each part sorted by path. -/
def block (s : ImportSet) : Text :=
  s.blockBy Text.le

/-- Paths that formatting puts at the end of their part. -/
def isLate (path : Text) : Bool :=
  ("appengine" : Text).isPrefixOf path

/-- The order of paths in a formatted file. -/
def formattedLe (a b : Text) : Bool :=
  if isLate a == isLate b then Text.le a b else isLate b

/-- The import declaration of a formatted file. -/
def formatted (s : ImportSet) : Text :=
  s.blockBy formattedLe

end ImportSet

end TypeAtlas.Emit
