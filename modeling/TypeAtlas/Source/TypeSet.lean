import TypeAtlas.Source.Scope

/-!
Identity of types and the sets of types that interfaces stand for. An interface asks for methods, may
ask for types that can be compared, and may be limited to a single type; embedding intersects. Two
interface literals are identical when they ask for the same. As a signature can lead back to the literal
it stands in, two literals that are being compared are taken to be identical meanwhile.
-/

namespace TypeAtlas

namespace SourceType

/-- Whether the alias `package.name[args]` is among those that a type is named by. -/
def isNamedBy (package : Option Source.PackageRef) (name : Text) (args : List SourceType) :
    SourceType → Bool
  | .alias p n as t =>
    (p == package && n == name && beqAll as args) || t.isNamedBy package name args
  | _ => false

/-- Unexported names of different packages differ. -/
def uniqueName (home name : Text) : Text :=
  if isExported name then name else home ++ "." ++ name

mutual

/-- Identity of types, given that of interface literals. Names of parameters do not count, and aliases
are looked through. -/
def identicalWith (interfaces : SourceType → SourceType → Bool) : SourceType → SourceType → Bool
  | .alias p n args t, b => b.isNamedBy p n args || t.identicalWith interfaces b
  | .basic a, b =>
    match b.unalias with
    | .basic b => a.canonical == b.canonical
    | _ => false
  | .any, b =>
    match b.unalias with
    | .any => true
    | .interface h m e => interfaces .any (.interface h m e)
    | _ => false
  | .interface h m e, b =>
    match b.unalias with
    | .any => interfaces (.interface h m e) .any
    | .interface g n d => interfaces (.interface h m e) (.interface g n d)
    | _ => false
  | .defined p m as, b =>
    match b.unalias with
    | .defined q n bs => p == q && m == n && identicalAll interfaces as bs
    | _ => false
  | .parameter m, b =>
    match b.unalias with
    | .parameter n => m == n
    | _ => false
  | .pointer a, b =>
    match b.unalias with
    | .pointer b => a.identicalWith interfaces b
    | _ => false
  | .slice a, b =>
    match b.unalias with
    | .slice b => a.identicalWith interfaces b
    | _ => false
  | .array m a, b =>
    match b.unalias with
    | .array n b => m == n && a.identicalWith interfaces b
    | _ => false
  | .map k a, b =>
    match b.unalias with
    | .map l b => k.identicalWith interfaces l && a.identicalWith interfaces b
    | _ => false
  | .channel d a, b =>
    match b.unalias with
    | .channel e b => d == e && a.identicalWith interfaces b
    | _ => false
  | .function ps rs v, b =>
    match b.unalias with
    | .function qs ss w => v == w && identicalBound interfaces ps qs && identicalBound interfaces rs ss
    | _ => false
  | .struct g as, b =>
    match b.unalias with
    | .struct h bs => identicalFields interfaces g h as bs
    | _ => false

def identicalAll (interfaces : SourceType → SourceType → Bool) :
    List SourceType → List SourceType → Bool
  | [], [] => true
  | a :: as, b :: bs => a.identicalWith interfaces b && identicalAll interfaces as bs
  | _, _ => false

def identicalBound (interfaces : SourceType → SourceType → Bool) :
    List (Source.Binding SourceType) → List (Source.Binding SourceType) → Bool
  | [], [] => true
  | ⟨_, a⟩ :: as, ⟨_, b⟩ :: bs => a.identicalWith interfaces b && identicalBound interfaces as bs
  | _, _ => false

def identicalFields (interfaces : SourceType → SourceType → Bool) (g h : Text) :
    List (Source.Component SourceType) → List (Source.Component SourceType) → Bool
  | [], [] => true
  | ⟨m, e, a, s⟩ :: as, ⟨n, f, b, t⟩ :: bs =>
    uniqueName g m == uniqueName h n && e == f && s == t && a.identicalWith interfaces b &&
      identicalFields interfaces g h as bs
  | _, _ => false

end

end SourceType

namespace Source

/-- A method that an interface asks for; unexported names belong to the package `home`. -/
structure Requirement where
  home : Text
  name : Text
  signature : SourceType

/-- A name that is unique across packages. -/
def Requirement.id (r : Requirement) : Text :=
  SourceType.uniqueName r.home r.name

/-- The types an interface admits besides what it asks of them. -/
inductive Terms where
  | all
  | only (t : SourceType)
  | none

/-- What an interface asks for. `comparable` is set only where all types are admitted otherwise. -/
structure TypeSet where
  methods : List Requirement := []
  comparable : Bool := false
  terms : Terms := .all

namespace Terms

/-- The types admitted by both. -/
def inter (same : SourceType → SourceType → Bool) : Terms → Terms → Terms
  | .all, t | t, .all => t
  | .only a, .only b => if same a b then .only a else .none
  | .none, _ | _, .none => .none

def agree (same : SourceType → SourceType → Bool) : Terms → Terms → Bool
  | .all, .all | .none, .none => true
  | .only a, .only b => same a b
  | _, _ => false

end Terms

namespace TypeSet

/-- Methods that are not asked for yet. -/
def join (methods more : List Requirement) : List Requirement :=
  methods ++ more.filter fun r => !methods.any (·.id == r.id)

/-- What two interfaces ask for together. A single type is left only if it can be compared where that is
asked for, and then nothing more has to be asked. -/
def meet (same : SourceType → SourceType → Bool) (comparable : SourceType → Bool) (a b : TypeSet) :
    TypeSet :=
  let methods := join a.methods b.methods
  let asked := a.comparable || b.comparable
  match a.terms.inter same b.terms with
  | .all => ⟨methods, asked, .all⟩
  | .only t => ⟨methods, false, if asked && !comparable t then .none else .only t⟩
  | .none => ⟨methods, false, .none⟩

/-- Whether two interfaces ask for the same. -/
def agree (same : SourceType → SourceType → Bool) (a b : TypeSet) : Bool :=
  a.comparable == b.comparable && a.terms.agree same b.terms &&
    a.methods.length == b.methods.length &&
    a.methods.all fun m => b.methods.any fun n => m.id == n.id && same m.signature n.signature

/-- Nothing at all is asked for. -/
def isAll (s : TypeSet) : Bool :=
  match s.terms with
  | .all => s.methods.isEmpty && !s.comparable
  | _ => false

end TypeSet

namespace World

/-- Pairs of interface literals that are being compared. -/
abbrev Assumed := List (SourceType × SourceType)

def isAssumed (assumed : Assumed) (a b : SourceType) : Bool :=
  assumed.any fun (i, j) => (i == a && j == b) || (i == b && j == a)

mutual

/-- Identity of types, with the given number of comparisons of interface literals within each other. -/
def identicalFrom (w : World) : Nat → Assumed → SourceType → SourceType → Bool
  | 0, _, _, _ => false
  | fuel + 1, assumed, a, b =>
    a.identicalWith (fun i j =>
      isAssumed assumed i j ||
        (w.typeSetFrom fuel i).agree (w.identicalFrom fuel ((i, j) :: assumed))
          (w.typeSetFrom fuel j)) b

/-- What an interface asks for; any other type admits itself only. -/
def typeSetFrom (w : World) : Nat → SourceType → TypeSet
  | 0, _ => {}
  | fuel + 1, t =>
    if t.unalias == comparableType then ⟨[], true, .all⟩
    else
      match w.underlying t with
      | .interface home methods embedded =>
        embedded.foldl (fun s e =>
            s.meet (w.identicalFrom fuel []) (w.comparableFrom fuel) (w.typeSetFrom fuel e))
          ⟨methods.map fun m => ⟨home, m.name, m.type⟩, false, .all⟩
      | .any | .basic .invalid => {}
      | _ => ⟨[], false, .only t⟩

/-- Types whose values can be compared without fail. -/
def comparableFrom (w : World) : Nat → SourceType → Bool
  | 0, _ => false
  | fuel + 1, t =>
    match w.underlying t with
    | .basic _ | .pointer _ | .channel _ _ => true
    | .array _ e => w.comparableFrom fuel e
    | .struct _ fields => fields.all fun f => w.comparableFrom fuel f.type
    | .interface .. =>
      let s := w.typeSetFrom fuel t
      match s.terms with
      | .all => s.comparable
      | .only e => w.comparableFrom fuel e
      | .none => false
    | _ => false

end

/-- More than the number of pairs of interface literals, and than the length of every chain of
embeddings. -/
def depth (w : World) : Nat :=
  (w.extent + 2) * (w.extent + 2)

/-- Identity of types. -/
def identical (w : World) (a b : SourceType) : Bool :=
  w.identicalFrom w.depth [] a b

/-- What an interface asks for. -/
def typeSet (w : World) (t : SourceType) : TypeSet :=
  w.typeSetFrom w.depth t

/-- Types whose values can be compared without fail. -/
def isComparable (w : World) (t : SourceType) : Bool :=
  w.comparableFrom w.depth t

end World

end Source

end TypeAtlas
