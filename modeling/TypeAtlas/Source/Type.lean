import TypeAtlas.TypeRep

/-!
Types as a source package writes them. A declared type is a reference by name, so recursive
declarations are finite terms; an alias carries the type it stands for. Aliases of aliases share their
targets, so a walk that looks behind an alias does so once for each. The spelling of a type depends on
how packages are qualified, which is a parameter.
-/

namespace TypeAtlas.Source

/-- A package: its import path and the name its clause declares. -/
structure PackageRef where
  path : Text
  name : Text
  deriving DecidableEq, Repr

/-- The basic types by spelling: two of them are second names, one belongs to constants without a type,
and one to names that mean nothing. -/
inductive Basic where
  | plain (p : Primitive)
  | byte
  | rune
  | untypedInt
  | invalid
  deriving DecidableEq, Repr

def Basic.name : Basic → Text
  | .plain p => p.name
  | .byte => "byte"
  | .rune => "rune"
  | .untypedInt => "untyped int"
  | .invalid => "invalid type"

/-- The type behind a second name. -/
def Basic.canonical : Basic → Basic
  | .byte => .plain .uint8
  | .rune => .plain .int32
  | b => b

def Basic.isInteger (b : Basic) : Bool :=
  match b.canonical with
  | .plain .int | .plain .int8 | .plain .int16 | .plain .int32 | .plain .int64
  | .plain .uint | .plain .uint8 | .plain .uint16 | .plain .uint32 | .plain .uint64
  | .plain .uintptr | .untypedInt => true
  | _ => false

/-- The package of the one basic type that has a qualifier. -/
def unsafePackage : PackageRef := ⟨"unsafe", "unsafe"⟩

/-- A name with a type: a parameter, a result or a method with its signature. -/
structure Binding (τ : Type) where
  name : Text
  type : τ
  deriving Repr

/-- A field of a struct type. -/
structure Component (τ : Type) where
  name : Text
  embedded : Bool
  type : τ
  tag : Text
  deriving Repr

end Source

/-- Types of source packages. `home` is the path of the package a literal is written in, to which its
unexported names belong. -/
inductive SourceType where
  | basic (b : Source.Basic)
  | any
  | defined (package : Option Source.PackageRef) (name : Text) (args : List SourceType)
  | alias (package : Option Source.PackageRef) (name : Text) (args : List SourceType)
      (target : SourceType)
  | parameter (name : Text)
  | pointer (element : SourceType)
  | slice (element : SourceType)
  | array (length : Nat) (element : SourceType)
  | map (key value : SourceType)
  | channel (direction : Direction) (element : SourceType)
  | function (params results : List (Source.Binding SourceType)) (variadic : Bool)
  | struct (home : Text) (fields : List (Source.Component SourceType))
  | interface (home : Text) (methods : List (Source.Binding SourceType)) (embedded : List SourceType)
  deriving Repr

namespace SourceType

open Source

instance : Inhabited SourceType := ⟨.basic .invalid⟩

/-- The type behind its aliases. -/
def unalias : SourceType → SourceType
  | .alias _ _ _ t => t.unalias
  | t => t

/-! ### Spelling -/

/-- A package-level name under a qualifier, which is empty where none is needed. -/
def qualifiedText (qualify : PackageRef → Text) (package : Option PackageRef) (name : Text) : Text :=
  match package with
  | some p =>
    let q := qualify p
    if q.isEmpty then name else q ++ "." ++ name
  | none => name

/-- A receive-only channel as the element of a plain channel needs parentheses. -/
def isReceiver : SourceType → Bool
  | .channel .receive _ => true
  | _ => false

def channelText (d : Direction) (parens : Bool) (element : Text) : Text :=
  match d with
  | .send => "chan<- " ++ element
  | .receive => "<-chan " ++ element
  | .both => if parens then "chan (" ++ element ++ ")" else "chan " ++ element

/-- Results: nothing, a type, or a list in parentheses when there are several or they have names. -/
def resultsText (named : Bool) : List Text → Text
  | [] => []
  | [t] => if named then " (" ++ t ++ ")" else " " ++ t
  | ts => " (" ++ Text.join ", " ts ++ ")"

def isNamed (bindings : List (Binding SourceType)) : Bool :=
  match bindings with
  | b :: _ => !b.name.isEmpty
  | [] => false

/-- One member of a struct or interface literal as it is spelled: the whole line, its type alone, and
whether it has a name of its own and a tag. -/
structure Part where
  line : Text
  type : Text
  named : Bool
  tagged : Bool

/-- What spelling leaves open: how the members of a literal are put between braces. -/
structure Style where
  braces : Text → List Part → Text

/-- Everything on one line, without spaces inside braces. -/
def Style.plain : Style where
  braces keyword parts := keyword ++ "\x7b" ++ Text.join "; " (parts.map Part.line) ++ "\x7d"

mutual

/-- The spelling of a type. -/
def spelled (style : Style) (qualify : PackageRef → Text) : SourceType → Text
  | .basic b =>
    if b = .plain .unsafePointer then qualifiedText qualify (some unsafePackage) "Pointer" else b.name
  | .any => "any"
  | .defined p n [] | .alias p n [] _ => qualifiedText qualify p n
  | .defined p n args | .alias p n args _ =>
    qualifiedText qualify p n ++ "[" ++ Text.join ", " (spelledAll style qualify args) ++ "]"
  | .parameter n => n
  | .pointer e => "*" ++ e.spelled style qualify
  | .slice e => "[]" ++ e.spelled style qualify
  | .array n e => "[" ++ Text.ofNat n ++ "]" ++ e.spelled style qualify
  | .map k v => "map[" ++ k.spelled style qualify ++ "]" ++ v.spelled style qualify
  | .channel d e => channelText d e.isReceiver (e.spelled style qualify)
  | .function params results variadic =>
    "func(" ++ Text.join ", " (spelledParams style qualify variadic params) ++ ")" ++
      resultsText (isNamed results) (spelledParams style qualify false results)
  | .struct _ fields => style.braces "struct" (fieldParts style qualify fields)
  | .interface _ methods embedded =>
    style.braces "interface"
      (methodParts style qualify methods ++
        (spelledAll style qualify embedded).map fun t => ⟨t, t, false, false⟩)

def spelledAll (style : Style) (qualify : PackageRef → Text) : List SourceType → List Text
  | [] => []
  | t :: rest => t.spelled style qualify :: spelledAll style qualify rest

/-- Parameters with their names, if any; the last one of a variadic list shows its element type. -/
def spelledParams (style : Style) (qualify : PackageRef → Text) (variadic : Bool) :
    List (Binding SourceType) → List Text
  | [] => []
  | [⟨name, .slice e⟩] =>
    [Text.when (!name.isEmpty) (name ++ " ") ++ (if variadic then "..." else "[]") ++
      e.spelled style qualify]
  | ⟨name, t⟩ :: rest =>
    (Text.when (!name.isEmpty) (name ++ " ") ++ t.spelled style qualify) ::
      spelledParams style qualify variadic rest

def fieldParts (style : Style) (qualify : PackageRef → Text) :
    List (Component SourceType) → List Part
  | [] => []
  | ⟨name, embedded, t, tag⟩ :: rest =>
    let type := t.spelled style qualify
    ⟨Text.when (!embedded) (name ++ " ") ++ type ++ Text.when (!tag.isEmpty) (" " ++ Text.quote tag),
      type, !embedded, !tag.isEmpty⟩ :: fieldParts style qualify rest

/-- A method is its name followed by its signature without the keyword. -/
def methodParts (style : Style) (qualify : PackageRef → Text) : List (Binding SourceType) → List Part
  | [] => []
  | ⟨name, t⟩ :: rest =>
    let type := t.spelled style qualify
    ⟨name ++ type.drop 4, type, true, false⟩ :: methodParts style qualify rest

end

/-- The spelling on one line. -/
def text (qualify : PackageRef → Text) (t : SourceType) : Text :=
  t.spelled .plain qualify

/-- The spelling with full package paths. -/
def fullText (t : SourceType) : Text :=
  t.text PackageRef.path

mutual

/-- The packages a spelling mentions, in the order of their mention. -/
def packages : SourceType → List PackageRef
  | .basic b => if b = .plain .unsafePointer then [unsafePackage] else []
  | .any | .parameter _ => []
  | .defined p _ args | .alias p _ args _ => p.toList ++ packagesAll args
  | .pointer e | .slice e | .array _ e | .channel _ e => e.packages
  | .map k v => k.packages ++ v.packages
  | .function params results _ => packagesBound params ++ packagesBound results
  | .struct _ fields => packagesOf fields
  | .interface _ methods embedded => packagesBound methods ++ packagesAll embedded

def packagesAll : List SourceType → List PackageRef
  | [] => []
  | t :: rest => t.packages ++ packagesAll rest

def packagesBound : List (Binding SourceType) → List PackageRef
  | [] => []
  | ⟨_, t⟩ :: rest => t.packages ++ packagesBound rest

def packagesOf : List (Component SourceType) → List PackageRef
  | [] => []
  | ⟨_, _, t, _⟩ :: rest => t.packages ++ packagesOf rest

end

/-! ### Structural comparison -/

mutual

/-- Equality of terms. An alias is known by its name and arguments. -/
def beq : SourceType → SourceType → Bool
  | .basic a, .basic b => a == b
  | .any, .any => true
  | .defined p m as, .defined q n bs => p == q && m == n && beqAll as bs
  | .alias p m as _, .alias q n bs _ => p == q && m == n && beqAll as bs
  | .parameter m, .parameter n => m == n
  | .pointer a, .pointer b => a.beq b
  | .slice a, .slice b => a.beq b
  | .array m a, .array n b => m == n && a.beq b
  | .map k a, .map l b => k.beq l && a.beq b
  | .channel d a, .channel e b => d == e && a.beq b
  | .function p r v, .function q s w => beqBound p q && beqBound r s && v == w
  | .struct g a, .struct h b => g == h && beqFields a b
  | .interface g m a, .interface h n b => g == h && beqBound m n && beqAll a b
  | _, _ => false

def beqAll : List SourceType → List SourceType → Bool
  | [], [] => true
  | a :: as, b :: bs => a.beq b && beqAll as bs
  | _, _ => false

def beqBound : List (Binding SourceType) → List (Binding SourceType) → Bool
  | [], [] => true
  | ⟨m, a⟩ :: as, ⟨n, b⟩ :: bs => m == n && a.beq b && beqBound as bs
  | _, _ => false

def beqFields : List (Component SourceType) → List (Component SourceType) → Bool
  | [], [] => true
  | ⟨m, e, a, s⟩ :: as, ⟨n, f, b, t⟩ :: bs =>
    m == n && e == f && a.beq b && s == t && beqFields as bs
  | _, _ => false

end

instance : BEq SourceType := ⟨beq⟩

/-! ### Visibility -/

/-- The aliases that a walk has looked behind, by name and arguments. -/
abbrev Seen := List (Option PackageRef × Text × List SourceType)

/-- A name that other packages may use: exported, or of no package. -/
def isOpen (package : Option PackageRef) (name : Text) : Bool :=
  package.isNone || isExported name

mutual

/-- Looks for a name that other packages may not use, behind every alias that is not in `seen` too;
gives the aliases seen in the end, or nothing when there is such a name. The name of an alias counts
unless it stands `behind` another one. The arguments of an alias and the signatures of interface methods
are not looked into. -/
def nameableFrom (behind : Bool) (seen : Seen) : SourceType → Option Seen
  | .basic b => if b = .invalid then none else some seen
  | .any => some seen
  | .parameter _ => none
  | .defined p n args => if isOpen p n then nameableAll seen args else none
  | .alias p n args t =>
    if behind then t.nameableFrom true seen
    else if seen.contains (p, n, args) then some seen
    else if isOpen p n then t.nameableFrom true ((p, n, args) :: seen)
    else none
  | .pointer e | .slice e | .array _ e | .channel _ e => e.nameableFrom false seen
  | .map k v =>
    match k.nameableFrom false seen with
    | some seen => v.nameableFrom false seen
    | none => none
  | .function params results _ =>
    match nameableBound seen params with
    | some seen => nameableBound seen results
    | none => none
  | .struct _ fields => nameableFields seen fields
  | .interface _ methods embedded =>
    if methods.all (isExported ·.name) then nameableAll seen embedded else none

def nameableAll (seen : Seen) : List SourceType → Option Seen
  | [] => some seen
  | t :: rest =>
    match t.nameableFrom false seen with
    | some seen => nameableAll seen rest
    | none => none

def nameableBound (seen : Seen) : List (Binding SourceType) → Option Seen
  | [] => some seen
  | ⟨_, t⟩ :: rest =>
    match t.nameableFrom false seen with
    | some seen => nameableBound seen rest
    | none => none

def nameableFields (seen : Seen) : List (Component SourceType) → Option Seen
  | [] => some seen
  | ⟨n, _, t, _⟩ :: rest =>
    if isExported n then
      match t.nameableFrom false seen with
      | some seen => nameableFields seen rest
      | none => none
    else none

end

/-- Whether a type can be spelled outside the package that declares its names. -/
def nameableOutside (t : SourceType) : Bool :=
  (t.nameableFrom false []).isSome

/-! ### Instances of generic types -/

mutual

/-- Replaces type parameters by the types bound to them. Behind an alias without arguments there are
none. -/
def subst (bound : List (Text × SourceType)) : SourceType → SourceType
  | .parameter n => (bound.lookup n).getD (.parameter n)
  | .defined p n args => .defined p n (substAll bound args)
  | .alias p n [] t => .alias p n [] t
  | .alias p n args t => .alias p n (substAll bound args) (t.subst bound)
  | .pointer e => .pointer (e.subst bound)
  | .slice e => .slice (e.subst bound)
  | .array n e => .array n (e.subst bound)
  | .map k v => .map (k.subst bound) (v.subst bound)
  | .channel d e => .channel d (e.subst bound)
  | .function params results v => .function (substBound bound params) (substBound bound results) v
  | .struct h fields => .struct h (substFields bound fields)
  | .interface h methods embedded =>
    .interface h (substBound bound methods) (substAll bound embedded)
  | t => t

def substAll (bound : List (Text × SourceType)) : List SourceType → List SourceType
  | [] => []
  | t :: rest => t.subst bound :: substAll bound rest

def substBound (bound : List (Text × SourceType)) :
    List (Binding SourceType) → List (Binding SourceType)
  | [] => []
  | ⟨n, t⟩ :: rest => ⟨n, t.subst bound⟩ :: substBound bound rest

def substFields (bound : List (Text × SourceType)) :
    List (Component SourceType) → List (Component SourceType)
  | [] => []
  | ⟨n, e, t, g⟩ :: rest => ⟨n, e, t.subst bound, g⟩ :: substFields bound rest

end

end SourceType

end TypeAtlas
