import TypeAtlas.Failure

/-!
Names for generated declarations. Descriptors that join the package they describe end in `Info`; those
of unexported things are unexported. Every name may be declared once.
-/

namespace TypeAtlas.Emit

/-- The text with its first letter in upper case. -/
def upperFirst (t : Text) : Text :=
  match t.runes with
  | [] => []
  | r :: rest => Text.encode (Text.toUpper r.code) ++ Text.ofRunes rest

/-- Lowers capitals up to the one that starts the next word; `first` is lowered in any case. -/
def lowerRun (first : Bool) : List Nat → List Nat
  | [] => []
  | c :: rest =>
    if !Text.isUpper c || (!first && rest.head?.any Text.isLower) then c :: rest
    else Text.toLower c :: lowerRun false rest

/-- The text with its leading run of capitals in lower case. -/
def lowerFirst (t : Text) : Text :=
  Text.ofCodes (lowerRun true t.codes)

/-- The name of a member together with that of its owner. -/
def memberBase (owner member : Text) : Text :=
  owner ++ upperFirst member

/-- What can start a word inside a name. -/
def startsWord (t : Text) : Bool :=
  match t.runes with
  | r :: _ => Text.isUpper r.code || Text.isDigit r.code || r.code == 0x5F
  | [] => false

/-- The name of a variant together with that of its enum, which is not repeated in front of a word. -/
def variantBase (enum variant : Text) : Text :=
  if enum.isPrefixOf variant && startsWord (variant.drop enum.length) then variant
  else memberBase enum variant

/-- The name of a parameter together with that of its function; without a name it has its position. -/
def paramBase (function param : Text) (position : Int) : Text :=
  if param.isEmpty then function ++ "Param" ++ Text.ofInt position else memberBase function param

/-- The name of a descriptor, in a package of its own or beside what it describes. -/
def descriptorName (foreign : Bool) (base : Text) (exported : Bool) : Text :=
  let name := if foreign then base else base ++ "Info"
  if exported then name else lowerFirst name

/-- The name of the constant that holds a member's index. -/
def indexName (descriptor : Text) : Text :=
  lowerFirst descriptor ++ "Index"

/-- The names that cannot be declared any more. -/
structure Names where
  taken : List Text
  used : List Text := []

namespace Names

/-- Another package starts with no names taken. -/
def start (foreign : Bool) (taken : List Text) : Names :=
  ⟨if foreign then [] else taken, []⟩

def isFree (s : Names) (name : Text) : Bool :=
  !s.used.contains name && !s.taken.contains name

/-- Declares names in order up to the first that is not free, which is the second result. -/
def claim (s : Names) : List Text → Names × Option Text
  | [] => (s, none)
  | name :: rest =>
    if s.isFree name then { s with used := name :: s.used }.claim rest else (s, some name)

end Names

def declaredTwice (name : Text) : Fault :=
  Fault.of {
    phase := .generate
    kind := .duplicate
    detail := "identifier " ++ Text.quote name ++ " declared twice" }

end TypeAtlas.Emit
