import TypeAtlas.Source.Type

/-!
Source packages as their files declare them: comments, imports and declarations, with types still
written by name.
-/

namespace TypeAtlas.Source

/-- A type as it is written. In a variadic list the last parameter is the element type. -/
inductive TypeExpr where
  | name (n : Text)
  | pointer (element : TypeExpr)
  | slice (element : TypeExpr)
  | array (length : Nat) (element : TypeExpr)
  | map (key value : TypeExpr)
  | channel (direction : Direction) (element : TypeExpr)
  | function (params results : List (Binding TypeExpr)) (variadic : Bool)
  | struct (fields : List (Component TypeExpr))
  | interface (methods : List (Binding TypeExpr)) (embedded : List TypeExpr)
  | instance (generic : Text) (args : List TypeExpr)
  deriving Repr

instance : Inhabited TypeExpr := ⟨.name []⟩

namespace TypeExpr

mutual

/-- A type as a file spells it. -/
def text : TypeExpr → Text
  | .name n => n
  | .pointer e => "*" ++ e.text
  | .slice e => "[]" ++ e.text
  | .array n e => "[" ++ Text.ofNat n ++ "]" ++ e.text
  | .map k v => "map[" ++ k.text ++ "]" ++ v.text
  | .channel d e => SourceType.channelText d true e.text
  | .function params results variadic =>
    "func(" ++ Text.join ", " (boundTexts variadic params) ++ ")" ++
      SourceType.resultsText (results.any fun r => !r.name.isEmpty) (boundTexts false results)
  | .struct fields => "struct\x7b" ++ Text.join "; " (fieldTexts fields) ++ "\x7d"
  | .interface methods embedded =>
    "interface\x7b" ++ Text.join "; " (methodTexts methods ++ texts embedded) ++ "\x7d"
  | .instance generic args => generic ++ "[" ++ Text.join ", " (texts args) ++ "]"

def texts : List TypeExpr → List Text
  | [] => []
  | e :: rest => e.text :: texts rest

/-- Parameters; dots stand before the last one of a variadic list. -/
def boundTexts (variadic : Bool) : List (Binding TypeExpr) → List Text
  | [] => []
  | ⟨n, e⟩ :: rest =>
    (Text.when (!n.isEmpty) (n ++ " ") ++ Text.when (variadic && rest.isEmpty) "..." ++ e.text) ::
      boundTexts variadic rest

def methodTexts : List (Binding TypeExpr) → List Text
  | [] => []
  | ⟨n, e⟩ :: rest => (n ++ e.text.drop 4) :: methodTexts rest

def fieldTexts : List (Component TypeExpr) → List Text
  | [] => []
  | ⟨n, embedded, e, tag⟩ :: rest =>
    (Text.when (!embedded) (n ++ " ") ++ e.text ++
      Text.when (!tag.isEmpty) (" " ++ Text.quote tag)) :: fieldTexts rest

end

mutual

/-- The names that occur in a type. -/
def mentions : TypeExpr → List Text
  | .name n => [n]
  | .pointer e | .slice e | .array _ e | .channel _ e => e.mentions
  | .map k v => k.mentions ++ v.mentions
  | .function params results _ => boundMentions params ++ boundMentions results
  | .struct fields => fieldMentions fields
  | .interface methods embedded => boundMentions methods ++ allMentions embedded
  | .instance generic args => generic :: allMentions args

def allMentions : List TypeExpr → List Text
  | [] => []
  | e :: rest => e.mentions ++ allMentions rest

def boundMentions : List (Binding TypeExpr) → List Text
  | [] => []
  | ⟨_, e⟩ :: rest => e.mentions ++ boundMentions rest

def fieldMentions : List (Component TypeExpr) → List Text
  | [] => []
  | ⟨_, _, e, _⟩ :: rest => e.mentions ++ fieldMentions rest

end

end TypeExpr

/-- `[K, V any]`, or nothing without parameters. -/
def paramsText (params : List Text) : Text :=
  Text.when (!params.isEmpty) ("[" ++ Text.join ", " params ++ " any]")

structure TypeSpec where
  name : Text
  doc : List Text
  params : List Text
  isAlias : Bool
  definition : TypeExpr

/-- Constants or variables declared together. A value is a literal or the name of a constant. -/
structure ValueSpec where
  names : List Text
  doc : List Text
  type : Option TypeExpr
  values : List Text

/-- The receiver of a method: the name of a type, and names for the parameters of that type. -/
structure Receiver where
  type : Text
  params : List Text
  pointer : Bool

/-- Reads `Pair[K, V]`. -/
def Receiver.ofText (t : Text) (pointer : Bool) : Receiver :=
  match Text.cut 0x5B t with
  | (type, some params) =>
    ⟨type.trim, ((Text.cut 0x5D params).1.splitOn 0x2C).map Text.trim, pointer⟩
  | (type, none) => ⟨type, [], pointer⟩

def Receiver.text (r : Receiver) : Text :=
  Text.when r.pointer "*" ++ r.type ++
    Text.when (!r.params.isEmpty) ("[" ++ Text.join ", " r.params ++ "]")

/-- Top-level declarations. The documentation of a group belongs to its only member, if it has one. -/
inductive Declaration where
  | types (doc : List Text) (specs : List TypeSpec)
  | values (constant : Bool) (doc : List Text) (specs : List ValueSpec)
  | function (doc : List Text) (name : Text) (receiver : Option Receiver) (params : List Text)
      (signature : TypeExpr)

/-- An import, under a name of its own or that of the package. Under a dot the names of the package are
used as they are. -/
structure Import where
  path : Text
  name : Option Text

/-- A file; `header` holds the lines before the package clause and `remarks` those after it. -/
structure File where
  name : Text
  header : List Text
  remarks : List Text
  imports : List Import
  declarations : List Declaration

structure Package where
  ref : PackageRef
  files : List File

/-- The lines before the package clause. A byte order mark at the very start is no part of them. -/
def File.lines (f : File) : List Text :=
  match f.header with
  | (0xEF :: 0xBB :: 0xBF :: line) :: rest => line :: rest
  | lines => lines

end TypeAtlas.Source
