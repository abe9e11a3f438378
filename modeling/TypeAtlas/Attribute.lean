import TypeAtlas.Failure
import TypeAtlas.Text.Quoted

/-!
Attributes: the metadata attached to types, fields, variants, functions and parameters. A list of
attributes is written as entries `name` or `name=value` between commas; a quoted value may itself
contain commas. Field attributes come from the `introspect` key of a field's tag.
-/

namespace TypeAtlas

/-- A flag, or a named value when `hasValue` holds. -/
structure Attribute where
  name : Text
  value : Text
  hasValue : Bool
  deriving DecidableEq, Repr, Inhabited

namespace Attribute

def flag (name : Text) : Attribute :=
  ⟨name, [], false⟩

def valued (name value : Text) : Attribute :=
  ⟨name, value, true⟩

/-- `name` for a flag, `name = "value"` otherwise, the value as it is. -/
def render (a : Attribute) : Text :=
  if a.hasValue then a.name ++ " = \"" ++ a.value ++ "\"" else a.name

/-- The first attribute with the given name. -/
def lookup? (attrs : List Attribute) (name : Text) : Option Attribute :=
  attrs.find? (·.name == name)

def has (attrs : List Attribute) (name : Text) : Bool :=
  (lookup? attrs name).isSome

/-- A stretch of an attribute list between two commas, `closed` unless its last quote is open. -/
structure Entry where
  text : Text
  closed : Bool
  deriving DecidableEq, Repr

/-- Puts a byte in front of the first entry. -/
def Entry.push (b : UInt8) : List Entry → List Entry
  | [] => [⟨[b], true⟩]
  | e :: rest => { e with text := b :: e.text } :: rest

/-- Splits at the commas outside quotes. A backslash inside quotes hides the byte after it. -/
def entries (quoted : Bool) : Text → List Entry
  | [] => [⟨[], !quoted⟩]
  | b :: rest =>
    if quoted && b == Text.backslash then
      match rest with
      | [] => [⟨[b], false⟩]
      | c :: rest => Entry.push b (Entry.push c (entries quoted rest))
    else if b == Text.quoteMark then Entry.push b (entries (!quoted) rest)
    else if b == 0x2C && !quoted then ⟨[], true⟩ :: entries false rest
    else Entry.push b (entries quoted rest)

/-- Bytes that may not stand in a name: space, tab and double quote. -/
def forbiddenInName (b : UInt8) : Bool :=
  b == 0x20 || b == 0x09 || b == Text.quoteMark

/-- Reads one entry. -/
def ofEntry (e : Entry) : Except Fault Attribute :=
  let text := e.text.trim
  if !e.closed then .error (Fault.invalidAttribute [] text "unterminated quoted value")
  else
    let (name, value) := Text.cut 0x3D text
    let name := name.trim
    if name.isEmpty then .error (Fault.invalidAttribute [] text "empty name")
    else if name.any forbiddenInName then
      .error (Fault.invalidAttribute [] text "name contains whitespace or quotes")
    else
      match value with
      | none => .ok (flag name)
      | some value =>
        let value := value.trim
        if value.head? == some Text.quoteMark then
          match Text.unquote? value with
          | some v => .ok (valued name v)
          | none => .error (Fault.invalidAttribute [] text "malformed quoted value")
        else .ok (valued name value)

/-- The entries of a list, without a blank one after the last comma. -/
def entriesOf (t : Text) : List Entry :=
  let all := entries false t.trim
  match all.getLast? with
  | some e => if e.closed && e.text.trim.isEmpty then all.dropLast else all
  | none => all

/-- Reads a list of attributes; the first entry that cannot be read is the error. -/
def parse (t : Text) : Except Fault (List Attribute) :=
  (entriesOf t).mapM ofEntry

/-! ### Field tags -/

/-- The key under which a tag carries attributes. -/
def tagKey : Text := "introspect"

def isTagKeyByte (b : UInt8) : Bool :=
  decide (0x20 < b) && b != 0x3A && b != Text.quoteMark && b != 0x7F

/-- The quoted value at the front, both quotes included, and the rest; `opened` after the first. -/
def takeQuoted? (opened : Bool) : Text → Option (Text × Text)
  | [] => none
  | b :: rest =>
    if opened && b == Text.quoteMark then some ([b], rest)
    else if opened && b == Text.backslash then
      match rest with
      | [] => none
      | c :: rest => (takeQuoted? true rest).map fun (q, r) => (b :: c :: q, r)
    else (takeQuoted? true rest).map fun (q, r) => (b :: q, r)

/-- The pairs `key:"value"` of a tag up to its first malformed part, values still quoted. Each pair
takes at least one byte, so the length of the tag is enough fuel. -/
def tagPairs : Nat → Text → List (Text × Text)
  | 0, _ => []
  | fuel + 1, tag =>
    let tag := tag.dropWhile (· == 0x20)
    let key := tag.takeWhile isTagKeyByte
    match tag.dropWhile isTagKeyByte with
    | colon :: rest =>
      if key.isEmpty || colon != 0x3A || rest.head? != some Text.quoteMark then []
      else
        match takeQuoted? false rest with
        | some (value, rest) => (key, value) :: tagPairs fuel rest
        | none => []
    | [] => []

/-- The attribute text of a tag: the value of its first pair with our key, if it can be read. -/
def tagText? (tag : Text) : Option Text := do
  let value ← (tagPairs tag.length tag).lookup tagKey
  Text.unquote? value

/-- The attributes that a field's tag carries. -/
def ofTag (tag : Text) : Except Fault (List Attribute) :=
  match tagText? tag with
  | some t => parse t
  | none => .ok []

end Attribute

end TypeAtlas
