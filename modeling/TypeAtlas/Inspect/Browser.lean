import TypeAtlas.Inspect.Description
import TypeAtlas.Inspect.FilterLine

/-!
The interactive browser: a list of entries to choose from, a filter, and the description of the chosen
entry. The browser is a state that changes with every message; showing it is a function of the state.
-/

namespace TypeAtlas.Inspect

open Registry (Entry)

/-- A pressed key, or text typed at once. -/
inductive Key where
  | up
  | down
  | enter
  | escape
  | interrupt
  | backspace
  | tab
  | typed (t : Text)
  deriving DecidableEq, Repr

/-- Keys are told apart by name, and typed text is its own name. -/
def Key.name : Key → Text
  | .up => "up"
  | .down => "down"
  | .enter => "enter"
  | .escape => "esc"
  | .interrupt => "ctrl+c"
  | .backspace => "backspace"
  | .tab => "tab"
  | .typed t => t

/-- The text that a key types. -/
def Key.text : Key → Text
  | .typed t => t
  | _ => []

/-- A key in the filter line. -/
def FilterLine.press (l : FilterLine) (k : Key) : Except Trap FilterLine :=
  l.edit k.name k.text

/-! ### State -/

inductive Mode where
  | select
  | filter
  | detail
  deriving DecidableEq, Repr

structure Browser where
  entries : List Entry := []
  visible : List Entry := []
  filter : FilterLine := {}
  selected : Nat := 0
  detail : Text := []
  mode : Mode := .select
  loaded : Bool := false
  error : Option Text := none

inductive Message where
  | key (k : Key)
  | loaded (entries : List Entry)
  | failed (reason : Text)

namespace Browser

def new (filter : Text) : Browser where
  filter := .ofText filter

/-- The message that brings the entries of a registry. -/
def loading (r : Registry) : Message :=
  if r.entries.isEmpty then .failed "no descriptors registered" else .loaded r.entries

/-- Shows the entries that match the filter; the selection stays among them. -/
def refresh (b : Browser) : Browser :=
  let visible := matching b.entries b.filter.value
  { b with
    visible
    selected := if visible.length ≤ b.selected then visible.length - 1 else b.selected }

def close (b : Browser) : Browser :=
  { b with mode := .select, detail := [] }

/-- Opens the description of the selected entry when there are any. Whether the selection is one of them
is not asked. -/
def openSelected (b : Browser) : Except Trap Browser :=
  if b.visible.isEmpty then .ok b
  else
    match b.visible[b.selected]? with
    | none => .error (.index b.selected b.visible.length)
    | some e => (describe e).map fun detail => { b with detail, mode := .detail }

/-- A key while the filter is edited by `edit`. -/
def filterKey (edit : FilterLine → Key → Except Trap FilterLine) (b : Browser) (k : Key) :
    Except Trap (Browser × Bool) :=
  let name := k.name
  if name == ("ctrl+c" : Text) then .ok (b, true)
  else if name == ("enter" : Text) || name == ("esc" : Text) then
    .ok ({ b with mode := .select }, false)
  else (edit b.filter k).map fun filter => (refresh { b with filter }, false)

/-- A key in the list. -/
def selectKey (b : Browser) (name : Text) : Except Trap Browser :=
  if name == ("up" : Text) || name == ("k" : Text) then
    .ok { b with selected := b.selected - 1 }
  else if name == ("down" : Text) || name == ("j" : Text) then
    .ok (if b.selected + 1 < b.visible.length then { b with selected := b.selected + 1 } else b)
  else if name == ("/" : Text) then .ok { b with mode := .filter }
  else if name == ("enter" : Text) then b.openSelected
  else .ok b

/-- A key in front of a description. -/
def detailKey (b : Browser) (name : Text) : Browser :=
  if name == ("enter" : Text) || name == ("esc" : Text) then b.close else b

/-- The state after a message, and whether it asks to quit. The filter is edited by `edit`. -/
def updateWith (edit : FilterLine → Key → Except Trap FilterLine) (b : Browser) :
    Message → Except Trap (Browser × Bool)
  | .loaded entries => .ok (refresh { b with loaded := true, entries }, false)
  | .failed reason => .ok ({ b with loaded := true, error := some reason }, false)
  | .key k =>
    match b.mode with
    | .filter => b.filterKey edit k
    | mode =>
      let name := k.name
      if name == ("ctrl+c" : Text) || name == ("q" : Text) then .ok (b, true)
      else if mode = .select then (b.selectKey name).map (·, false)
      else .ok (b.detailKey name, false)

/-- The state after messages in turn, up to the first that is stopped, and whether the last one asks to
quit. The filter is edited by `edit`. -/
def updatesWith (edit : FilterLine → Key → Except Trap FilterLine) (b : Browser) :
    List Message → Browser × Except Trap Bool
  | [] => (b, .ok false)
  | m :: rest =>
    match b.updateWith edit m with
    | .error trap => (b, .error trap)
    | .ok (b, quit) => if rest.isEmpty then (b, .ok quit) else b.updatesWith edit rest

/-- The same, with keys pressed in the filter line. -/
def updates (b : Browser) (messages : List Message) : Browser × Except Trap Bool :=
  b.updatesWith FilterLine.press messages

/-! ### View -/

/-- A kind padded to a column of eight. -/
def kindColumn (k : Kind) : Text :=
  k.keyword ++ List.replicate (8 - k.keyword.length) 0x20

def entryText (e : Entry) : Text :=
  kindColumn e.kind ++ e.name ++ Text.when e.reflected " (reflect)"

/-- Text as it is drawn: tabs take four spaces, and a carriage return before a line break is gone. -/
def drawn : Text → Text
  | 0x0D :: 0x0A :: rest => 0x0A :: drawn rest
  | b :: rest => if b == 0x09 then [0x20, 0x20, 0x20, 0x20] ++ drawn rest else b :: drawn rest
  | [] => []

def dropEnd (p : UInt8 → Bool) (t : Text) : Text :=
  (t.reverse.dropWhile p).reverse

def entryLine (selected : Bool) (e : Entry) : Text :=
  (if selected then "> " else "  ") ++ drawn (entryText e) ++ "\n"

def listText (b : Browser) : Text :=
  Text.when (b.mode == .filter || !b.filter.codes.isEmpty)
      ("filter: " ++ b.filter.shown ++ "\n\n") ++
    (b.visible.zipIdx.flatMap fun (e, i) => entryLine (i == b.selected) e) ++ "\n" ++
    (if b.mode = .filter then "type to filter • enter/esc done"
      else "↑/↓ select • enter describe • / filter • q quit")

def detailText (b : Browser) : Text :=
  drawn (dropEnd (· == 0x0A) b.detail) ++ "\n\nenter/esc back • q quit"

/-- What the browser shows. -/
def text (b : Browser) : Text :=
  match b.error with
  | some reason => "Error: " ++ reason ++ "\n\nPress q to quit."
  | none =>
    if !b.loaded then "Loading descriptors..."
    else
      " Introspect  " ++ Text.ofNat b.visible.length ++ " of " ++ Text.ofNat b.entries.length ++
        " descriptors\n\n" ++ (if b.mode = .detail then b.detailText else b.listText)

/-- The lines shown, without the spaces at their ends. -/
def lines (b : Browser) : List Text :=
  (b.text.splitOn 0x0A).map (dropEnd (· == 0x20))

end Browser

end TypeAtlas.Inspect
