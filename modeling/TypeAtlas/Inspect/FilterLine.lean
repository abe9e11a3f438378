import TypeAtlas.Abort
import TypeAtlas.Text.Width

/-!
The line in which the filter is typed: its characters, a cursor between them, and the part of the line that
is shown. A line that fits is shown whole; a longer one is shown through a window that follows the cursor.
-/

namespace TypeAtlas.Inspect

structure FilterLine where
  codes : List Nat := []
  /-- The number of characters before the cursor. -/
  cursor : Nat := 0
  /-- The window, from this character on. -/
  first : Nat := 0
  /-- The end of the window. -/
  last : Nat := 0
  deriving DecidableEq, Repr

namespace FilterLine

/-- The text of the line. -/
def value (l : FilterLine) : Text :=
  Text.ofCodes l.codes

/-! ### The window -/

/-- The columns of the window. -/
def width : Nat := 40

/-- How many of the characters after the cursor fit, when `used` columns are taken. The last may stick out
by one column. -/
def ahead (used : Nat) : List Nat → Nat
  | [] => 0
  | c :: rest =>
    if width < used then 0
    else
      let used := used + Text.Width.ofCode c
      if used ≤ width + 1 then ahead used rest + 1 else 0

/-- How many of the characters before the cursor fit, the nearest first. The first character of the line
is never counted. -/
def behind (used : Nat) : List Nat → Nat
  | c :: d :: rest =>
    if width ≤ used then 0
    else
      let used := used + Text.Width.ofCode c
      if used ≤ width then behind used (d :: rest) + 1 else 0
  | _ => 0

/-- Moves the window to where the cursor is. -/
def scroll (l : FilterLine) : FilterLine :=
  if Text.Width.ofCodes l.codes ≤ width then { l with first := 0, last := l.codes.length }
  else
    let last := min l.last l.codes.length
    if l.cursor < l.first then
      { l with first := l.cursor, last := l.cursor + ahead 0 (l.codes.drop l.cursor) }
    else if last ≤ l.cursor then
      { l with first := l.cursor - behind 0 (l.codes.take l.cursor).reverse, last := l.cursor }
    else { l with last }

/-- Puts the cursor at a place in the line. -/
def moveTo (l : FilterLine) (place : Nat) : FilterLine :=
  { l with cursor := min place l.codes.length }.scroll

/-! ### Moving by words -/

def blankAt (l : FilterLine) (place : Nat) : Bool :=
  l.codes[place]?.any Text.isBlank

def inkAt (l : FilterLine) (place : Nat) : Bool :=
  l.codes[place]?.any fun c => !Text.isBlank c

/-- Moves left while the character to the left of the cursor satisfies `p`, at most `steps` times. -/
def leftWhile (p : FilterLine → Nat → Bool) : Nat → FilterLine → FilterLine
  | 0, l => l
  | steps + 1, l =>
    if 0 < l.cursor && p l (l.cursor - 1) then leftWhile p steps (l.moveTo (l.cursor - 1)) else l

/-- Moves right while the character to the right of the cursor satisfies `p`, at most `steps` times. -/
def rightWhile (p : FilterLine → Nat → Bool) : Nat → FilterLine → FilterLine
  | 0, l => l
  | steps + 1, l => if p l l.cursor then rightWhile p steps (l.moveTo (l.cursor + 1)) else l

def wordLeft (l : FilterLine) : FilterLine :=
  leftWhile inkAt l.codes.length (leftWhile blankAt l.codes.length l)

def wordRight (l : FilterLine) : FilterLine :=
  rightWhile inkAt l.codes.length (rightWhile blankAt l.codes.length l)

/-! ### Editing -/

def isControl (c : Nat) : Bool :=
  decide (c < 0x20) || (decide (0x7F ≤ c) && decide (c ≤ 0x9F))

/-- Line breaks and tabs become spaces; other control characters and unreadable bytes are dropped. -/
def clean (t : Text) : List Nat :=
  t.codes.filterMap fun c =>
    if c == 0x09 || c == 0x0A || c == 0x0D then some 0x20
    else if isControl c || c == Text.replacement then none
    else some c

/-- A line that holds a text, with the cursor at its end. -/
def ofText (t : Text) : FilterLine :=
  let codes := clean t
  { codes, cursor := codes.length : FilterLine }.scroll

def insert (l : FilterLine) (t : Text) : FilterLine :=
  let new := clean t
  { l with
    codes := l.codes.take l.cursor ++ new ++ l.codes.drop l.cursor
    cursor := l.cursor + new.length }

/-- Takes the characters from `start` to `stop` away. -/
def cutOut (l : FilterLine) (start stop : Nat) : FilterLine :=
  { l with codes := l.codes.take start ++ l.codes.drop stop }

def eraseLeft (l : FilterLine) : FilterLine :=
  if l.cursor = 0 then l else (l.cutOut (l.cursor - 1) l.cursor).moveTo (l.cursor - 1)

def eraseRight (l : FilterLine) : FilterLine :=
  l.cutOut l.cursor (l.cursor + 1)

/-- Moves left over ink until the cursor stands on a blank or at the start, at most `steps` times. -/
def leftOverInk : Nat → FilterLine → FilterLine
  | 0, l => l
  | steps + 1, l =>
    if 0 < l.cursor && l.inkAt l.cursor then leftOverInk steps (l.moveTo (l.cursor - 1)) else l

/-- Moves left over blanks under the cursor, at most `steps` times. -/
def leftOverBlanks : Nat → FilterLine → FilterLine
  | 0, l => l
  | steps + 1, l =>
    if 0 < l.cursor && l.blankAt l.cursor then leftOverBlanks steps (l.moveTo (l.cursor - 1)) else l

/-- Takes away the word before the cursor and the blanks between; the blank before the word stays. -/
def eraseWordLeft (l : FilterLine) : FilterLine :=
  if l.cursor = 0 then l
  else
    let stop := l.cursor
    let steps := l.codes.length
    let reached := leftOverInk steps (leftOverBlanks steps (l.moveTo (stop - 1)))
    let reached := if 0 < reached.cursor then reached.moveTo (reached.cursor + 1) else reached
    reached.cutOut reached.cursor stop

/-- Takes away the character at the cursor and what is left of the next word. It looks at the character
after the cursor's without asking whether there is one. -/
def eraseWordRight (l : FilterLine) : Except Trap FilterLine :=
  let length := l.codes.length
  if length ≤ l.cursor then .ok l
  else
    let next := l.moveTo (l.cursor + 1)
    if length ≤ next.cursor then .error (.index next.cursor length)
    else
      let reached := rightWhile inkAt length (rightWhile blankAt length next)
      .ok ((reached.cutOut l.cursor reached.cursor).moveTo l.cursor)

def eraseBefore (l : FilterLine) : FilterLine :=
  { l with codes := l.codes.drop l.cursor, first := 0 }.moveTo 0

def eraseAfter (l : FilterLine) : FilterLine :=
  { l with codes := l.codes.take l.cursor }.moveTo l.cursor

/-! ### Commands -/

/-- What a key does to the line, other than being typed into it. -/
inductive Command where
  | left
  | right
  | wordLeft
  | wordRight
  | start
  | finish
  | eraseLeft
  | eraseRight
  | eraseWordLeft
  | eraseWordRight
  | eraseBefore
  | eraseAfter
  /-- Asks for something that the line does not have. -/
  | nothing
  deriving DecidableEq, Repr

/-- The commands by the names of their keys. -/
def keys : List (String × Command) :=
  [("right", .right), ("ctrl+f", .right), ("left", .left), ("ctrl+b", .left),
    ("alt+right", .wordRight), ("ctrl+right", .wordRight), ("alt+f", .wordRight),
    ("alt+left", .wordLeft), ("ctrl+left", .wordLeft), ("alt+b", .wordLeft),
    ("alt+backspace", .eraseWordLeft), ("ctrl+w", .eraseWordLeft),
    ("alt+delete", .eraseWordRight), ("alt+d", .eraseWordRight),
    ("ctrl+k", .eraseAfter), ("ctrl+u", .eraseBefore),
    ("backspace", .eraseLeft), ("ctrl+h", .eraseLeft), ("delete", .eraseRight), ("ctrl+d", .eraseRight),
    ("home", .start), ("ctrl+a", .start), ("end", .finish), ("ctrl+e", .finish),
    ("ctrl+v", .nothing), ("down", .nothing), ("ctrl+n", .nothing), ("up", .nothing),
    ("ctrl+p", .nothing)]

def Command.ofKey? (name : Text) : Option Command :=
  (keys.find? fun k => Text.ofString k.1 == name).map (·.2)

def perform (l : FilterLine) : Command → Except Trap FilterLine
  | .left => .ok (if 0 < l.cursor then l.moveTo (l.cursor - 1) else l)
  | .right => .ok (if l.cursor < l.codes.length then l.moveTo (l.cursor + 1) else l)
  | .wordLeft => .ok l.wordLeft
  | .wordRight => .ok l.wordRight
  | .start => .ok (l.moveTo 0)
  | .finish => .ok (l.moveTo l.codes.length)
  | .eraseLeft => .ok l.eraseLeft
  | .eraseRight => .ok l.eraseRight
  | .eraseWordLeft => .ok l.eraseWordLeft
  | .eraseWordRight => l.eraseWordRight
  | .eraseBefore => .ok l.eraseBefore
  | .eraseAfter => .ok l.eraseAfter
  | .nothing => .ok l

/-- The line after a key with the given name, which types the given text unless it is a command. -/
def edit (l : FilterLine) (name typed : Text) : Except Trap FilterLine :=
  match Command.ofKey? name with
  | some command => (l.perform command).map scroll
  | none => .ok (l.insert typed).scroll

/-- What is shown: the window, or a placeholder for an empty line. -/
def shown (l : FilterLine) : Text :=
  if l.codes.isEmpty then "name"
  else Text.ofCodes ((l.codes.take l.last).drop l.first)

end FilterLine

end TypeAtlas.Inspect
