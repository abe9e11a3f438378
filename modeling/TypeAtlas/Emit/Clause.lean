import TypeAtlas.Source.Comment

/-!
Package clauses. What is given as the name of a package may hold blanks and comments around the name.
It is read as a file would read it after the word `package`, and written with one blank or line end
between its parts: a comment keeps the line it stands on.
-/

namespace TypeAtlas.Emit

open Source

/-! ### Names -/

def keywords : List Text :=
  ["break", "case", "chan", "const", "continue", "default", "defer", "else", "fallthrough", "for",
    "func", "go", "goto", "if", "import", "interface", "map", "package", "range", "return", "select",
    "struct", "switch", "type", "var"]

def isIdentifierStart (c : Nat) : Bool :=
  c == 0x5F || Text.isLetter c

def isIdentifierPart (c : Nat) : Bool :=
  isIdentifierStart c || Text.isDigit c

/-- A name that can stand in a package clause. -/
def isIdentifier (t : Text) : Bool :=
  match t.codes with
  | [] => false
  | c :: rest => isIdentifierStart c && rest.all isIdentifierPart && !keywords.contains t

/-! ### Reading -/

/-- A comment in a clause; `broken` says that a line ends between it and what stands before it. -/
structure Remark where
  broken : Bool
  text : Text
  deriving DecidableEq, Repr

/-- Carriage returns are no part of a comment. -/
def Remark.of (broken : Bool) (t : Text) : Remark :=
  ⟨broken, t.filter (· != 0x0D)⟩

def Remark.isLine (r : Remark) : Bool :=
  ("//" : Text).isPrefixOf r.text

/-- The lines of the source go on after the comment's own. -/
def Remark.endsLine (r : Remark) : Bool :=
  r.isLine || r.text.contains 0x0A

/-- Characters that may stand nowhere, not even in comments. -/
def isBarred (c : Nat) : Bool :=
  c == 0 || c == 0xFEFF

/-- Reads comments and the blanks around them: gives them with what follows, and whether a line ends
before that. Each step takes at least one byte, so the length of the text is enough fuel. -/
def remarks : Nat → Bool → Text → Option (List Remark × Bool × Text)
  | 0, broken, t => some ([], broken, t)
  | fuel + 1, broken, t =>
    match t with
    | 0x20 :: rest | 0x09 :: rest | 0x0D :: rest => remarks fuel broken rest
    | 0x0A :: rest => remarks fuel true rest
    | 0x2F :: 0x2F :: rest =>
      (remarks fuel false (rest.dropWhile (· != 0x0A))).map fun (more, after) =>
        (Remark.of broken (0x2F :: 0x2F :: rest.takeWhile (· != 0x0A)) :: more, after)
    | 0x2F :: 0x2A :: rest =>
      match Comment.closeBlock rest with
      | none => none
      | some (block, after) =>
        (remarks fuel false after).map fun (more, after) =>
          (Remark.of broken (0x2F :: 0x2A :: block) :: more, after)
    | t => some ([], broken, t)

/-- A name with the comments around it. -/
structure Clause where
  before : List Remark
  name : Text
  after : List Remark
  deriving DecidableEq, Repr

namespace Clause

/-- Reads what stands after a name: comments and, on the same line, at most one semicolon. -/
def readRest (t : Text) : Option (List Remark) :=
  match remarks t.length false t with
  | some (found, _, []) => some found
  | some (found, broken, 0x3B :: rest) =>
    if broken || found.any fun r => r.broken || r.endsLine then none
    else
      match remarks rest.length false rest with
      | some (more, _, []) => some (found ++ more)
      | _ => none
  | _ => none

/-- Reads a clause. -/
def parse? (t : Text) : Option Clause :=
  if t.codes.any isBarred then none
  else
    match remarks t.length false t with
    | none => none
    | some (before, _, t) =>
      let name := Text.ofRunes (t.runes.takeWhile fun r => isIdentifierPart r.code)
      if isIdentifier name then (readRest (t.drop name.length)).map fun after => ⟨before, name, after⟩
      else none

/-! ### Writing -/

/-- A comment after what stands before it. -/
def remarkText (r : Remark) : Text :=
  (if r.broken then 0x0A else 0x20) :: r.text

/-- What separates the name from the comments before it. -/
def gap (before : List Remark) : Text :=
  match before.getLast? with
  | some r => if r.isLine then "\n" else Text.when (!r.endsLine) " "
  | none => " "

/-- The clause as a file has it. -/
def text (c : Clause) : Text :=
  "package" ++ c.before.flatMap remarkText ++ gap c.before ++ c.name ++ c.after.flatMap remarkText

end Clause

end TypeAtlas.Emit
