import TypeAtlas.Emit.Import

/-!
Pieces of generated code. A piece says what it refers to; how that is spelled depends on the names under
which packages are imported, and the packages to import are those that the pieces mention. Code is
spelled twice: as it is first written, on which line lengths are measured, and in the layout of a
formatted file.
-/

namespace TypeAtlas.Emit

open Source

inductive Piece where
  | text (t : Text)
  /-- A reference to an identifier that the generated file declares. -/
  | generated (name : Text)
  /-- An identifier of the package that is described. -/
  | source (name : Text)
  /-- An identifier of a package that is always imported. -/
  | imported (package : PackageRef) (name : Text)
  | type (t : SourceType)

abbrev Code := List Piece

instance : Coe String Code := ⟨fun s => [.text s]⟩

/-- Codes with commas between them. -/
def separated : List Code → Code
  | [] => []
  | [c] => c
  | c :: rest => c ++ (", " : Code) ++ separated rest

/-- The identifiers of the generated file that code refers to. -/
def generatedNames (code : Code) : List Text :=
  code.filterMap fun
    | .generated n => some n
    | _ => none

/-- A part of a line: an identifier of the file where it is declared, or other code. -/
inductive Fragment where
  | declared (name : Text)
  | code (c : Code)

/-- A line of a generated file. Only here can an identifier be declared: no method or value does. -/
abbrev Line := List Fragment

instance : Coe Code Line := ⟨fun c => [.code c]⟩

instance : Coe String Line := ⟨fun s => [.code s]⟩

/-- Lines between a first and a last one. -/
def block (first : Line) (inner : List Line) (last : Line) : List Line :=
  first :: inner ++ [last]

namespace Line

/-- The identifiers that a line declares. -/
def declares (l : Line) : List Text :=
  l.filterMap fun
    | .declared name => some name
    | .code _ => none

/-- The code around them. -/
def code (l : Line) : Code :=
  l.flatMap fun
    | .declared _ => []
    | .code c => c

end Line

/-- How names are spelled: the package described, whether it has to be imported, and the imports. -/
structure Spelling where
  package : PackageRef
  foreign : Bool
  imports : ImportSet

namespace Spelling

/-- The names of the package itself need no qualifier beside it. -/
def isHome (s : Spelling) (p : PackageRef) : Bool :=
  !s.foreign && p == s.package

def qualify (s : Spelling) (p : PackageRef) : Text :=
  if s.isHome p then [] else s.imports.localName p.path

/-- Imports a package if its names need a qualifier. -/
def useQualified (s : Spelling) (p : PackageRef) : Spelling :=
  if s.isHome p then s else { s with imports := s.imports.use p }

def use (s : Spelling) (p : PackageRef) : Spelling :=
  { s with imports := s.imports.use p }

def standardPackage (name : Text) : PackageRef := ⟨name, name⟩

/-- Imports what the spelling of a type mentions. -/
def useType (s : Spelling) (t : SourceType) : Spelling :=
  let s := t.packages.foldl useQualified s
  if Text.occursIn "unsafe.Pointer" (t.text s.qualify) then s.use (standardPackage "unsafe") else s

def usePiece (s : Spelling) : Piece → Spelling
  | .text _ | .generated _ => s
  | .source _ => s.useQualified s.package
  | .imported p _ => s.use p
  | .type t => s.useType t

end Spelling

/-! ### Layout -/

/-- A literal with one short member stays on a line; others have a line for each member. -/
def fits (p : SourceType.Part) : Bool :=
  !p.tagged && !p.type.contains 0x0A && decide (p.named.toNat + p.type.length ≤ 30)

def formattedBraces (keyword : Text) (parts : List SourceType.Part) : Text :=
  let spread : Text :=
    keyword ++ " \x7b\n" ++ (parts.flatMap fun p => (p.line ++ "\n" : Text)) ++ "\x7d"
  match parts with
  | [] => keyword ++ "\x7b\x7d"
  | [p] => if fits p then keyword ++ "\x7b " ++ p.line ++ " \x7d" else spread
  | _ => spread

/-- The layout of a formatted file. -/
def formattedStyle : SourceType.Style := ⟨formattedBraces⟩

namespace Spelling

def piece (s : Spelling) (style : SourceType.Style) : Piece → Text
  | .text t => t
  | .generated n => n
  | .source n => SourceType.qualifiedText s.qualify (some s.package) n
  | .imported p n => s.imports.localName p.path ++ "." ++ n
  | .type t => t.spelled style s.qualify

def code (s : Spelling) (style : SourceType.Style) (c : Code) : Text :=
  c.flatMap (s.piece style)

/-- The text as it is first written. -/
def plain (s : Spelling) (c : Code) : Text :=
  s.code .plain c

/-- The text in the layout of a formatted file. -/
def formatted (s : Spelling) (c : Code) : Text :=
  s.code formattedStyle c

end Spelling

namespace Spelling

/-- A line in the layout of a formatted file. -/
def line (s : Spelling) (l : Line) : Text :=
  l.flatMap fun
    | .declared name => name
    | .code c => s.formatted c

/-- Lines one below the other. -/
def lines (s : Spelling) (ls : List Line) : Text :=
  ls.flatMap fun l => s.line l ++ ("\n" : Text)

end Spelling

/-! ### Methods -/

/-- The longest line a method may take. -/
def lineLimit : Nat := 100

/-- A method with a line for each statement. -/
def spreadMethod (header : Code) (body : List Code) : List Line :=
  block (header ++ (" \x7b" : Code) : Code) (body.map fun c => [.code c]) "\x7d"

/-- A method with one statement stays on one line if it fits as first written and as formatted. -/
def methodLines (s : Spelling) (header : Code) (body : List Code) : List Line :=
  match body with
  | [statement] =>
    let line := header ++ (" \x7b " : Code) ++ statement ++ (" \x7d" : Code)
    let head := s.formatted header
    let stmt := s.formatted statement
    if (s.plain line).length ≤ lineLimit ∧ !(head ++ stmt).contains 0x0A ∧
        head.length + stmt.length ≤ lineLimit then
      [line]
    else spreadMethod header body
  | _ => spreadMethod header body

end TypeAtlas.Emit
