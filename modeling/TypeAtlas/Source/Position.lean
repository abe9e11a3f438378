import TypeAtlas.Source.Object
import TypeAtlas.Source.Path

/-!
Where names stand. A file lies in the source as its parts are written one after the other, and a name
has the offset of its first byte. A comment such as `line other:7` moves all that follows it to another
file by name: the offset stays that of the file that really holds the name.
-/

namespace TypeAtlas.Source

/-- A place in the source: the file it is said to belong to, and its offset in the file that holds it. -/
structure Position where
  file : Text
  offset : Nat
  deriving DecidableEq, Repr

/-- Names in one file stand in the order of their offsets. -/
def Position.lt (a b : Position) : Bool :=
  Text.lt a.file b.file || (a.file == b.file && decide (a.offset < b.offset))

/-! ### Comments that move what follows -/

/-- A number written in decimal digits only. -/
def decimal? (t : Text) : Option Nat :=
  if !t.isEmpty && t.all (fun b => decide (0x30 ≤ b) && decide (b ≤ 0x39)) then
    some (t.foldl (fun n b => n * 10 + (b.toNat - 0x30)) 0)
  else none

/-- Splits a text at its last colon, behind which a number stands. -/
def numbered? (t : Text) : Option (Text × Nat) :=
  match Text.cut 0x3A t.reverse with
  | (digits, some before) => (decimal? digits.reverse).map (before.reverse, ·)
  | (_, none) => none

namespace Comment

/-- What a comment says about the line that follows: `file:line` or `file:line:column`. -/
def lineDirective? : Mark → Option Text
  | .gap => none
  | .comment flush text =>
    if ("/*line " : Text).isPrefixOf text then some ((text.drop 7).take (text.length - 9))
    else if flush && ("//line " : Text).isPrefixOf text then some (text.drop 7)
    else none

/-- The file that the directive `d` names, seen from the directory of the file that holds it. Without a
name it is no file or, when a column is given, still the current one. -/
def directed (directory current d : Text) : Text :=
  let named (file : Text) : Text := if file.isEmpty then [] else Path.within directory file
  match numbered? d with
  | none => current
  | some (front, _) =>
    match numbered? front with
    | some (file, _) => if file.isEmpty then current else named file
    | none => named front

/-- The file that is current after a comment. -/
def relocate (directory current : Text) (m : Mark) : Text :=
  match lineDirective? m with
  | some d => directed directory current d
  | none => current

end Comment

/-! ### Walking through a file -/

/-- The position in a file that has been walked through so far. -/
structure Cursor where
  directory : Text
  position : Position

namespace Cursor

/-- Goes past a piece of text. -/
def skip (c : Cursor) (t : Text) : Cursor :=
  { c with position.offset := c.position.offset + t.length }

/-- Goes past lines of comments. -/
def read (c : Cursor) (lines : List Text) : Cursor :=
  let file := (Comment.marks lines).foldl (Comment.relocate c.directory) c.position.file
  { c with position := ⟨file, c.position.offset + lines.foldr (fun line n => line.length + 1 + n) 0⟩ }

/-- The positions of names in a list, and the cursor behind it. -/
def names (c : Cursor) : List Text → List Position × Cursor
  | [] => ([], c)
  | [n] => ([c.position], c.skip n)
  | n :: rest =>
    let (positions, after) := ((c.skip n).skip ", ").names rest
    (c.position :: positions, after)

end Cursor

namespace Declaration

/-- What follows the name of a type up to the end of the line. -/
def typeTail (s : TypeSpec) : Text :=
  paramsText s.params ++ (if s.isAlias then " = " else " ") ++ s.definition.text ++ "\n"

/-- What follows names with values up to the end of the line. -/
def valueTail (s : ValueSpec) : Text :=
  let type : Text := s.type.toList.flatMap fun t => 0x20 :: t.text
  type ++ Text.when (!s.values.isEmpty) (" = " ++ Text.join ", " s.values) ++ "\n"

/-- Walks through the members of a declaration; several of them, or one with lines of its own, stand in
parentheses. -/
def walkSpecs {α : Type} (keyword : Text) (doc : α → List Text)
    (walk : Cursor → α → List Position × Cursor) (c : Cursor) (specs : List α) :
    List Position × Cursor :=
  match specs with
  | [s] =>
    if (doc s).isEmpty then walk (c.skip (keyword ++ " ")) s
    else
      let (positions, after) := walk ((c.skip (keyword ++ " (\n")).read (doc s)) s
      (positions, after.skip ")\n")
  | _ =>
    let (positions, after) := specs.foldl (fun (positions, c) s =>
      let (more, after) := walk (c.read (doc s)) s
      (positions ++ more, after)) ([], c.skip (keyword ++ " (\n"))
    (positions, after.skip ")\n")

/-- The positions of the names that a declaration introduces, and the cursor behind it. -/
def walk (c : Cursor) : Declaration → List Position × Cursor
  | .types doc specs =>
    walkSpecs "type" TypeSpec.doc
      (fun c s => ([c.position], c.skip (s.name ++ typeTail s))) (c.read doc) specs
  | .values constant doc specs =>
    walkSpecs (if constant then "const" else "var") ValueSpec.doc
      (fun c s =>
        let (positions, after) := c.names s.names
        (positions, after.skip (valueTail s))) (c.read doc) specs
  | .function doc name receiver params signature =>
    let tail := name ++ paramsText params ++ signature.text.drop 4 ++ " \x7b panic(0) \x7d\n"
    match receiver with
    | none =>
      let start := (c.read doc).skip "func "
      ([start.position], start.skip tail)
    | some r => ([], (c.read doc).skip ("func (" ++ r.text ++ ") " ++ tail))

/-- The positions of the names that declarations introduce; an empty line stands between two. -/
def walkAll : Cursor → List Declaration → List Position
  | _, [] => []
  | c, d :: rest =>
    let (positions, after) := d.walk c
    positions ++ walkAll (after.skip "\n") rest

end Declaration

namespace File

/-- The place of the package clause. -/
def clause (f : File) : Cursor :=
  let start : Cursor := ⟨Path.directory f.name, ⟨f.name, 0⟩⟩
  (start.read f.lines).skip (Text.when (!f.header.isEmpty) "\n")

/-- An import as it is written. -/
def importText (i : Import) : Text :=
  let name : Text := i.name.toList.flatMap fun n => n ++ [0x20]
  "import " ++ name ++ Text.quote i.path ++ "\n"

/-- The positions of the names that a file declares, in their order. -/
def positions (name : Text) (f : File) : List Position :=
  let start := (f.clause.skip ("package " ++ name ++ "\n\n")).read f.remarks
  Declaration.walkAll (start.skip (f.imports.flatMap importText)) f.declarations

end File

/-- The names of all files of a package with their positions. -/
def Package.placed (p : Package) : List (Entry × Position) :=
  p.files.flatMap fun f => f.entries.zip (f.positions p.ref.name)

end TypeAtlas.Source
