import TypeAtlas.Text

/-!
Comments in lines of source text. A line comment runs to the end of its line, a block comment may span
lines. Comments form groups, which a line without any separates; the group that ends on the line right
before a declaration documents it.
-/

namespace TypeAtlas.Source.Comment

/-- What a line holds, in order: comments, or nothing at all. A comment is `flush` when nothing stands
before it on its line. -/
inductive Mark where
  | comment (flush : Bool) (text : Text)
  | gap
  deriving DecidableEq, Repr

/-- The text up to the end of a block comment, and what follows it. -/
def closeBlock : Text → Option (Text × Text)
  | [] => none
  | 0x2A :: 0x2F :: rest => some ([0x2A, 0x2F], rest)
  | b :: rest => (closeBlock rest).map fun (block, after) => (b :: block, after)

/-- The comments that end on a line, and the block it leaves open; `flush` says that the line starts
here. Each comment takes at least one byte, so the length of the line is enough fuel. -/
def inLine : Nat → Bool → Text → List Mark × Option Text
  | 0, _, _ => ([], none)
  | fuel + 1, flush, line =>
    match line.dropWhile fun b => Text.isBlank b.toNat with
    | 0x2F :: 0x2F :: rest =>
      ([.comment (flush && line.head? == some 0x2F) (0x2F :: 0x2F :: rest)], none)
    | 0x2F :: 0x2A :: rest =>
      match closeBlock rest with
      | some (block, after) =>
        let (comments, opened) := inLine fuel false after
        (.comment (flush && line.head? == some 0x2F) (0x2F :: 0x2A :: block) :: comments, opened)
      | none => ([], some (0x2F :: 0x2A :: rest))
    | _ => ([], none)

/-- The marks of a run of lines; `opened` is the text of a block that is still open. -/
def marksFrom : Option Text → List Text → List Mark
  | _, [] => []
  | some block, line :: rest =>
    match closeBlock line with
    | some (tail, after) =>
      let (comments, opened) := inLine after.length false after
      .comment false (block ++ 0x0A :: tail) :: comments ++ marksFrom opened rest
    | none => marksFrom (some (block ++ 0x0A :: line)) rest
  | none, line :: rest =>
    let (comments, opened) := inLine line.length true line
    if comments.isEmpty && opened.isNone then .gap :: marksFrom none rest
    else comments ++ marksFrom opened rest

/-- The lines as a reader sees them: every line end counts, and carriage returns are no part of the
source. -/
def clean (lines : List Text) : List Text :=
  lines.flatMap fun line => (line.filter (· != 0x0D)).splitOn 0x0A

/-- The marks of the lines before something. -/
def marks (lines : List Text) : List Mark :=
  marksFrom none (clean lines)

def Mark.text? : Mark → Option Text
  | .comment _ t => some t
  | .gap => none

/-- Every comment of a run of lines. -/
def all (lines : List Text) : List Text :=
  (marks lines).filterMap Mark.text?

/-- The comments of the group at the end, which documents the declaration that follows. -/
def documentation (lines : List Text) : List Text :=
  ((marks lines).reverse.takeWhile (· != .gap)).reverse.filterMap Mark.text?

end TypeAtlas.Source.Comment
