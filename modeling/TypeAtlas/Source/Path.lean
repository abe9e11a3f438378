import TypeAtlas.Text

/-!
Paths of files. A path is read element by element between slashes; its short form has no empty element,
no `.`, and `..` only in front of a path that does not start at the root.
-/

namespace TypeAtlas.Source.Path

/-- A path that starts at the root. -/
def isRooted (path : Text) : Bool :=
  path.head? == some 0x2F

/-- Adds an element to a path, whose elements are given from the last one on. -/
def step (rooted : Bool) (path : List Text) (element : Text) : List Text :=
  if element.isEmpty || element == ("." : Text) then path
  else if element == (".." : Text) then
    match path with
    | last :: rest => if last == (".." : Text) then element :: path else rest
    | [] => if rooted then [] else [element]
  else element :: path

/-- The short form of a path. -/
def clean (path : Text) : Text :=
  let rooted := isRooted path
  let body := Text.join [0x2F] ((path.splitOn 0x2F).foldl (step rooted) []).reverse
  if rooted then 0x2F :: body else if body.isEmpty then "." else body

/-- The part of a path up to its last slash. -/
def directory (path : Text) : Text :=
  (path.reverse.dropWhile (· != 0x2F)).reverse

/-- The part of a path after its last slash. -/
def last (path : Text) : Text :=
  (path.reverse.takeWhile (· != 0x2F)).reverse

/-- A path as it is seen from a directory. -/
def within (directory path : Text) : Text :=
  let short := clean path
  if isRooted short || directory.isEmpty then short else clean (directory ++ 0x2F :: short)

end TypeAtlas.Source.Path
