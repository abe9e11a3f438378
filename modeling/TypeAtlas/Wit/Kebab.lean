import TypeAtlas.Text

/-!
Names in kebab case: the words of a name in lower case with hyphens between them. A word starts at an
underscore, at a capital after a small letter or a digit, and at the last capital of a run that a small
letter follows.
-/

namespace TypeAtlas.Kebab

def hyphen : Nat := 0x2D
def underscore : Nat := 0x5F

/-- Whether a capital after `previous` and before `next` starts a word. -/
def startsWord (previous : Option Nat) (next : Option Nat) : Bool :=
  match previous with
  | none => false
  | some p =>
    p != underscore &&
      (Text.isLower p || Text.isDigit p || (Text.isUpper p && next.any Text.isLower))

/-- Appends the words of the rest of a name to what is written so far, the last letter first. -/
def write (previous : Option Nat) (written : List Nat) : List Nat → List Nat
  | [] => written
  | c :: rest =>
    if c == underscore then
      if written.isEmpty || written.head? == some hyphen then write (some c) written rest
      else write (some c) (hyphen :: written) rest
    else
      let written :=
        if Text.isUpper c && startsWord previous rest.head? then hyphen :: written else written
      write (some c) (Text.toLower c :: written) rest

/-- Leading underscores do not count; a name of nothing else is called a field. -/
def ofName (name : Text) : Text :=
  let name := name.dropWhile (·.toNat == underscore)
  if name.isEmpty then "field"
  else
    match write none [] (Text.codes name) with
    | [] => []
    | c :: rest => Text.ofCodes (if c == hyphen then rest.reverse else (c :: rest).reverse)

end TypeAtlas.Kebab
