import TypeAtlas.Attribute

/-!
Directives: comments that ask for a declaration to be described. Three of them name what the
declaration is and exclude each other; a fourth attaches attributes and may be repeated.
-/

namespace TypeAtlas.Source

/-- The directives of one documentation comment. -/
structure Directives where
  reflect : Bool := false
  enum : Bool := false
  function : Bool := false
  attrs : List Attribute := []
  deriving DecidableEq, Repr

namespace Directives

def isEmpty (d : Directives) : Bool :=
  !d.reflect && !d.enum && !d.function && d.attrs.isEmpty

/-- The declaration itself is to be described. -/
def marks (d : Directives) : Bool :=
  d.reflect || d.enum || d.function

/-- At most one of the three. -/
def isExclusive (d : Directives) : Bool :=
  decide (d.reflect.toNat + d.enum.toNat + d.function.toNat ≤ 1)

/-- What every directive starts with. -/
def leader : Text := "//introspect:"

/-- A directive that stands alone. -/
def alone (path : List Text) (comment verb argument : Text) (d : Directives) :
    Except Fault Directives :=
  if argument.isEmpty then .ok d
  else .error (Fault.invalidAttribute path comment (verb ++ " takes no argument"))

/-- Adds what one comment says; comments that are no directives say nothing. -/
def read (path : List Text) (d : Directives) (comment : Text) : Except Fault Directives :=
  if !leader.isPrefixOf comment then .ok d
  else
    let (verb, rest) := Text.cut 0x20 (comment.drop leader.length)
    let argument := (rest.getD []).trim
    if verb == ("reflect" : Text) then alone path comment verb argument { d with reflect := true }
    else if verb == ("enum" : Text) then alone path comment verb argument { d with enum := true }
    else if verb == ("func" : Text) then alone path comment verb argument { d with function := true }
    else if verb == ("attr" : Text) then
      if argument.isEmpty then .error (Fault.invalidAttribute path comment "missing attribute")
      else (Attribute.parse argument).map fun attrs => { d with attrs := d.attrs ++ attrs }
    else .error (Fault.invalidAttribute path comment ("unknown directive " ++ verb))

/-- Reads the comments of a declaration found at `path`. -/
def parse (path : List Text) (comments : List Text) : Except Fault Directives := do
  let d ← comments.foldlM (read path) {}
  if d.isExclusive then return d
  else
    throw (Fault.of {
      path
      phase := .parse
      kind := .invalidInput
      detail := "reflect, enum and func are exclusive" })

end Directives

end TypeAtlas.Source
