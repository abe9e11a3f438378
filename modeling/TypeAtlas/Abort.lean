import TypeAtlas.Failure

/-!
How an operation can end without a result: it reports a failure, or it is stopped where it stands.
-/

namespace TypeAtlas

/-- What stops an operation on the spot. -/
inductive Trap where
  /-- Something absent was read or asked for. -/
  | absent
  /-- More elements were asked for than memory can hold. -/
  | length
  /-- A member past the end of a list was read. -/
  | index (place size : Nat)
  deriving DecidableEq, Repr

def Trap.text : Trap → Text
  | .absent => "runtime error: invalid memory address or nil pointer dereference"
  | .length => "runtime error: makeslice: len out of range"
  | .index place size =>
    "runtime error: index out of range [" ++ Text.ofNat place ++ "] with length " ++ Text.ofNat size

inductive Abort where
  | failure (f : Failure)
  | trap (t : Trap)

namespace Abort

def fault (f : Fault) : Abort :=
  .failure (.fault f)

/-- An operation that fails with a fault, among those that may also be stopped. -/
def ofFault {α : Type} : Except Fault α → Except Abort α
  | .ok a => .ok a
  | .error f => .error (.fault f)

end Abort

end TypeAtlas
