import TypeAtlas.Source.Scope

/-!
The values of integer constants. A value is an integer in one of the notations below, the name of a
constant, or the place of the constant in its group; signs may stand before it. A constant without a
type of its own has that of the constant it names. Any other expression has to be evaluated beforehand: its
value is not read, and neither is that of a constant that names it.
-/

namespace TypeAtlas.Source

/-! ### Notations -/

/-- The value of a digit, of up to sixteen. -/
def digitValue? (b : UInt8) : Option Nat :=
  let c := b.toNat
  if 0x30 ≤ c ∧ c ≤ 0x39 then some (c - 0x30)
  else if 0x61 ≤ c ∧ c ≤ 0x66 then some (c - 0x57)
  else if 0x41 ≤ c ∧ c ≤ 0x46 then some (c - 0x37)
  else none

/-- Reads digits of the given base. -/
def digits? (base : Nat) (t : Text) : Option Nat :=
  t.foldlM (fun n b => do
    let d ← digitValue? b
    if d < base then some (n * base + d) else none) 0

/-- Reads digits after the letter that names their base; after none they are octal. -/
def based? : Text → Option Nat
  | [] => some 0
  | b :: rest =>
    if b == 0x78 || b == 0x58 then digits? 16 rest
    else if b == 0x6F || b == 0x4F then digits? 8 rest
    else if b == 0x62 || b == 0x42 then digits? 2 rest
    else digits? 8 (b :: rest)

/-- Reads an integer: decimal, or in the base that follows a zero. Low lines between digits only help
the eye. -/
def integer? : Text → Option Nat
  | [] => none
  | b :: rest =>
    let rest := rest.filter (· != 0x5F)
    if b == 0x30 then based? rest else digits? 10 (b :: rest)

/-- Whether the signs before an operand negate it, and the operand. -/
def signs : Text → Bool × Text
  | 0x2D :: rest =>
    let (negative, operand) := signs rest
    (!negative, operand)
  | 0x2B :: rest | 0x20 :: rest => signs rest
  | operand => (false, operand)

/-! ### Values -/

/-- The name that stands for the place of a constant in its group. -/
def placeName : Text := "iota"

namespace Scope

/-- The type and the value of a constant or variable. A chain of names is followed for as many steps as
there are names. There is no value if it is in none of the forms above, and then there is no valid type
either where none is declared. -/
def valueFrom (s : Scope) (d : Definition) : Nat → SourceType × Option Int
  | 0 => (.basic .invalid, none)
  | fuel + 1 =>
    let (negative, operand) := signs d.value
    let (inherited, n) : SourceType × Option Int :=
      match integer? operand with
      | some n => (.basic .untypedInt, some (Int.ofNat n))
      | none =>
        match s.entry? operand with
        | some (p, ⟨f, _, _, _, .constant c⟩) => valueFrom ⟨s.world, p, f, []⟩ c fuel
        | some _ => (.basic .invalid, none)
        | none =>
          if operand == placeName then (.basic .untypedInt, some (Int.ofNat d.ordinal))
          else (.basic .invalid, none)
    ((d.type.map (·.resolve s)).getD inherited, n.map fun n => if negative then -n else n)

def value (s : Scope) (d : Definition) : SourceType × Option Int :=
  s.valueFrom d (s.world.bound + 1)

end Scope

end TypeAtlas.Source
