import TypeAtlas.Wit

/-!
Where values of interface types lie in linear memory. Addresses have 32 bits and all sums wrap. Records
and tuples place their members in order, each at the next multiple of its alignment; variants, options
and results are a discriminant followed by room for the largest payload.

A calculator remembers the layout of every definition by its label. `WitType.layout` is the layout
itself, computed anew.
-/

namespace TypeAtlas

/-- The size and alignment of a type, the offsets of its members and, for a record, the offset of each
name. -/
structure Placement where
  size : UInt32
  align : UInt32
  offsets : List UInt32 := []
  fieldOffsets : Option (List (Text × UInt32)) := none
  deriving DecidableEq, Repr

/-- The first multiple of a power of two from an offset on. -/
def alignTo (offset align : UInt32) : UInt32 :=
  if align ≤ 1 then offset else (offset + align - 1) &&& ~~~(align - 1)

/-- The number of bytes that tell so many cases apart. -/
def discriminantSize (cases : Int) : UInt32 :=
  if cases ≤ 256 then 1 else if cases ≤ 65536 then 2 else 4

def WitPrimitive.placement : WitPrimitive → Placement
  | .bool | .s8 | .u8 => { size := 1, align := 1 }
  | .s16 | .u16 => { size := 2, align := 2 }
  | .s32 | .u32 | .f32 | .char => { size := 4, align := 4 }
  | .s64 | .u64 | .f64 => { size := 8, align := 8 }
  | .string => { size := 8, align := 4 }

namespace Placement

/-- No bytes anywhere. -/
def empty : Placement where
  size := 0
  align := 1

/-- A pointer and a length. -/
def span : Placement where
  size := 8
  align := 4

def enum (cases : Nat) : Placement where
  size := discriminantSize cases
  align := discriminantSize cases

/-- One bit for each flag. -/
def flags (count : Nat) : Placement :=
  if count = 0 then empty
  else if count ≤ 8 then { size := 1, align := 1 }
  else if count ≤ 16 then { size := 2, align := 2 }
  else if count ≤ 32 then { size := 4, align := 4 }
  else if count ≤ 64 then { size := 8, align := 8 }
  else { size := UInt32.ofNat ((count + 31) / 32) * 4, align := 4 }

/-- Sets the offset of a name; a later field of the same name takes its place. -/
def setOffset (offsets : List (Text × UInt32)) (name : Text) (offset : UInt32) :
    List (Text × UInt32) :=
  if offsets.any (·.1 == name) then
    offsets.map fun e => if e.1 == name then (name, offset) else e
  else offsets ++ [(name, offset)]

/-- The placement of a record whose fields have these names. -/
def withNames (p : Placement) (names : List Text) : Placement :=
  { p with
    fieldOffsets := some ((names.zip p.offsets).foldl (fun acc e => setOffset acc e.1 e.2) []) }

/-- The offsets of names in the order of names. -/
def sortedOffsets (p : Placement) : Option (List (Text × UInt32)) :=
  p.fieldOffsets.map fun offsets => offsets.mergeSort fun a b => Text.le a.1 b.1

end Placement

/-- Members placed so far: where the last one ends, the largest alignment, and their offsets from the
last to the first. -/
structure Row where
  stop : UInt32
  align : UInt32
  offsets : List UInt32
  deriving DecidableEq, Repr

namespace Row

def start : Row := ⟨0, 1, []⟩

def place (r : Row) (p : Placement) : Row :=
  let offset := alignTo r.stop p.align
  ⟨offset + p.size, max r.align p.align, offset :: r.offsets⟩

def finish (r : Row) : Placement where
  size := alignTo r.stop r.align
  align := r.align
  offsets := r.offsets.reverse

end Row

/-- The largest size and alignment among payloads. -/
structure Room where
  size : UInt32
  align : UInt32
  deriving DecidableEq, Repr

namespace Room

/-- The discriminant has to be aligned too. -/
def start (discriminant : UInt32) : Room := ⟨0, discriminant⟩

def fit (r : Room) (p : Placement) : Room :=
  ⟨max r.size p.size, max r.align p.align⟩

def finish (r : Room) (discriminant : UInt32) : Placement where
  size := alignTo (alignTo discriminant r.align + r.size) r.align
  align := r.align

end Room

namespace WitType

mutual

/-- The layout of a type. -/
def layout : WitType → Placement
  | .absent | .handle _ => .empty
  | .primitive p => p.placement
  | .record _ fields => (placeFields fields .start).finish.withNames (fields.map (·.name))
  | .tuple _ members => (placeMembers members .start).finish
  | .variant _ cases =>
    let discriminant := discriminantSize cases.length
    if cases.isEmpty then .empty
    else (fitCases cases (.start discriminant)).finish discriminant
  | .enum _ cases => .enum cases
  | .option _ payload => ((Room.start 1).fit payload.layout).finish 1
  | .result _ ok error => (fitCase error (fitCase ok (.start 1))).finish 1
  | .list .. => .span
  | .flags _ count => .flags count
  | .alias _ target => target.layout

def placeFields : List (WitField WitType) → Row → Row
  | [], r => r
  | ⟨_, t⟩ :: rest, r => placeFields rest (r.place t.layout)

def placeMembers : List WitType → Row → Row
  | [], r => r
  | t :: rest, r => placeMembers rest (r.place t.layout)

def fitCases : List (Option WitType) → Room → Room
  | [], r => r
  | c :: rest, r => fitCases rest (fitCase c r)

def fitCase : Option WitType → Room → Room
  | none, r => r
  | some t, r => r.fit t.layout

end

end WitType

/-! ### Calculation with memory -/

/-- The layouts that a calculator remembers. -/
abbrev Calculator := List (Label × Placement)

namespace Calculator

/-- The layout remembered for a label, or the computed one, which is remembered from then on. -/
def remember (c : Calculator) (label : Label) (compute : Calculator → Placement × Calculator) :
    Placement × Calculator :=
  match c.lookup label with
  | some p => (p, c)
  | none =>
    let (p, c) := compute c
    (p, (label, p) :: c)

mutual

/-- The layout of a type, using and extending what is remembered. -/
def calculate : WitType → Calculator → Placement × Calculator
  | .absent, c => (.empty, c)
  | .primitive p, c => (p.placement, c)
  | .record label fields, c =>
    c.remember label fun c =>
      let (r, c) := placeFields fields .start c
      (r.finish.withNames (fields.map (·.name)), c)
  | .tuple label members, c =>
    c.remember label fun c =>
      let (r, c) := placeMembers members .start c
      (r.finish, c)
  | .variant label cases, c =>
    c.remember label fun c =>
      let discriminant := discriminantSize cases.length
      if cases.isEmpty then (.empty, c)
      else
        let (r, c) := fitCases cases (.start discriminant) c
        (r.finish discriminant, c)
  | .enum label cases, c => c.remember label fun c => (.enum cases, c)
  | .option label payload, c =>
    c.remember label fun c =>
      let (p, c) := calculate payload c
      (((Room.start 1).fit p).finish 1, c)
  | .result label ok error, c =>
    c.remember label fun c =>
      let (r, c) := fitCase ok (.start 1) c
      let (r, c) := fitCase error r c
      (r.finish 1, c)
  | .list label _, c => c.remember label fun c => (.span, c)
  | .flags label count, c => c.remember label fun c => (.flags count, c)
  | .alias label target, c => c.remember label fun c => calculate target c
  | .handle label, c => c.remember label fun c => (.empty, c)

def placeFields : List (WitField WitType) → Row → Calculator → Row × Calculator
  | [], r, c => (r, c)
  | ⟨_, t⟩ :: rest, r, c =>
    let (p, c) := calculate t c
    placeFields rest (r.place p) c

def placeMembers : List WitType → Row → Calculator → Row × Calculator
  | [], r, c => (r, c)
  | t :: rest, r, c =>
    let (p, c) := calculate t c
    placeMembers rest (r.place p) c

def fitCases : List (Option WitType) → Room → Calculator → Room × Calculator
  | [], r, c => (r, c)
  | t :: rest, r, c =>
    let (r, c) := fitCase t r c
    fitCases rest r c

def fitCase : Option WitType → Room → Calculator → Room × Calculator
  | none, r, c => (r, c)
  | some t, r, c =>
    let (p, c) := calculate t c
    (r.fit p, c)

end

end Calculator

end TypeAtlas
