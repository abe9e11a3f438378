import TypeAtlas.Wit.Record

/-!
Whether a struct lies in memory as its record does. Offsets and sizes are compared member by member, down
to the last one; a member that disagrees is reported and not looked into.
-/

namespace TypeAtlas

/-- Where a struct's record and its visible fields lie in linear memory. -/
structure Layout where
  offsets : List UInt32
  size : UInt32
  align : UInt32
  deriving DecidableEq, Repr

namespace Layout

/-- A struct that has no record. -/
def none : Layout := ⟨[], 0, 0⟩

def ofPlacement (p : Placement) : Layout :=
  ⟨p.offsets, p.size, p.align⟩

/-- Two sizes that differ. -/
def sizeMismatch (path : List Text) (t : TypeRep) (w : WitType) : Fault :=
  Fault.of {
    path
    phase := .layout
    kind := .typeMismatch
    goType := t.text
    witType := w.text
    detail := "Go size " ++ Text.ofNat t.size ++ ", canonical size " ++
      Text.ofNat w.layout.size.toNat }

/-- The disagreement of a value of type `t` at `offset` with its counterpart at `witOffset`, taken as a
whole. -/
def wholeMismatch? (path : List Text) (t : TypeRep) (offset : UInt64) (witOffset : UInt32)
    (w : WitType) : Option Fault :=
  if offset.toNat ≠ witOffset.toNat then
    some (Fault.layoutMismatch path t.text w.text offset.toNat witOffset.toNat)
  else if w.layout.size.toNat ≠ t.size then some (sizeMismatch path t w)
  else Option.none

mutual

/-- The disagreements of a value with its counterpart: that of the whole, or those of the parts. -/
def mismatches (path : List Text) (t : TypeRep) (offset : UInt64) (witOffset : UInt32) (w : WitType) :
    List Fault :=
  match wholeMismatch? path t offset witOffset w with
  | some f => [f]
  | Option.none =>
    match w with
    | .record label fields =>
      fieldMismatches path offset witOffset (TypeRep.placedFields (t.fields?.getD []))
        (WitType.record label fields).layout.offsets fields
    | .tuple label members =>
      match t.underlying with
      | .array _ e =>
        memberMismatches path e offset witOffset 0 (WitType.tuple label members).layout.offsets members
      | _ => []
    | _ => []

def fieldMismatches (path : List Text) (offset : UInt64) (witOffset : UInt32) :
    List (Member TypeRep × Nat) → List UInt32 → List (WitField WitType) → List Fault
  | (m, o) :: ms, wo :: wos, ⟨_, w⟩ :: ws =>
    mismatches (path ++ [m.name]) m.type (offset + UInt64.ofNat o) (witOffset + wo) w ++
      fieldMismatches path offset witOffset ms wos ws
  | _, _, _ => []

def memberMismatches (path : List Text) (e : TypeRep) (offset : UInt64) (witOffset : UInt32)
    (i : Nat) : List UInt32 → List WitType → List Fault
  | wo :: wos, w :: ws =>
    mismatches (path ++ [("[" ++ Text.ofNat i ++ "]" : Text)]) e (offset + UInt64.ofNat (i * e.size))
        (witOffset + wo) w ++
      memberMismatches path e offset witOffset (i + 1) wos ws
  | _, _ => []

end

/-- The disagreements of the visible fields of a struct. -/
def structMismatches (owner : Text) :
    List FieldInfo → List UInt32 → List (WitField WitType) → List Fault
  | f :: fs, wo :: wos, ⟨_, w⟩ :: ws =>
    (match f.type with
      | some t => mismatches [owner, f.name] t f.offset wo w
      | Option.none => []) ++ structMismatches owner fs wos ws
  | _, _, _ => []

/-- The layout of a struct, together with what is wrong with it. -/
def check (s : Option ErasedStruct) : Layout × Except Abort Unit :=
  match s with
  | Option.none => (Layout.none, (WitType.record? Option.none).map fun _ => ())
  | some s =>
    match WitType.recordFields s with
    | .error e => (Layout.none, .error e)
    | .ok fields =>
      let p := (WitType.record [] fields).layout
      (ofPlacement p,
        match Failure.ofFaults s.name (structMismatches s.name s.fields p.offsets fields) with
        | .ok () => .ok ()
        | .error f => .error (.failure f))

end Layout

end TypeAtlas
