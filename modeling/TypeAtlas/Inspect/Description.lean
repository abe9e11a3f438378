import TypeAtlas.Descriptor.Outline
import TypeAtlas.Registry
import TypeAtlas.Wit.Check

/-!
Descriptions of registry entries for people to read: the outline of the descriptor and, for a struct,
the record it corresponds to and whether the two layouts agree.
-/

namespace TypeAtlas.Inspect

open Registry (Entry)

/-- Numbers between brackets. -/
def offsetsText (offsets : List UInt32) : Text :=
  "[" ++ Text.join " " (offsets.map fun n => Text.ofNat n.toNat) ++ "]"

/-- The outline of an entry, or a line that says there is none. -/
def outline (e : Entry) : Text :=
  match Outline.write? e.descriptor with
  | none => e.kind.keyword ++ " " ++ e.name ++ ": unsupported descriptor\n"
  | some w =>
    let (r, s) := w.run Sink.unbounded
    match r with
    | .ok () => s.out
    | .error f => s.out ++ "error: " ++ f.text ++ "\n"

def fieldLine (f : WitField WitType) : Text :=
  "\t" ++ f.name ++ ": " ++ f.type.text ++ "\n"

/-- The line on the layout of a struct. -/
def layoutLine (s : ErasedStruct) : Except Trap Text :=
  match Layout.check (some s) with
  | (l, .ok ()) =>
    .ok ("layout: size " ++ Text.ofNat l.size.toNat ++ ", align " ++ Text.ofNat l.align.toNat ++
      ", offsets " ++ offsetsText l.offsets ++ "\n")
  | (_, .error (.failure f)) => .ok ("layout: " ++ f.text ++ "\n")
  | (_, .error (.trap t)) => .error t

/-- The record of a struct and its layout. -/
def recordLines (s : ErasedStruct) : Except Trap Text :=
  match WitType.recordFields s with
  | .error (.trap t) => .error t
  | .error (.failure f) => .ok ("wit: " ++ f.text ++ "\n")
  | .ok fields =>
    (layoutLine s).map fun line => "wit record:\n" ++ fields.flatMap fieldLine ++ line

/-- The description of an entry. -/
def describe (e : Entry) : Except Trap Text :=
  let head := outline e ++ Text.when e.reflected "\t(described by reflection)\n"
  match e.descriptor with
  | .erasedStruct s => (recordLines s).map (head ++ ·)
  | _ => .ok head

/-- An entry made of a descriptor itself. -/
def entryOf (d : Descriptor) : Entry where
  descriptor := d
  type := d.type
  name := d.name
  kind := d.kind

/-- Asks for the struct of every variant that has one, so that all of them are described. -/
def describeVariants (r : Registry) : Registry :=
  let types := r.entries.flatMap fun e =>
    match e.descriptor with
    | .erasedEnum m =>
      (m.variants.map (·.type)).filter fun t =>
        !TypeRep.isNoType t && (t.bind TypeRep.fields?).isSome
    | _ => []
  types.foldl (fun r t => (r.struct t).1) r

/-! ### Listing -/

/-- The entries whose name contains the filter, whatever the case of its letters. -/
def matching (entries : List Entry) (filter : Text) : List Entry :=
  if filter.isEmpty then entries
  else entries.filter fun e => Text.occursIn filter.lowered e.name.lowered

/-- Writes the descriptions of entries, a write for each. -/
def listEntries (s : Sink) : List Entry → Except Trap (Except Failure Unit × Sink)
  | [] => .ok (.ok (), s)
  | e :: rest =>
    match describe e with
    | .error t => .error t
    | .ok text =>
      match (Sink.write ("\n" ++ text)).run s with
      | (.ok (), s) => listEntries s rest
      | (.error f, s) => .ok (.error f, s)

/-- Writes the number of entries that match and the description of each. -/
def list (r : Registry) (filter : Text) (s : Sink) : Except Trap (Except Failure Unit × Sink) :=
  let entries := matching r.entries filter
  match (Sink.write ("Descriptors: " ++ Text.ofNat entries.length ++ "\n")).run s with
  | (.ok (), s) => listEntries s entries
  | (.error f, s) => .ok (.error f, s)

end TypeAtlas.Inspect
