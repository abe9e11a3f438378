import TypeAtlas.Descriptor.Erased

/-!
Visitors of descriptors. A visitor may have a second set of methods for visits that change it; a
changing visit uses those where the visitor has them and falls back to the plain ones.
-/

namespace TypeAtlas

/-- What a visitor does with each sort of descriptor; members come with an index. -/
structure Visitor.Methods (m : Type → Type) (α : Type) where
  struct : StructInfo → m α
  enum : EnumInfo → m α
  function : FunctionInfo → m α
  field : Int → FieldInfo → m α
  variant : Int → VariantInfo → m α
  parameter : Int → ParameterInfo → m α

structure Visitor (m : Type → Type) (α : Type) where
  plain : Visitor.Methods m α
  changing : Option (Visitor.Methods m α)

namespace Visitor

variable {m : Type → Type} {α : Type}

/-- The methods that a visit uses. -/
def methods (v : Visitor m α) (change : Bool) : Methods m α :=
  if change then v.changing.getD v.plain else v.plain

def visitStruct (v : Visitor m α) (change : Bool) (s : StructInfo) : m α :=
  (v.methods change).struct s

def visitEnum (v : Visitor m α) (change : Bool) (e : EnumInfo) : m α :=
  (v.methods change).enum e

def visitFunction (v : Visitor m α) (change : Bool) (f : FunctionInfo) : m α :=
  (v.methods change).function f

/-- A visit to a single member passes its declared index. -/
def visitField (v : Visitor m α) (change : Bool) (f : FieldInfo) : m α :=
  (v.methods change).field f.index f

def visitVariant (v : Visitor m α) (change : Bool) (x : VariantInfo) : m α :=
  (v.methods change).variant x.index x

def visitParameter (v : Visitor m α) (change : Bool) (p : ParameterInfo) : m α :=
  (v.methods change).parameter p.index p

variable [Monad m]

/-- Visits in order with positions as indices, at most `limit` of them. -/
def inOrder {β : Type} (visit : Int → β → m α) (limit : Option Nat) (items : List β) :
    m (List (Nat × α)) :=
  let items := items.zipIdx
  let items :=
    match limit with
    | some n => items.take n
    | none => items
  items.mapM fun (item, position) => do
    return (position, ← visit position item)

def overFields (v : Visitor m α) (limit : Option Nat) (fields : List FieldInfo) :
    m (List (Nat × α)) :=
  inOrder v.plain.field limit fields

def overVariants (v : Visitor m α) (limit : Option Nat) (e : EnumInfo) : m (List (Nat × α)) :=
  inOrder v.plain.variant limit e.variants

def overParameters (v : Visitor m α) (limit : Option Nat) (f : FunctionInfo) :
    m (List (Nat × α)) :=
  inOrder v.plain.parameter limit f.parameters

/-- What a visit to a descriptor and all of its members brings back. -/
structure Tour (α : Type) where
  whole : α
  /-- The members one by one; a variant comes with its fields. -/
  members : List (α × Option (List (Nat × α)))
  /-- The members once more, by position. -/
  positions : List (Nat × α)

/-- Visits a descriptor, each of its members, and then the members in order. -/
def tour (v : Visitor m α) (change : Bool) (limit : Option Nat) (d : Descriptor) :
    m (Option (Tour α)) :=
  match d.struct?, d.enum?, d.function? with
  | some s, _, _ => do
    let whole ← v.visitStruct change s
    let members ← s.fields.mapM fun f => return (← v.visitField change f, none)
    return some ⟨whole, members, ← v.overFields limit s.fields⟩
  | _, some e, _ => do
    let whole ← v.visitEnum change e
    let members ← e.variants.mapM fun x =>
      return (← v.visitVariant change x, some (← v.overFields limit x.fields))
    return some ⟨whole, members, ← v.overVariants limit e⟩
  | _, _, some f => do
    let whole ← v.visitFunction change f
    let members ← f.parameters.mapM fun x => return (← v.visitParameter change x, none)
    return some ⟨whole, members, ← v.overParameters limit f⟩
  | _, _, _ => return none

/-! ### A visitor that keeps a record -/

/-- Notes an entry in the record and answers with it. -/
def note (entry : Text) : StateM (List Text) Text := fun record =>
  (entry, record ++ [entry])

/-- Methods that note every call under a heading. -/
def recording (heading : Text) : Methods (StateM (List Text)) Text where
  struct s := note (heading ++ "struct " ++ s.name)
  enum e := note (heading ++ "enum " ++ e.name)
  function f := note (heading ++ "func " ++ f.name)
  field i f := note (heading ++ "field " ++ Text.ofInt i ++ " " ++ f.name)
  variant i v := note (heading ++ "variant " ++ Text.ofInt i ++ " " ++ v.name)
  parameter i p := note (heading ++ "param " ++ Text.ofInt i ++ " " ++ p.name)

/-- A visitor that records its calls, changing ones under a heading of their own. -/
def recorder (changing : Bool) : Visitor (StateM (List Text)) Text where
  plain := recording []
  changing := if changing then some (recording "mut ") else none

end Visitor

end TypeAtlas
