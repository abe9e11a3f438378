import TypeAtlas.Descriptor.Erased

/-!
Describing a struct type without a descriptor. Only exported fields are visible, and indices count the
visible ones; attributes come from the tags.
-/

namespace TypeAtlas.Reflection

def notAStruct (t : TypeRep) : Fault :=
  Fault.of {
    phase := .reflect
    kind := .unsupported
    goType := t.text
    detail := "only struct types can be described" }

/-- A tag that cannot be read. -/
def badTag (owner : Text) (m : Member TypeRep) (cause : Fault) : Fault :=
  .mk {
      phase := .reflect
      kind := .invalidAttribute
      path := [owner, m.name]
      goType := m.type.text }
    (some (.fault cause))

/-- The visible fields among the given ones, numbered from `index` on. -/
def fieldsFrom (owner : TypeRep) (index : Nat) :
    List (Member TypeRep × Nat) → Except Fault (List FieldInfo)
  | [] => .ok []
  | (m, offset) :: rest =>
    if !isExported m.name then fieldsFrom owner index rest
    else
      match Attribute.ofTag m.tag with
      | .error f => .error (badTag owner.qualifiedName m f)
      | .ok attrs =>
        match fieldsFrom owner (index + 1) rest with
        | .error f => .error f
        | .ok fields =>
          .ok ({
            index
            name := m.name
            offset := UInt64.ofNat offset
            attrs
            owner := some owner
            type := some m.type } :: fields)

/-- The description of a struct type. -/
def struct (t : TypeRep) : Except Fault ErasedStruct :=
  match t.fields? with
  | none => .error (notAStruct t)
  | some members =>
    (fieldsFrom t 0 (TypeRep.placedFields members)).map fun fields =>
      .ofFields (some t) .struct t.qualifiedName [] fields

end TypeAtlas.Reflection
