import TypeAtlas.Source.TypeSet

/-!
Which types implement an interface. A method is found on the type itself or, level by level, on the
fields embedded in it; on one level a name must be unambiguous. A method with a pointer receiver needs
a pointer on the way. Besides its methods an interface may ask for a certain type or for one whose
values can be compared.
-/

namespace TypeAtlas.Source

/-- A method declared on a type. -/
structure Method where
  name : Text
  pointer : Bool
  signature : SourceType

/-- Unexported names of different packages differ. -/
def sameName (home name otherHome other : Text) : Bool :=
  name == other && (isExported name || home == otherHome)

namespace World

/-- The methods a package declares on one of its types, for the given arguments of the type. -/
def methods (w : World) (ref : PackageRef) (name : Text) (args : List SourceType) : List Method :=
  match w.package? ref.path with
  | none => []
  | some p =>
    (p.methods.filter (·.base == name)).map fun m =>
      ⟨m.name, m.pointer, (m.signature.resolve ⟨w, p, m.file, m.params⟩).subst (m.params.zip args)⟩

/-! ### Lookup through embedded fields -/

/-- A type on some level of embedding: whether a pointer was passed on the way to it, and whether it
occurs more than once on its level. -/
structure Seat where
  type : SourceType
  indirect : Bool
  repeated : Bool

/-- What a name can turn out to be. -/
inductive Selection where
  | field
  | method (pointer : Bool) (signature : SourceType)

/-- The state of a search on one level: the types seen, what was found and how, and the next level. -/
structure Search where
  seen : List SourceType
  found : Option (Selection × Bool)
  next : List Seat

/-- Records a find; a second one on the same level, or one in a repeated type, is ambiguous. -/
def Search.find (s : Search) (seat : Seat) (selection : Selection) : Option Search :=
  if s.found.isSome || seat.repeated then none
  else some { s with found := some (selection, seat.indirect) }

/-- Strips one pointer. -/
def dereference (t : SourceType) : SourceType × Bool :=
  match t.unalias with
  | .pointer e => (e, true)
  | _ => (t, false)

/-- Visits a field. Embedded fields open the next level as long as nothing is found. -/
def visitField (home name structHome : Text) (seat : Seat) (s : Search)
    (f : Component SourceType) : Option Search :=
  if sameName structHome f.name home name then s.find seat .field
  else if s.found.isNone && f.embedded then
    let (t, pointer) := dereference f.type
    some { s with next := s.next ++ [⟨t, seat.indirect || pointer, seat.repeated⟩] }
  else some s

/-- The methods of a declared type; other types have none. -/
def methodsOf (w : World) (t : SourceType) : List Method × Text :=
  match t.unalias with
  | .defined (some ref) n args => (w.methods ref n args, ref.path)
  | _ => ([], [])

def isDefined (t : SourceType) : Bool :=
  match t.unalias with
  | .defined .. => true
  | _ => false

/-- Visits a type of the current level; a type seen before is shadowed by its earlier occurrence. -/
def visitSeat (w : World) (home name : Text) (s : Search) (seat : Seat) : Option Search :=
  if isDefined seat.type && s.seen.any (w.identical seat.type) then some s
  else
    let s := if isDefined seat.type then { s with seen := seat.type :: s.seen } else s
    let (methods, path) := w.methodsOf seat.type
    match methods.find? fun m => sameName path m.name home name with
    | some m => s.find seat (.method m.pointer m.signature)
    | none =>
      match w.underlying seat.type with
      | .struct structHome fields => fields.foldlM (visitField home name structHome seat) s
      | .interface h ms e =>
        match (w.typeSet (.interface h ms e)).methods.find? fun r =>
            sameName r.home r.name home name with
        | some r => s.find seat (.method false r.signature)
        | none => some s
      | _ => some s

/-- Merges equal types of one level. -/
def consolidate (w : World) : List Seat → List Seat
  | [] => []
  | seat :: rest =>
    let merged := consolidate w rest
    if merged.any fun other => w.identical other.type seat.type then
      { seat with repeated := true } :: merged.filter fun other => !w.identical other.type seat.type
    else seat :: merged

/-- Searches level by level. Every level but the last opens a type not seen before, which bounds their
number. -/
def searchFrom (w : World) (home name : Text) :
    Nat → List SourceType → List Seat → Option (Selection × Bool)
  | 0, _, _ => none
  | fuel + 1, seen, level =>
    match level.foldlM (w.visitSeat home name) ⟨seen, none, []⟩ with
    | none => none
    | some s =>
      match s.found with
      | some found => some found
      | none => if s.next.isEmpty then none else w.searchFrom home name fuel s.seen (w.consolidate s.next)

def isInterface (w : World) (t : SourceType) : Bool :=
  match w.underlying t with
  | .interface .. | .any => true
  | _ => false

/-- The method that a value of type `t` has under a name. -/
def method? (w : World) (home name : Text) (t : SourceType) : Option SourceType :=
  let (base, pointer) := dereference t
  if pointer && w.isInterface base then none
  else
    match w.searchFrom home name w.depth [] [⟨base, pointer, false⟩] with
    | some (.method pointerReceiver signature, indirect) =>
      if pointerReceiver && !indirect then none else some signature
    | _ => none

/-- Whether `t` has every method that is asked for. -/
def hasMethods (w : World) (t : SourceType) (methods : List Requirement) : Bool :=
  methods.all fun r =>
    match w.method? r.home r.name t with
    | some signature => w.identical signature r.signature
    | none => false

/-- Whether the values of `t` can be compared, if the interface asks for that, by itself or through the
type it is limited to. -/
def comparesAs (w : World) (t interface : SourceType) : Bool :=
  !w.isComparable interface || w.isComparable t

/-- Whether the type `t`, which is no interface, implements an interface. -/
def implements (w : World) (t interface : SourceType) : Bool :=
  let s := w.typeSet interface
  s.isAll ||
    match s.terms with
    | .all => w.hasMethods t s.methods && w.comparesAs t interface
    | .only e => w.hasMethods t s.methods && w.identical e t && w.comparesAs t interface
    | .none => false

end World

end TypeAtlas.Source
