import TypeAtlas.Proofs.Contract
import TypeAtlas.Proofs.Registry.Lookups
import TypeAtlas.Proofs.Registry.Stability

/-!
Registering again and in another order. What was accepted is held from then on, so the same list is
accepted again and changes nothing. Descriptors that keep their contracts and share neither names nor
types are all stored; what an empty registry holds afterwards can be said without their order.
-/

namespace TypeAtlas

namespace Registry

/-! ### Registering again -/

/-- What is registered in the place of the request counts as the same. -/
def Settled (r : Registry) (q : Request) : Prop :=
  ∃ m previous, q.offered? r.validates = some m ∧ r.registeredAt? m.place = some previous ∧
    previous.same m = true

theorem same_self (m : Erased) : m.same m = true := by
  cases m with
  | struct m => exact (sameStruct_iff m m).mpr rfl
  | enum m => exact (sameEnum_iff m m).mpr rfl
  | function m => exact (sameFunction_iff m m).mpr rfl

theorem Settled.submit {r : Registry} {q : Request} (settled : r.Settled q) :
    r.submit q = (r, .ok ()) := by
  obtain ⟨m, previous, offered, registered, same⟩ := settled
  rw [submit_of_offered offered, publish, registered]
  exact if_pos same

theorem Settled.submitAll {r : Registry} {qs : List Request} (settled : ∀ q ∈ qs, r.Settled q) :
    r.submitAll qs = (r, .ok ()) := by
  induction qs with
  | nil => rfl
  | cons q rest ih =>
    rw [List.forall_mem_cons] at settled
    rw [Registry.submitAll, settled.1.submit]
    exact ih settled.2

theorem validates_submit (r : Registry) (q : Request) : (r.submit q).1.validates = r.validates := by
  obtain ⟨_, answer⟩ | ⟨_, _, _, _, _, answer⟩ | ⟨m, _, _, _, answer⟩ := r.submit_cases q
  · rw [answer]
  · rw [answer]
  · rw [answer, validates_store]

theorem validates_submitAll (r : Registry) (qs : List Request) :
    (r.submitAll qs).1.validates = r.validates := by
  induction qs generalizing r with
  | nil => rfl
  | cons q rest ih =>
    rw [submitAll_cons]
    split
    · rw [ih, validates_submit]
    · exact r.validates_submit q

theorem settled_of_accepted {r : Registry} {q : Request} (accepted : (r.submit q).2 = .ok ()) :
    (r.submit q).1.Settled q := by
  obtain ⟨_, answer⟩ | ⟨m, previous, offered, registered, same, answer⟩ | ⟨m, offered, _, _, answer⟩ :=
    r.submit_cases q
  · rw [answer] at accepted
    cases accepted
  · rw [answer]
    exact ⟨m, previous, offered, registered, same⟩
  · rw [answer]
    refine ⟨m, m, ?_, ?_, same_self m⟩
    · rw [validates_store, offered]
    · rw [registeredAt?_store, if_pos rfl]

theorem Settled.of_extends {r r' : Registry} {q : Request} (settled : r.Settled q)
    (extension : Extends r r') (validates : r'.validates = r.validates) : r'.Settled q := by
  obtain ⟨m, previous, offered, registered, same⟩ := settled
  exact ⟨m, previous, validates ▸ offered, extension.registered _ _ registered, same⟩

theorem settled_of_submitAll {r : Registry} {qs : List Request} (accepted : (r.submitAll qs).2 = .ok ()) :
    ∀ q ∈ qs, (r.submitAll qs).1.Settled q := by
  induction qs generalizing r with
  | nil => simp
  | cons q rest ih =>
    rw [submitAll_cons] at accepted ⊢
    split at accepted
    · rename_i first
      rw [if_pos first, List.forall_mem_cons]
      refine ⟨?_, ih accepted⟩
      -- The requests after the first only extend what the first left behind.
      exact (settled_of_accepted (accepted_iff.mp first)).of_extends (extends_submitAll _ rest)
        (validates_submitAll _ rest)
    · rename_i refused
      exact absurd (accepted_iff.mpr accepted) refused

theorem registerAll_again {r : Registry} {ds : List Descriptor} (accepted : (r.registerAll ds).2 = .ok ()) :
    (r.registerAll ds).1.registerAll ds = ((r.registerAll ds).1, .ok ()) := by
  rw [registerAll_eq_submitAll] at accepted ⊢
  rw [registerAll_eq_submitAll]
  exact Settled.submitAll (settled_of_submitAll accepted)

end Registry

/-! ### Copies -/

/-- The copy of a descriptor that a registry keeps. -/
def Descriptor.copy? : Descriptor → Option Erased
  | .struct s => some (.struct s.erase)
  | .erasedStruct m => some (.struct m)
  | .enum e => some (.enum e.erase)
  | .erasedEnum m => some (.enum m)
  | .function f => some (.function f.erase)
  | .erasedFunction m => some (.function m)
  | .bare .. => none

namespace Descriptor

variable {d : Descriptor} {m : Erased}

theorem erase?_of_copy? (copy : d.copy? = some m) : d.erase? = some m.descriptor := by
  cases d <;> cases copy <;> rfl

theorem name_of_copy? (copy : d.copy? = some m) : m.name = d.name := by
  cases d <;> cases copy <;> rfl

theorem struct?_of_copy? {m : ErasedStruct} (copy : d.copy? = some (.struct m)) :
    ∃ s, d.struct? = some s ∧ s.type = m.type := by
  cases d <;> cases copy <;> exact ⟨_, rfl, rfl⟩

theorem enum?_of_copy? {m : ErasedEnum} (copy : d.copy? = some (.enum m)) :
    ∃ e, d.enum? = some e ∧ e.type = m.type := by
  cases d <;> cases copy <;> exact ⟨_, rfl, rfl⟩

/-- A struct that keeps its contract is registered as a struct, whichever of the three kinds it has. -/
theorem request_of_hasFields (fields : d.kind.hasFields = true) :
    Registry.request d = Registry.structRequest d := by
  unfold Registry.request
  cases kind : d.kind with
  | struct | union | tuple => rfl
  | _ =>
    rw [kind] at fields
    cases fields

theorem offered_of_valid (valid : d.validate? = some (.ok ())) :
    ∃ m, d.copy? = some m ∧ ∀ validates, (Registry.request d).offered? validates = some m := by
  have offered (m : Erased) (validates : Bool) {verdict : Except Failure Unit}
      (kept : some verdict = some (.ok ())) : Registry.offer validates verdict m = some m := by
    cases kept
    rfl
  cases d with
  | struct s =>
    have fields := s.hasFields_of_validate (Option.some.inj valid)
    refine ⟨_, rfl, fun validates => ?_⟩
    rw [request_of_hasFields (d := .struct s) fields]
    exact offered _ validates valid
  | erasedStruct m =>
    have fields := m.info.hasFields_of_validate (Option.some.inj valid)
    refine ⟨_, rfl, fun validates => ?_⟩
    rw [request_of_hasFields (d := .erasedStruct m) fields]
    exact offered _ validates valid
  | enum e =>
    refine ⟨_, rfl, fun validates => ?_⟩
    simp only [Registry.request, kind, e.kind_of_validate (Option.some.inj valid)]
    exact offered _ validates valid
  | erasedEnum m => exact ⟨_, rfl, fun validates => offered _ validates valid⟩
  | function f =>
    refine ⟨_, rfl, fun validates => ?_⟩
    simp only [Registry.request, kind, f.kind_of_validate (Option.some.inj valid)]
    exact offered _ validates valid
  | erasedFunction m => exact ⟨_, rfl, fun validates => offered _ validates valid⟩
  | bare k n as => cases valid

end Descriptor

namespace Registry

/-! ### Storing copies that do not meet -/

theorem register_of_vacant {r : Registry} {d : Descriptor} {m : Erased}
    (valid : d.validate? = some (.ok ())) (copy : d.copy? = some m)
    (vacant : r.registeredAt? m.place = none) (free : r.byName.get? m.name = none) :
    r.register d = (r.store m, .ok ()) := by
  obtain ⟨m', copy', offered⟩ := Descriptor.offered_of_valid valid
  cases copy.symm.trans copy'
  rw [register_eq_submit, submit_of_offered (offered _), publish, vacant]
  exact if_pos (hasRoom_of_free free)

theorem registerAll_of_vacant {r : Registry} {ds : List Descriptor}
    (valid : ∀ d ∈ ds, d.validate? = some (.ok ()))
    (places : ((ds.filterMap Descriptor.copy?).map Erased.place).Nodup)
    (names : ((ds.filterMap Descriptor.copy?).map Erased.name).Nodup)
    (vacant : ∀ m ∈ ds.filterMap Descriptor.copy?,
      r.registeredAt? m.place = none ∧ r.byName.get? m.name = none) :
    r.registerAll ds = ((ds.filterMap Descriptor.copy?).foldl store r, .ok ()) := by
  induction ds generalizing r with
  | nil => rfl
  | cons d rest ih =>
    rw [List.forall_mem_cons] at valid
    obtain ⟨m, copy, _⟩ := Descriptor.offered_of_valid valid.1
    rw [List.filterMap_cons_some copy] at places names vacant ⊢
    rw [List.map_cons, List.nodup_cons] at places names
    rw [List.forall_mem_cons] at vacant
    rw [registerAll, register_of_vacant valid.1 copy vacant.1.1 vacant.1.2]
    refine ih valid.2 places.2 names.2 ?_
    intro m' member
    -- The first copy takes a place and a name, and the others have places and names of their own.
    have place : m.place ≠ m'.place := fun same =>
      places.1 (List.mem_map.mpr ⟨m', member, same.symm⟩)
    have name : m.name ≠ m'.name := fun same => names.1 (List.mem_map.mpr ⟨m', member, same.symm⟩)
    rw [registeredAt?_store, if_neg place, byName_store, Keyed.get?_set, if_neg name]
    exact vacant.2 m' member

/-- What copies with keys of their own leave behind, seen through any map that a copy changes at its key
only. -/
theorem view_foldl_store {κ ν : Type} [DecidableEq κ] (view : Registry → κ → Option ν) {key : Erased → κ}
    {value : Erased → ν}
    (change : ∀ r m k, view (r.store m) k = if key m = k then some (value m) else view r k)
    {ms : List Erased} (distinct : (ms.map key).Nodup) (r : Registry) (k : κ) (v : ν) :
    view (ms.foldl store r) k = some v ↔
      (∃ m ∈ ms, key m = k ∧ value m = v) ∨ k ∉ ms.map key ∧ view r k = some v := by
  induction ms generalizing r with
  | nil => simp
  | cons first rest ih =>
    rw [List.map_cons, List.nodup_cons] at distinct
    rw [List.foldl_cons, ih distinct.2, change, List.map_cons, List.mem_cons, not_or]
    by_cases here : key first = k
    · subst here
      have others : ¬ ∃ m ∈ rest, key m = key first ∧ value m = v := by
        rintro ⟨m, member, same, _⟩
        exact distinct.1 (List.mem_map.mpr ⟨m, member, same⟩)
      simp [others, distinct.1]
    · simp [here, Ne.symm here]

theorem reflected_foldl_store (ms : List Erased) {r : Registry} (nothing : r.reflected = []) :
    (ms.foldl store r).reflected = [] := by
  induction ms generalizing r with
  | nil => exact nothing
  | cons first rest ih =>
    apply ih
    cases first with
    | struct m => simp [store, storeStruct, nothing]
    | enum m => exact nothing
    | function m => exact nothing

theorem options_foldl_store (ms : List Erased) (r : Registry) :
    (ms.foldl store r).fallback = r.fallback ∧ (ms.foldl store r).validates = r.validates := by
  induction ms generalizing r with
  | nil => exact ⟨rfl, rfl⟩
  | cons first rest ih =>
    rw [List.foldl_cons, (ih _).1, (ih _).2]
    cases first <;> exact ⟨rfl, rfl⟩

/-! ### Registering in another order -/

/-- Two registries with the same contents: every key leads to the same in each of the maps. -/
structure SameMaps (r r' : Registry) : Prop where
  structs : ∀ t, r.structs.get? t = r'.structs.get? t
  enums : ∀ t, r.enums.get? t = r'.enums.get? t
  functions : ∀ n, r.functions.get? n = r'.functions.get? n
  reflected : ∀ t, r.isReflected t = r'.isReflected t
  byName : ∀ n, r.byName.get? n = r'.byName.get? n
  fallback : r.fallback = r'.fallback
  validates : r.validates = r'.validates

/-- Descriptors that keep their contracts. No two have the same name, and neither two structs nor two
enumerations the same type. -/
structure Separate (ds : List Descriptor) : Prop where
  valid : ∀ d ∈ ds, d.validate? = some (.ok ())
  names : (ds.map Descriptor.name).Nodup
  structTypes : ((ds.filterMap Descriptor.struct?).map StructInfo.type).Nodup
  enumTypes : ((ds.filterMap Descriptor.enum?).map EnumInfo.type).Nodup

theorem Separate.perm {ds ds' : List Descriptor} (separate : Separate ds) (order : ds'.Perm ds) :
    Separate ds' where
  valid d member := separate.valid d (order.mem_iff.mp member)
  names := (order.map _).nodup_iff.mpr separate.names
  structTypes := ((order.filterMap _).map _).nodup_iff.mpr separate.structTypes
  enumTypes := ((order.filterMap _).map _).nodup_iff.mpr separate.enumTypes

theorem Separate.copy_names {ds : List Descriptor} (separate : Separate ds) :
    ((ds.filterMap Descriptor.copy?).map Erased.name).Nodup := by
  have names := separate.names
  unfold List.Nodup at names ⊢
  rw [List.pairwise_map] at names
  rw [List.pairwise_map, List.pairwise_filterMap]
  refine names.imp ?_
  intro d d' different m copy m' copy'
  rw [Descriptor.name_of_copy? copy, Descriptor.name_of_copy? copy']
  exact different

theorem Separate.copy_places {ds : List Descriptor} (separate : Separate ds) :
    ((ds.filterMap Descriptor.copy?).map Erased.place).Nodup := by
  have names := separate.names
  have structTypes := separate.structTypes
  have enumTypes := separate.enumTypes
  unfold List.Nodup at names structTypes enumTypes ⊢
  rw [List.pairwise_map] at names
  rw [List.pairwise_map, List.pairwise_filterMap] at structTypes enumTypes
  rw [List.pairwise_map, List.pairwise_filterMap]
  refine (names.and (structTypes.and enumTypes)).imp ?_
  rintro d d' ⟨names, structTypes, enumTypes⟩ m copy m' copy' same
  -- Places are of one sort only if the copies are.
  cases m with
  | struct m =>
    cases m' with
    | struct m' =>
      obtain ⟨s, found, own⟩ := Descriptor.struct?_of_copy? copy
      obtain ⟨s', found', own'⟩ := Descriptor.struct?_of_copy? copy'
      exact structTypes s found s' found' (by rw [own, own', Place.struct.inj same])
    | _ => cases same
  | enum m =>
    cases m' with
    | enum m' =>
      obtain ⟨e, found, own⟩ := Descriptor.enum?_of_copy? copy
      obtain ⟨e', found', own'⟩ := Descriptor.enum?_of_copy? copy'
      exact enumTypes e found e' found' (by rw [own, own', Place.enum.inj same])
    | _ => cases same
  | function m =>
    cases m' with
    | function m' =>
      apply names
      rw [← Descriptor.name_of_copy? copy, ← Descriptor.name_of_copy? copy']
      exact Place.function.inj same
    | _ => cases same

/-- The registry holds the copies of the descriptors and nothing else. -/
structure HoldsExactly (r : Registry) (ds : List Descriptor) : Prop where
  registered : ∀ p m, r.registeredAt? p = some m ↔ ∃ d ∈ ds, d.copy? = some m ∧ m.place = p
  byName : ∀ n d', r.byName.get? n = some d' ↔ ∃ d ∈ ds, d.erase? = some d' ∧ d.name = n
  reflected : r.reflected = []

theorem Separate.registerAll {ds : List Descriptor} (separate : Separate ds) (fallback validates : Bool) :
    ∃ r, registerAll { fallback, validates } ds = (r, .ok ()) ∧ r.HoldsExactly ds ∧
      r.fallback = fallback ∧ r.validates = validates := by
  have places := separate.copy_places
  have names := separate.copy_names
  have vacant (p : Place) : registeredAt? { fallback, validates } p = none := by
    cases p <;> rfl
  refine ⟨_, registerAll_of_vacant separate.valid places names fun m _ => ⟨vacant _, rfl⟩, ?_,
    options_foldl_store _ _⟩
  refine ⟨?_, ?_, reflected_foldl_store _ rfl⟩
  · intro p m
    rw [view_foldl_store registeredAt? registeredAt?_store places, vacant]
    simp only [List.mem_filterMap, reduceCtorEq, and_false, or_false]
    constructor
    · rintro ⟨m, ⟨d, member, copy⟩, place, rfl⟩
      exact ⟨d, member, copy, place⟩
    · rintro ⟨d, member, copy, place⟩
      exact ⟨m, ⟨d, member, copy⟩, place, rfl⟩
  · intro n d'
    have change (r : Registry) (m : Erased) (n : Text) : (r.store m).byName.get? n =
        if m.name = n then some m.descriptor else r.byName.get? n := by
      rw [byName_store, Keyed.get?_set]
    rw [view_foldl_store (fun r n => r.byName.get? n) change names]
    simp only [List.mem_filterMap, Keyed.get?_nil, reduceCtorEq, and_false, or_false]
    constructor
    · rintro ⟨m, ⟨d, member, copy⟩, name, rfl⟩
      exact ⟨d, member, Descriptor.erase?_of_copy? copy, Descriptor.name_of_copy? copy ▸ name⟩
    · rintro ⟨d, member, erased, name⟩
      obtain ⟨m, copy, _⟩ := Descriptor.offered_of_valid (separate.valid d member)
      rw [Descriptor.erase?_of_copy? copy, Option.some.injEq] at erased
      exact ⟨m, ⟨d, member, copy⟩, Descriptor.name_of_copy? copy ▸ name, erased⟩

theorem HoldsExactly.sameMaps {r r' : Registry} {ds ds' : List Descriptor} (holds : r.HoldsExactly ds)
    (holds' : r'.HoldsExactly ds') (order : ds.Perm ds') (fallback : r.fallback = r'.fallback)
    (validates : r.validates = r'.validates) : SameMaps r r' := by
  have registered (p : Place) : r.registeredAt? p = r'.registeredAt? p := by
    apply Option.ext
    intro m
    simp only [holds.registered, holds'.registered, order.mem_iff]
  have plain {r : Registry} (nothing : r.reflected = []) (t : Option TypeRep) :
      r.registeredAt? (.struct t) = (r.structs.get? t).map .struct := by
    simp [registeredAt?, registeredStruct?, isReflected, nothing]
  constructor
  case structs =>
    intro t
    have same := registered (.struct t)
    rw [plain holds.reflected, plain holds'.reflected] at same
    exact Option.map_injective (fun _ _ => Erased.struct.inj) same
  case enums =>
    intro t
    exact Option.map_injective (fun _ _ => Erased.enum.inj) (registered (.enum t))
  case functions =>
    intro n
    exact Option.map_injective (fun _ _ => Erased.function.inj) (registered (.function n))
  case reflected =>
    intro t
    rw [isReflected, isReflected, holds.reflected, holds'.reflected]
  case byName =>
    intro n
    apply Option.ext
    intro d'
    simp only [holds.byName, holds'.byName, order.mem_iff]
  case fallback => exact fallback
  case validates => exact validates

/-- A list that was registered is accepted again and changes nothing. Descriptors that keep their contracts
and share neither names nor types are accepted by an empty registry in every order, with the same maps
at the end, in which the name of each of them leads to its copy. -/
theorem registration_repeats_and_reorders :
    (∀ (r : Registry) ds, (r.registerAll ds).2 = .ok () →
        (r.registerAll ds).1.registerAll ds = ((r.registerAll ds).1, .ok ())) ∧
      ∀ fallback validates ds, Separate ds → ∀ ds', ds'.Perm ds →
        ∃ r, registerAll { fallback, validates } ds' = (r, .ok ()) ∧
          SameMaps r (registerAll { fallback, validates } ds).1 ∧
          ∀ d ∈ ds, r.lookup? d.name = d.erase? := by
  refine ⟨fun r ds accepted => registerAll_again accepted, ?_⟩
  intro fallback validates ds separate ds' order
  obtain ⟨r, answer, holds, options⟩ := separate.registerAll fallback validates
  obtain ⟨r', answer', holds', options'⟩ := (separate.perm order).registerAll fallback validates
  refine ⟨r', answer', ?_, ?_⟩
  · rw [answer]
    exact holds'.sameMaps holds order (by rw [options.1, options'.1]) (by rw [options.2, options'.2])
  · intro d member
    obtain ⟨m, copy, _⟩ := Descriptor.offered_of_valid (separate.valid d member)
    have erased := Descriptor.erase?_of_copy? copy
    rw [lookup?, erased, holds'.byName]
    exact ⟨d, order.mem_iff.mpr member, erased, rfl⟩

/-- One descriptor of each sort; the struct and the enumeration describe the same type. -/
def doorRingKinds : List Descriptor :=
  [.struct door, .function (ring []), .enum { doorKinds with name := "atlas.DoorKind" }]

theorem doorRingKinds_reversed :
    ∃ r, registerAll {} doorRingKinds.reverse = (r, .ok ()) ∧
      SameMaps r (registerAll {} doorRingKinds).1 ∧
      r.registerAll doorRingKinds.reverse = (r, .ok ()) := by
  have separate : Separate doorRingKinds := by
    constructor
    case valid =>
      rw [doorRingKinds, List.forall_mem_cons, List.forall_mem_cons, List.forall_mem_singleton]
      exact ⟨rfl, rfl, rfl⟩
    case names => decide
    case structTypes => decide
    case enumTypes => decide
  obtain ⟨again, reordered⟩ := registration_repeats_and_reorders
  obtain ⟨r, answer, same, _⟩ := reordered true true _ separate _ (List.reverse_perm _)
  have repeated := again {} doorRingKinds.reverse (by rw [answer])
  rw [answer] at repeated
  exact ⟨r, answer, same, repeated⟩

end Registry

end TypeAtlas
