import TypeAtlas.Proofs.Registry.Request

/-!
Whose a name is. The name of a registered descriptor leads to a registered descriptor of that name and of
the same type. It need not be the same one: descriptors of different sorts that describe one type under
one name are all accepted, and the name leads to the last of them. Apart from that a name has one
registered descriptor, and a second one is refused as a duplicate.
-/

namespace TypeAtlas

/-- Two descriptors of different sorts that describe the same type under the same name. -/
structure Erased.Doubles (a b : Erased) : Prop where
  name : a.name = b.name
  type : a.type = b.type
  place : a.place ≠ b.place

namespace Registry

/-! ### Registered descriptors and entries -/

def Registered (r : Registry) (m : Erased) : Prop :=
  r.registeredAt? m.place = some m

/-- The descriptor has an entry that does not come from reflection. -/
def Listed (r : Registry) (m : Erased) : Prop :=
  ∃ e ∈ r.entries, e.reflected = false ∧ e.descriptor = m.descriptor

/-- What has an entry of its own is what is registered. -/
theorem Consistent.listed_iff {r : Registry} (consistent : r.Consistent) (m : Erased) :
    r.Listed m ↔ r.Registered m := by
  constructor
  · rintro ⟨e, member, explicit, descriptor⟩
    rcases mem_entries_iff.mp member with ⟨⟨k, s⟩, found, rfl⟩ | ⟨⟨k, s⟩, found, rfl⟩ |
      ⟨⟨k, s⟩, found, rfl⟩
    · obtain rfl := Erased.descriptor_injective (a := .struct s) descriptor
      have stored := (Keyed.mem_iff_get? consistent.structKeys).mp found
      obtain rfl := consistent.structType k s stored
      exact registeredAt?_struct_iff.mpr ⟨explicit, stored⟩
    · obtain rfl := Erased.descriptor_injective (a := .enum s) descriptor
      have stored := (Keyed.mem_iff_get? consistent.enumKeys).mp found
      obtain rfl := consistent.enumType k s stored
      exact registeredAt?_enum_iff.mpr stored
    · obtain rfl := Erased.descriptor_injective (a := .function s) descriptor
      have stored := (Keyed.mem_iff_get? consistent.functionKeys).mp found
      obtain rfl := consistent.functionName k s stored
      exact registeredAt?_function_iff.mpr stored
  · intro registered
    cases m with
    | struct s =>
      obtain ⟨explicit, stored⟩ := registeredAt?_struct_iff.mp registered
      have member := (Keyed.mem_iff_get? consistent.structKeys).mpr stored
      exact ⟨_, mem_entries_iff.mpr (.inl ⟨_, member, rfl⟩), explicit, rfl⟩
    | enum s =>
      have stored := registeredAt?_enum_iff.mp registered
      have member := (Keyed.mem_iff_get? consistent.enumKeys).mpr stored
      exact ⟨_, mem_entries_iff.mpr (.inr (.inl ⟨_, member, rfl⟩)), rfl, rfl⟩
    | function s =>
      have stored := registeredAt?_function_iff.mp registered
      have member := (Keyed.mem_iff_get? consistent.functionKeys).mpr stored
      exact ⟨_, mem_entries_iff.mpr (.inr (.inr ⟨_, member, rfl⟩)), rfl, rfl⟩

theorem registered_store_iff {r : Registry} {m m' : Erased} (vacant : r.registeredAt? m.place = none) :
    (r.store m).Registered m' ↔ m' = m ∨ r.Registered m' := by
  unfold Registered
  rw [registeredAt?_store]
  by_cases here : m.place = m'.place
  · rw [if_pos here, ← here, vacant]
    simp [eq_comm]
  · rw [if_neg here, or_iff_right]
    rintro rfl
    exact here rfl

theorem registered_cacheStruct_iff {r : Registry} {t : TypeRep} (vacant : r.structs.get? (some t) = none)
    (m : ErasedStruct) (m' : Erased) : (r.cacheStruct t m).Registered m' ↔ r.Registered m' := by
  unfold Registered
  rw [registeredAt?_cacheStruct vacant]

/-! ### Names that are taken -/

/-- A taken name is free for no function, and for the other sorts if it leads to the same type. -/
theorem hasRoom_of_taken {r : Registry} {m : Erased} {d : Descriptor}
    (taken : r.byName.get? m.name = some d) :
    r.hasRoom m = true ↔ d.type = m.type ∧ m.isFunction = false := by
  cases m with
  | struct m =>
    have taken : r.byName.get? m.name = some d := taken
    simp only [hasRoom, nameIsFree, taken, beq_iff_eq, Erased.isFunction, and_true]
    rfl
  | enum m =>
    have taken : r.byName.get? m.name = some d := taken
    simp only [hasRoom, nameIsFree, taken, beq_iff_eq, Erased.isFunction, and_true]
    rfl
  | function m =>
    have taken : r.byName.get? m.name = some d := taken
    simp [hasRoom, taken, Erased.isFunction]

theorem byName_cacheStruct_of_taken {r : Registry} {n : Text} {d : Descriptor}
    (taken : r.byName.get? n = some d) (t : TypeRep) (m : ErasedStruct) :
    (r.cacheStruct t m).byName.get? n = some d := by
  simp only [cacheStruct]
  split
  · rename_i free
    exact Keyed.get?_set_of_vacant (Option.isNone_iff_eq_none.mp free) taken
  · exact taken

/-- The names of registered descriptors lead to registered descriptors of the same types. -/
def Owned (r : Registry) : Prop :=
  ∀ m, r.Registered m → ∃ h, r.Registered h ∧ h.type = m.type ∧ r.byName.get? m.name = some h.descriptor

theorem Owned.store {r : Registry} {m : Erased} (before : r.Owned)
    (vacant : r.registeredAt? m.place = none) (room : r.hasRoom m = true) : (r.store m).Owned := by
  intro m' registered
  rw [byName_store, Keyed.get?_set]
  by_cases name : m.name = m'.name
  · rw [if_pos name]
    refine ⟨m, (registered_store_iff vacant).mpr (.inl rfl), ?_, rfl⟩
    rcases (registered_store_iff vacant).mp registered with rfl | earlier
    · rfl
    · -- Both descriptors have the type of the one that the name led to before.
      obtain ⟨h, _, type, leads⟩ := before m' earlier
      rw [← name] at leads
      exact ((hasRoom_of_taken leads).mp room).1.symm.trans type
  · rw [if_neg name]
    rcases (registered_store_iff vacant).mp registered with rfl | earlier
    · exact absurd rfl name
    · obtain ⟨h, holds, type, leads⟩ := before m' earlier
      exact ⟨h, (registered_store_iff vacant).mpr (.inr holds), type, leads⟩

theorem Owned.cacheStruct {r : Registry} {t : TypeRep} (before : r.Owned)
    (vacant : r.structs.get? (some t) = none) (m : ErasedStruct) : (r.cacheStruct t m).Owned := by
  intro m' registered
  obtain ⟨h, holds, type, leads⟩ := before m' ((registered_cacheStruct_iff vacant m m').mp registered)
  exact ⟨h, (registered_cacheStruct_iff vacant m h).mpr holds, type,
    byName_cacheStruct_of_taken leads t m⟩

theorem Owned.step {r r' : Registry} (step : Step r r') (before : r.Owned) : r'.Owned := by
  cases step with
  | stay => exact before
  | storeStruct m vacant free =>
    exact before.store (m := .struct m) (by rw [Erased.place, registeredAt?, vacant]; rfl) free
  | storeEnum m vacant free =>
    exact before.store (m := .enum m) (by rw [Erased.place, registeredAt?, vacant]; rfl) free
  | storeFunction m vacant free =>
    exact before.store (m := .function m) (by rw [Erased.place, registeredAt?, vacant]; rfl)
      (Option.isNone_iff_eq_none.mpr free)
  | cacheStruct t m vacant described => exact before.cacheStruct vacant m
  | reset =>
    intro m registered
    cases m <;> cases registered

theorem owned_of_reachable {r : Registry} (reachable : r.Reachable) : r.Owned := by
  obtain ⟨fallback, validates, ops, rfl⟩ := reachable
  refine run_preserves (fun _ _ => Owned.step) ops ?_
  intro m registered
  cases m <;> cases registered

/-! ### One name, one descriptor -/

theorem Owned.eq_or_doubles {r : Registry} (owned : r.Owned) {a b : Erased} (first : r.Registered a)
    (second : r.Registered b) (name : a.name = b.name) : a = b ∨ a.Doubles b := by
  by_cases place : a.place = b.place
  · left
    unfold Registered at first second
    rw [place, second] at first
    exact (Option.some.inj first).symm
  · right
    obtain ⟨h, _, type, leads⟩ := owned a first
    obtain ⟨h', _, type', leads'⟩ := owned b second
    rw [name, leads'] at leads
    obtain rfl := Erased.descriptor_injective (Option.some.inj leads)
    exact ⟨name, type.symm.trans type', place⟩

theorem Consistent.place_of_registeredAt? {r : Registry} (consistent : r.Consistent) {p : Place}
    {m : Erased} (registered : r.registeredAt? p = some m) : m.place = p := by
  cases p with
  | struct t =>
    obtain ⟨s, _, rfl⟩ := Option.map_eq_some_iff.mp registered
    exact congrArg Place.struct (consistent.structType t s (registeredAt?_struct_iff.mp registered).2)
  | enum t =>
    obtain ⟨s, found, rfl⟩ := Option.map_eq_some_iff.mp registered
    exact congrArg Place.enum (consistent.enumType t s found)
  | function n =>
    obtain ⟨s, found, rfl⟩ := Option.map_eq_some_iff.mp registered
    exact congrArg Place.function (consistent.functionName n s found)

theorem publish_ok_or_duplicate (r : Registry) (m : Erased) :
    (r.publish m).2 = .ok () ∨ ∃ what, (r.publish m).2 = .error (duplicate what m.name) := by
  unfold publish
  split
  · split
    · exact .inl rfl
    · exact .inr ⟨m.noun, rfl⟩
  · split
    · exact .inl rfl
    · exact .inr ⟨"name", rfl⟩

/-- Under a taken name only a repetition is accepted, and a descriptor that doubles the holder. -/
theorem Owned.publish_taken_iff {r : Registry} (owned : r.Owned) (consistent : r.Consistent) {m h : Erased}
    (holds : r.Registered h) (name : h.name = m.name) :
    (r.publish m).2 = .ok () ↔ (∃ p, r.Registered p ∧ p.place = m.place ∧ p.same m = true) ∨
      (∀ p, r.Registered p → p.place ≠ m.place) ∧ h.Doubles m ∧ m.isFunction = false := by
  rw [publish_ok_iff]
  obtain ⟨holder, _, type, leads⟩ := owned h holds
  rw [name] at leads
  constructor
  · rintro (⟨previous, registered, same⟩ | ⟨registered, room⟩)
    · have place := consistent.place_of_registeredAt? registered
      rw [← place] at registered
      exact .inl ⟨previous, registered, place, same⟩
    · have vacant : ∀ p, r.Registered p → p.place ≠ m.place := by
        intro p other there
        rw [Registered, there, registered] at other
        cases other
      obtain ⟨fits, sort⟩ := (hasRoom_of_taken leads).mp room
      exact .inr ⟨vacant, ⟨name, type.symm.trans fits, vacant h holds⟩, sort⟩
  · rintro (⟨p, registered, place, same⟩ | ⟨vacant, doubles, sort⟩)
    · rw [Registered, place] at registered
      exact .inl ⟨p, registered, same⟩
    · have nothing : r.registeredAt? m.place = none := by
        cases registered : r.registeredAt? m.place with
        | none => rfl
        | some p =>
          have place := consistent.place_of_registeredAt? registered
          rw [← place] at registered
          exact absurd place (vacant p registered)
      exact .inr ⟨nothing, (hasRoom_of_taken leads).mpr ⟨type.trans doubles.type, sort⟩⟩

/-- In every registry that operations can lead to, the name of a listed descriptor leads to that
descriptor, unless another listed one doubles it and the name leads there. Listed descriptors share a
name only when they double each other. A request for a name that a listed descriptor has is accepted if
it repeats what is listed in its place, or if it doubles the holder and is not a function; every other
fit request is refused as a duplicate. -/
theorem names_owned_or_doubled {r : Registry} (reachable : r.Reachable) :
    (∀ m, r.Listed m → r.lookup? m.name = some m.descriptor ∨
        ∃ h, r.Listed h ∧ h.Doubles m ∧ r.lookup? m.name = some h.descriptor) ∧
      (∀ a b, r.Listed a → r.Listed b → a.name = b.name → a = b ∨ a.Doubles b) ∧
      ∀ q m h, q.offered? r.validates = some m → r.Listed h → h.name = m.name →
        ((r.submit q).2 = .ok () ↔ (∃ p, r.Listed p ∧ p.place = m.place ∧ p.same m = true) ∨
            (∀ p, r.Listed p → p.place ≠ m.place) ∧ h.Doubles m ∧ m.isFunction = false) ∧
          ((r.submit q).2 = .ok () ∨ ∃ what, (r.submit q).2 = .error (duplicate what m.name)) := by
  have consistent := consistent_of_reachable reachable
  have owned := owned_of_reachable reachable
  simp only [consistent.listed_iff]
  refine ⟨?_, ?_, ?_⟩
  · intro m registered
    obtain ⟨h, holds, _, leads⟩ := owned m registered
    have name : h.name = m.name := (named_of_reachable reachable _ _ leads).1
    rcases owned.eq_or_doubles holds registered name with rfl | doubles
    · exact .inl leads
    · exact .inr ⟨h, holds, doubles, leads⟩
  · intro a b first second name
    exact owned.eq_or_doubles first second name
  · intro q m h offered holds name
    rw [submit_of_offered offered]
    exact ⟨owned.publish_taken_iff consistent holds name, r.publish_ok_or_duplicate m⟩

/-! ### A name with two descriptors -/

/-- An enumeration without variants, of the type that the door describes and under its name. -/
def doorKinds : EnumInfo where
  kind := .enum
  name := "atlas.Door"
  attrs := []
  type := some gateType
  integer := some TypeRep.noType
  count := 0
  variants := []
  listType := some TypeRep.noType

def doorTwice : Registry :=
  run {} [.registerEnum doorKinds, .registerStruct door]

theorem doubled_name_leads_elsewhere :
    doorTwice.Listed (.enum doorKinds.erase) ∧
      doorTwice.lookup? doorKinds.name ≠ some (.erasedEnum doorKinds.erase) ∧
      ∃ h, doorTwice.Listed h ∧ h.Doubles (.enum doorKinds.erase) := by
  have reachable : doorTwice.Reachable := ⟨true, true, _, rfl⟩
  have listed : doorTwice.Listed (.enum doorKinds.erase) :=
    ((consistent_of_reachable reachable).listed_iff _).mpr rfl
  have elsewhere : doorTwice.lookup? doorKinds.name = some (.erasedStruct door.erase) := rfl
  refine ⟨listed, by rw [elsewhere]; nofun, ?_⟩
  obtain ⟨leads, _, _⟩ := names_owned_or_doubled reachable
  rcases leads _ listed with same | ⟨h, other, doubles, _⟩
  · cases elsewhere.symm.trans same
  · exact ⟨h, other, doubles⟩

end Registry

end TypeAtlas
