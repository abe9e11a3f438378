import TypeAtlas.Proofs.Registry.Publishing
import TypeAtlas.Proofs.Registry.Request

/-!
What is published stays. As long as a registry is not emptied, what is registered in a place remains
there and the number of descriptors does not go down. A description by reflection remains until a struct
of its type is registered; this is the only replacement there is.
-/

namespace TypeAtlas

theorem Keyed.length_le_length_set {κ ν : Type} [DecidableEq κ] (m : Keyed κ ν) (k : κ) (v : ν) :
    m.length ≤ (m.set k v).length := by
  induction m with
  | nil => exact Nat.zero_le _
  | cons e rest ih =>
    unfold set
    split
    · exact Nat.le_refl _
    · exact Nat.succ_le_succ ih

namespace Registry

/-! ### Extension -/

/-- Everything that is registered in `r` is registered in `r'`, which is no smaller. -/
structure Extends (r r' : Registry) : Prop where
  registered : ∀ p m, r.registeredAt? p = some m → r'.registeredAt? p = some m
  count : r.count ≤ r'.count

theorem Extends.refl (r : Registry) : Extends r r :=
  ⟨fun _ _ registered => registered, Nat.le_refl _⟩

theorem Extends.trans {r r' r'' : Registry} (first : Extends r r') (second : Extends r' r'') :
    Extends r r'' where
  registered p m registered := second.registered p m (first.registered p m registered)
  count := Nat.le_trans first.count second.count

theorem count_store (r : Registry) (m : Erased) : r.count ≤ (r.store m).count := by
  cases m with
  | struct m =>
    have grown := Keyed.length_le_length_set r.structs m.type m
    simp only [count, store, storeStruct]
    omega
  | enum m =>
    have grown := Keyed.length_le_length_set r.enums m.type m
    simp only [count, store, storeEnum]
    omega
  | function m =>
    have grown := Keyed.length_le_length_set r.functions m.name m
    simp only [count, store, storeFunction]
    omega

theorem extends_store {r : Registry} {m : Erased} (vacant : r.registeredAt? m.place = none) :
    Extends r (r.store m) where
  registered p m' registered := by
    rw [registeredAt?_store, if_neg, registered]
    rintro rfl
    rw [vacant] at registered
    cases registered
  count := r.count_store m

theorem extends_cacheStruct {r : Registry} {t : TypeRep} (vacant : r.structs.get? (some t) = none)
    (m : ErasedStruct) : Extends r (r.cacheStruct t m) where
  registered p m' registered := by
    rw [registeredAt?_cacheStruct vacant]
    exact registered
  count := by
    have grown := Keyed.length_le_length_set r.structs (some t) m
    simp only [count, cacheStruct]
    omega

theorem extends_submit (r : Registry) (q : Request) : Extends r (r.submit q).1 := by
  obtain ⟨_, answer⟩ | ⟨_, _, _, _, _, answer⟩ | ⟨m, _, vacant, _, answer⟩ := r.submit_cases q
  · rw [answer]
    exact .refl r
  · rw [answer]
    exact .refl r
  · rw [answer]
    exact extends_store vacant

theorem extends_submitAll (r : Registry) (qs : List Request) : Extends r (r.submitAll qs).1 := by
  induction qs generalizing r with
  | nil => exact .refl r
  | cons q rest ih =>
    rw [submitAll_cons]
    split
    · exact (r.extends_submit q).trans (ih _)
    · exact r.extends_submit q

theorem extends_struct (r : Registry) (t : Option TypeRep) : Extends r (r.struct t).1 := by
  obtain ⟨_, answer⟩ | ⟨_, _, _, _, answer⟩ | ⟨u, m, _, vacant, _, answer⟩ := r.struct_cases t
  · rw [answer]
    exact .refl r
  · rw [answer]
    exact .refl r
  · rw [answer]
    exact extends_cacheStruct vacant m

theorem extends_perform (r : Registry) {op : Operation} (keeps : op ≠ .reset) :
    Extends r (r.perform op).1 := by
  obtain ⟨t, rfl⟩ | emptied | submitted := perform_cases op
  · exact r.extends_struct t
  · exact absurd emptied keeps
  · rw [submitted r]
    exact r.extends_submitAll op.requests

theorem extends_run (r : Registry) {ops : List Operation} (keeps : .reset ∉ ops) :
    Extends r (r.run ops) := by
  induction ops generalizing r with
  | nil => exact .refl r
  | cons op rest ih =>
    rw [List.mem_cons, not_or] at keeps
    exact (r.extends_perform (Ne.symm keeps.1)).trans (ih _ keeps.2)

/-! ### Descriptions by reflection -/

/-- Somewhere in the run a struct of the type is registered. -/
def RegistersStruct (r : Registry) (ops : List Operation) (t : TypeRep) : Prop :=
  ∃ before s, (before, .struct s) ∈ r.history ops ∧ s.type = some t ∧ before.accepted (.struct s) = true

theorem Request.eq_struct_of_offered {validates : Bool} {q : Request} {m : ErasedStruct}
    (offered : q.offered? validates = some (.struct m)) : ∃ s, q = .struct s ∧ s.erase = m := by
  cases q with
  | struct s =>
    cases (offer_eq_some offered).1
    exact ⟨s, rfl, rfl⟩
  | enum e m' => cases (offer_eq_some offered).1
  | function f => cases (offer_eq_some offered).1
  | unsupported d why => cases offered

theorem get?_submit {r : Registry} {q : Request} {t : TypeRep} {m : ErasedStruct}
    (stored : r.structs.get? (some t) = some m)
    (other : ∀ s, q = .struct s → s.type = some t → r.accepted q = false) :
    (r.submit q).1.structs.get? (some t) = some m := by
  obtain ⟨_, answer⟩ | ⟨_, _, _, _, _, answer⟩ | ⟨m', offered, _, _, answer⟩ := r.submit_cases q
  · rw [answer]
    exact stored
  · rw [answer]
    exact stored
  · rw [answer]
    cases m' with
    | struct m' =>
      obtain ⟨s, rfl, rfl⟩ := q.eq_struct_of_offered offered
      show (r.structs.set s.type s.erase).get? (some t) = some m
      rw [Keyed.get?_set, if_neg, stored]
      intro here
      have accepted : r.accepted (.struct s) = true := accepted_iff.mpr (by rw [answer])
      rw [other s rfl here] at accepted
      cases accepted
    | enum m' => exact stored
    | function m' => exact stored

theorem get?_submitAll {r : Registry} {qs : List Request} {t : TypeRep} {m : ErasedStruct}
    (stored : r.structs.get? (some t) = some m)
    (other : ∀ before s, (before, .struct s) ∈ r.attempts qs → s.type = some t →
      before.accepted (.struct s) = false) :
    (r.submitAll qs).1.structs.get? (some t) = some m := by
  induction qs generalizing r with
  | nil => exact stored
  | cons q rest ih =>
    have first : (r.submit q).1.structs.get? (some t) = some m := by
      refine get?_submit stored ?_
      rintro s rfl type
      exact other r s List.mem_cons_self type
    rw [submitAll_cons]
    split
    · rename_i accepted
      refine ih first ?_
      intro before s member type
      refine other before s (List.mem_cons_of_mem _ ?_) type
      rw [if_pos accepted]
      exact member
    · exact first

theorem get?_struct {r : Registry} {t : TypeRep} {m : ErasedStruct}
    (stored : r.structs.get? (some t) = some m) (u : Option TypeRep) :
    (r.struct u).1.structs.get? (some t) = some m := by
  obtain ⟨_, answer⟩ | ⟨_, _, _, _, answer⟩ | ⟨v, m', _, vacant, _, answer⟩ := r.struct_cases u
  · rw [answer]
    exact stored
  · rw [answer]
    exact stored
  · rw [answer]
    exact Keyed.get?_set_of_vacant vacant stored

theorem get?_run {r : Registry} {ops : List Operation} {t : TypeRep} {m : ErasedStruct}
    (keeps : .reset ∉ ops) (stored : r.structs.get? (some t) = some m)
    (other : ¬ r.RegistersStruct ops t) : (r.run ops).structs.get? (some t) = some m := by
  induction ops generalizing r with
  | nil => exact stored
  | cons op rest ih =>
    rw [List.mem_cons, not_or] at keeps
    have next : (r.perform op).1.structs.get? (some t) = some m := by
      obtain ⟨u, rfl⟩ | emptied | submitted := perform_cases op
      · exact get?_struct stored u
      · exact absurd emptied.symm keeps.1
      · rw [submitted r]
        refine get?_submitAll stored ?_
        intro before s member type
        apply Bool.eq_false_iff.mpr
        intro accepted
        exact other ⟨before, s, List.mem_append_left _ member, type, accepted⟩
    refine ih keeps.2 next ?_
    rintro ⟨before, s, member, type, accepted⟩
    exact other ⟨before, s, List.mem_append_right _ member, type, accepted⟩

/-! ### What lookups find -/

theorem registeredAt?_submit_struct {r : Registry} {s : StructInfo}
    (accepted : (r.submit (.struct s)).2 = .ok ()) :
    ∃ m, sameStruct m s.erase = true ∧
      (r.submit (.struct s)).1.registeredAt? (.struct s.type) = some (.struct m) := by
  obtain ⟨_, answer⟩ | ⟨m, previous, offered, registered, same, answer⟩ | ⟨m, offered, _, _, answer⟩ :=
    r.submit_cases (.struct s)
  · rw [answer] at accepted
    cases accepted
  · cases (offer_eq_some offered).1
    rw [answer]
    obtain ⟨previous, _, rfl⟩ := Option.map_eq_some_iff.mp registered
    exact ⟨previous, same, registered⟩
  · cases (offer_eq_some offered).1
    rw [answer, registeredAt?_store]
    exact ⟨s.erase, (sameStruct_iff _ _).mpr rfl, if_pos rfl⟩

theorem struct_of_registeredAt? {r : Registry} {t : TypeRep} {m : ErasedStruct}
    (registered : r.registeredAt? (.struct (some t)) = some (.struct m)) :
    r.struct (some t) = (r, .ok m) :=
  struct_of_get? (registeredAt?_struct_iff.mp registered).2

theorem get?_of_struct {r : Registry} {t : TypeRep} {m : ErasedStruct}
    (found : (r.struct (some t)).2 = .ok m) : (r.struct (some t)).1.structs.get? (some t) = some m := by
  obtain ⟨_, answer⟩ | ⟨_, _, type, stored, answer⟩ | ⟨_, _, type, _, _, answer⟩ :=
    r.struct_cases (some t)
  · rw [answer] at found
    cases found
  · rw [answer] at found ⊢
    cases found
    cases type
    exact stored
  · rw [answer] at found ⊢
    cases found
    cases type
    exact Keyed.get?_set_self r.structs (some t) m

/-- In every registry that operations can lead to, descriptors are stored under what they describe and
reflected types have a description. From there on, until the registry is emptied: a struct whose
registration succeeds is found by every later lookup of its type, and so is every enumeration and every
function that is there; what a lookup of a type answers, be it a description by reflection, the next
lookups answer until a struct of that type is registered; and there are never fewer descriptors. -/
theorem published_stays {r : Registry} (reachable : r.Reachable) :
    r.Consistent ∧
      (∀ s t, s.type = some t → (r.registerStruct s).2 = .ok () →
        ∃ m, sameStruct m s.erase = true ∧ ∀ later, .reset ∉ later →
          (((r.registerStruct s).1.run later).struct (some t)).2 = .ok m) ∧
      (∀ t m, (r.struct (some t)).2 = .ok m → ∀ later, .reset ∉ later →
        ¬ (r.struct (some t)).1.RegistersStruct later t →
          (((r.struct (some t)).1.run later).struct (some t)).2 = .ok m) ∧
      ∀ later, .reset ∉ later →
        r.count ≤ (r.run later).count ∧
        (∀ t m, r.enum? t = some m → (r.run later).enum? t = some m) ∧
        ∀ n m, r.function? n = some m → (r.run later).function? n = some m := by
  refine ⟨consistent_of_reachable reachable, ?_, ?_, ?_⟩
  · intro s t type accepted
    obtain ⟨m, same, registered⟩ := registeredAt?_submit_struct accepted
    refine ⟨m, same, ?_⟩
    intro later keeps
    rw [type] at registered
    have stays := (extends_run _ keeps).registered _ _ registered
    exact congrArg Prod.snd (struct_of_registeredAt? stays)
  · intro t m found later keeps other
    have stays := get?_run keeps (get?_of_struct found) other
    exact congrArg Prod.snd (struct_of_get? stays)
  · intro later keeps
    have extension := r.extends_run keeps
    refine ⟨extension.count, ?_, ?_⟩
    · intro t m found
      exact registeredAt?_enum_iff.mp (extension.registered _ _ (registeredAt?_enum_iff.mpr found))
    · intro n m found
      exact registeredAt?_function_iff.mp
        (extension.registered _ _ (registeredAt?_function_iff.mpr found))

/-- The type keeps its description while something else is registered, and then the door replaces it. -/
theorem gate_stays_until_door :
    ((run {} [.struct (some gateType), .registerEnum (signal [])]).struct (some gateType)).2 =
        (({} : Registry).struct (some gateType)).2 ∧
      ∃ m, sameStruct m door.erase = true ∧
        ((run {} [.struct (some gateType), .registerStruct door, .registerEnum (signal [])]).struct
          (some gateType)).2 = .ok m := by
  obtain ⟨_, _, described, _⟩ := published_stays (r := {}) ⟨true, true, [], rfl⟩
  obtain ⟨_, registered, _⟩ :=
    published_stays (r := run {} [.struct (some gateType)]) ⟨true, true, _, rfl⟩
  constructor
  · refine described gateType _ rfl [.registerEnum (signal [])] (by simp) ?_
    rintro ⟨before, s, member, _, _⟩
    cases member with
    | tail _ later => cases later
  · obtain ⟨m, same, stays⟩ := registered door gateType rfl rfl
    exact ⟨m, same, stays [.registerEnum (signal [])] (by simp)⟩

end Registry

end TypeAtlas
