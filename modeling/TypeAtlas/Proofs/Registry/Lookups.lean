import TypeAtlas.Proofs.Registry.Ownership
import TypeAtlas.Proofs.Registry.Publishing
import TypeAtlas.Proofs.Registry.Refusal

/-!
What lookups do to registrations. A lookup registers nothing, so two runs that differ by lookups agree on
what is registered and on whose the names are. They part only where a description by reflection took a
name: a request for that name is then refused, although nobody registered the name, unless the request
describes the same type and is not a function.
-/

namespace TypeAtlas

namespace Registry

/-! ### Names that reflection took -/

/-- The name leads to the descriptor, which is registered. -/
def Owns (r : Registry) (n : Text) (m : Erased) : Prop :=
  r.byName.get? n = some m.descriptor ∧ r.Registered m

/-- The name leads to a description by reflection that is not registered, and of another type; a function
is barred by every type. -/
def Barred (r : Registry) (m : Erased) : Prop :=
  ∃ t h, Reflection.struct t = .ok h ∧ r.lookup? m.name = some (.erasedStruct h) ∧
    ¬ r.Registered (.struct h) ∧ (some t ≠ m.type ∨ m.isFunction = true)

/-- The request has a vacant place and is fit for it, but its name is barred. -/
def Hindered (r : Registry) (q : Request) : Prop :=
  ∃ m, q.offered? r.validates = some m ∧ r.registeredAt? m.place = none ∧ r.Barred m

/-- A name leads to a registered descriptor or to a description by reflection. -/
theorem Named.holder_cases {r : Registry} (named : r.Named) (consistent : r.Consistent) {n : Text}
    {d : Descriptor} (taken : r.byName.get? n = some d) :
    (∃ h, d = h.descriptor ∧ r.Registered h) ∨
      ∃ t h, d = .erasedStruct h ∧ Reflection.struct t = .ok h ∧ ¬ r.Registered (.struct h) := by
  obtain ⟨_, stored | superseded⟩ := named n d taken
  · cases d with
    | erasedStruct h =>
      cases reflected : r.isReflected h.type with
      | false => exact .inl ⟨.struct h, rfl, registeredAt?_struct_iff.mpr ⟨reflected, stored⟩⟩
      | true =>
        obtain ⟨t, _, _, found, described⟩ := consistent.reflected _ reflected
        cases stored.symm.trans found
        refine .inr ⟨t, h, rfl, described, ?_⟩
        intro registered
        rw [(registeredAt?_struct_iff.mp registered).1] at reflected
        cases reflected
    | erasedEnum h => exact .inl ⟨.enum h, rfl, registeredAt?_enum_iff.mpr stored⟩
    | erasedFunction h => exact .inl ⟨.function h, rfl, registeredAt?_function_iff.mpr stored⟩
    | _ => cases stored
  · obtain ⟨t, h, current, rfl, described, replaced, renamed⟩ := superseded
    refine .inr ⟨t, h, rfl, described, ?_⟩
    intro registered
    have stored : r.Stores (.erasedStruct h) := (registeredAt?_struct_iff.mp registered).2
    exact not_superseded_of_stores stored ⟨t, h, current, rfl, described, replaced, renamed⟩

theorem hasRoom_of_free {r : Registry} {m : Erased} (free : r.byName.get? m.name = none) :
    r.hasRoom m = true := by
  cases m with
  | struct m =>
    have free : r.byName.get? m.name = none := free
    simp only [hasRoom, nameIsFree, free]
  | enum m =>
    have free : r.byName.get? m.name = none := free
    simp only [hasRoom, nameIsFree, free]
  | function m =>
    have free : r.byName.get? m.name = none := free
    simp only [hasRoom, free, Option.isNone_none]

theorem leads_unique {r : Registry} {n : Text} {a b : Erased}
    (first : r.byName.get? n = some a.descriptor) (second : r.byName.get? n = some b.descriptor) :
    a = b :=
  Erased.descriptor_injective (Option.some.inj (first.symm.trans second))

theorem not_barred_of_owns {r : Registry} {m h : Erased} (owns : r.Owns m.name h) : ¬ r.Barred m := by
  rintro ⟨_, h', _, leads, unregistered, _⟩
  obtain rfl := leads_unique (b := .struct h') owns.1 leads
  exact unregistered owns.2

theorem barred_iff_of_described {r : Registry} {m : Erased} {t : TypeRep} {h : ErasedStruct}
    (described : Reflection.struct t = .ok h) (leads : r.byName.get? m.name = some (.erasedStruct h))
    (unregistered : ¬ r.Registered (.struct h)) :
    r.Barred m ↔ some t ≠ m.type ∨ m.isFunction = true := by
  constructor
  · rintro ⟨t', h', described', leads', _, bars⟩
    cases leads.symm.trans leads'
    have same : some t' = some t :=
      (Reflection.type_of_struct described').symm.trans (Reflection.type_of_struct described)
    rw [same] at bars
    exact bars
  · intro bars
    exact ⟨t, h, described, leads, unregistered, bars⟩

/-- There is room for a descriptor if the owner of its name leaves room and reflection does not bar it. -/
theorem Named.hasRoom_iff {r : Registry} (named : r.Named) (consistent : r.Consistent) (m : Erased) :
    r.hasRoom m = true ↔
      (∀ h, r.Owns m.name h → h.type = m.type ∧ m.isFunction = false) ∧ ¬ r.Barred m := by
  cases taken : r.byName.get? m.name with
  | none =>
    refine ⟨fun _ => ⟨?_, ?_⟩, fun _ => hasRoom_of_free taken⟩
    · rintro h ⟨leads, _⟩
      cases taken.symm.trans leads
    · rintro ⟨_, _, _, leads, _⟩
      cases taken.symm.trans leads
  | some d =>
    rw [hasRoom_of_taken taken]
    obtain ⟨h, rfl, registered⟩ | ⟨t, h, rfl, described, unregistered⟩ :=
      named.holder_cases consistent taken
    · have owns : r.Owns m.name h := ⟨taken, registered⟩
      constructor
      · intro fits
        refine ⟨?_, not_barred_of_owns owns⟩
        rintro h' ⟨leads, _⟩
        obtain rfl := leads_unique taken leads
        exact fits
      · rintro ⟨owner, _⟩
        exact owner h owns
    · have unowned : ∀ h', ¬ r.Owns m.name h' := by
        rintro h' ⟨leads, registered⟩
        obtain rfl := leads_unique (a := .struct h) taken leads
        exact unregistered registered
      have type : (Descriptor.erasedStruct h).type = some t := Reflection.type_of_struct described
      rw [barred_iff_of_described described taken unregistered, type]
      simp [unowned]

/-! ### Registries that agree on what is registered -/

structure Agree (a b : Registry) : Prop where
  first : a.Consistent ∧ a.Named
  second : b.Consistent ∧ b.Named
  validates : a.validates = b.validates
  registered : ∀ p, a.registeredAt? p = b.registeredAt? p
  owners : ∀ n m, a.Owns n m ↔ b.Owns n m

theorem Agree.symm {a b : Registry} (agree : Agree a b) : Agree b a where
  first := agree.second
  second := agree.first
  validates := agree.validates.symm
  registered p := (agree.registered p).symm
  owners n m := (agree.owners n m).symm

theorem owns_store_iff {r : Registry} {m : Erased} (named : r.Named)
    (vacant : r.registeredAt? m.place = none) (n : Text) (m' : Erased) :
    (r.store m).Owns n m' ↔ if m.name = n then m' = m else r.Owns n m' := by
  unfold Owns
  rw [byName_store, Keyed.get?_set, registered_store_iff vacant]
  split
  · constructor
    · rintro ⟨leads, _⟩
      exact (Erased.descriptor_injective (Option.some.inj leads)).symm
    · rintro rfl
      exact ⟨rfl, .inl rfl⟩
  · rename_i other
    refine and_congr_right ?_
    intro leads
    refine or_iff_right ?_
    rintro rfl
    exact other (named n _ leads).1

theorem owns_cacheStruct_iff {r : Registry} {t : TypeRep} {m : ErasedStruct}
    (vacant : r.structs.get? (some t) = none) (described : Reflection.struct t = .ok m) (n : Text)
    (m' : Erased) : (r.cacheStruct t m).Owns n m' ↔ r.Owns n m' := by
  unfold Owns
  rw [registered_cacheStruct_iff vacant]
  refine and_congr_left ?_
  intro registered
  cases taken : r.byName.get? n with
  | some d => rw [byName_cacheStruct_of_taken taken]
  | none =>
    simp only [cacheStruct, reduceCtorEq, iff_false]
    split
    · rw [Keyed.get?_set]
      split
      · -- The name now leads to the description, and nothing is registered for its type.
        intro leads
        obtain rfl := Erased.descriptor_injective (a := .struct m) (Option.some.inj leads)
        have stored := (registeredAt?_struct_iff.mp registered).2
        rw [Reflection.type_of_struct described, vacant] at stored
        cases stored
      · intro leads
        cases taken.symm.trans leads
    · intro leads
      cases taken.symm.trans leads

theorem Agree.store {a b : Registry} (agree : Agree a b) {m : Erased}
    (vacant : a.registeredAt? m.place = none)
    (first : (a.store m).Consistent ∧ (a.store m).Named)
    (second : (b.store m).Consistent ∧ (b.store m).Named) : Agree (a.store m) (b.store m) where
  first := first
  second := second
  validates := by rw [validates_store, validates_store, agree.validates]
  registered p := by rw [registeredAt?_store, registeredAt?_store, agree.registered]
  owners n m' := by
    rw [owns_store_iff agree.first.2 vacant,
      owns_store_iff agree.second.2 (agree.registered m.place ▸ vacant)]
    split
    · rfl
    · exact agree.owners n m'

/-- A lookup on one side keeps the agreement. -/
theorem Agree.struct {a b : Registry} (agree : Agree a b) (t : Option TypeRep) :
    Agree (a.struct t).1 b := by
  have first := Named.step (a.step_struct t) agree.first
  obtain ⟨_, answer⟩ | ⟨_, _, _, _, answer⟩ | ⟨u, m, _, vacant, described, answer⟩ := a.struct_cases t
  · rw [answer]
    exact agree
  · rw [answer]
    exact agree
  · rw [answer] at first ⊢
    exact {
      first
      second := agree.second
      validates := agree.validates
      registered := fun p => (registeredAt?_cacheStruct vacant m p).trans (agree.registered p)
      owners := fun n m' => (owns_cacheStruct_iff vacant described n m').trans (agree.owners n m') }

theorem Agree.reset {a b : Registry} (agree : Agree a b) : Agree a.reset b.reset where
  first := Named.step .reset agree.first
  second := Named.step .reset agree.second
  validates := agree.validates
  registered p := by cases p <;> rfl
  owners n m := Iff.rfl

theorem submit_of_refused {r : Registry} {q : Request} (refused : r.accepted q = false) :
    (r.submit q).1 = r := by
  cases answer : (r.submit q).2 with
  | error f => exact submit_unchanged answer
  | ok u =>
    rw [accepted_iff.mpr answer] at refused
    cases refused

theorem submit_of_accepted {r : Registry} {q : Request} (accepted : r.accepted q = true) :
    ∃ m, q.offered? r.validates = some m ∧
      (r.submit q).1 = if r.registeredAt? m.place = none then r.store m else r := by
  rw [accepted_iff] at accepted
  obtain ⟨_, answer⟩ | ⟨m, previous, offered, registered, _, answer⟩ | ⟨m, offered, vacant, _, answer⟩ :=
    r.submit_cases q
  · rw [answer] at accepted
    cases accepted
  · exact ⟨m, offered, by rw [answer, registered, if_neg nofun]⟩
  · exact ⟨m, offered, by rw [answer, if_pos vacant]⟩

/-- Requests that get the same answer on both sides keep the agreement. -/
theorem Agree.submit {a b : Registry} (agree : Agree a b) {q : Request}
    (alike : a.accepted q = b.accepted q) : Agree (a.submit q).1 (b.submit q).1 := by
  have first := Named.step (a.step_submit q) agree.first
  have second := Named.step (b.step_submit q) agree.second
  cases accepted : b.accepted q with
  | false =>
    rw [submit_of_refused (alike.trans accepted), submit_of_refused accepted]
    exact agree
  | true =>
    obtain ⟨m, offered, after⟩ := submit_of_accepted (alike.trans accepted)
    obtain ⟨m', offered', after'⟩ := submit_of_accepted accepted
    rw [agree.validates, offered'] at offered
    cases offered
    rw [agree.registered] at after
    rw [after] at first ⊢
    rw [after'] at second ⊢
    split at first
    · rename_i vacant
      rw [if_pos vacant] at second
      rw [if_pos vacant, if_pos vacant]
      exact agree.store (agree.registered _ ▸ vacant) first second
    · rename_i taken
      rw [if_neg taken, if_neg taken]
      exact agree

/-- What one side refuses and the other accepts is hindered on the side that refuses it. -/
theorem Agree.hindered {a b : Registry} (agree : Agree a b) {q : Request}
    (refused : a.accepted q = false) (accepted : b.accepted q = true) : a.Hindered q := by
  obtain ⟨m, offered, _⟩ := submit_of_accepted accepted
  have offered' : q.offered? a.validates = some m := by rw [agree.validates, offered]
  rw [accepted_iff, submit_of_offered offered, publish_ok_iff] at accepted
  rw [Bool.eq_false_iff, ne_eq, accepted_iff, submit_of_offered offered', publish_ok_iff,
    agree.registered] at refused
  rcases accepted with repeated | ⟨vacant, room⟩
  · exact absurd (.inl repeated) refused
  · refine ⟨m, offered', (agree.registered m.place).trans vacant, ?_⟩
    apply Classical.byContradiction
    intro clear
    refine refused (.inr ⟨vacant, (agree.first.2.hasRoom_iff agree.first.1 m).mpr ⟨?_, clear⟩⟩)
    intro h owns
    exact ((agree.second.2.hasRoom_iff agree.second.1 m).mp room).1 h ((agree.owners _ h).mp owns)

/-! ### Runs with more lookups -/

/-- The second list is the first with lookups inserted. -/
inductive Padded : List Operation → List Operation → Prop where
  | nil : Padded [] []
  | keep {ops padded : List Operation} (op : Operation) (rest : Padded ops padded) :
      Padded (op :: ops) (op :: padded)
  | insert {ops padded : List Operation} (t : Option TypeRep) (rest : Padded ops padded) :
      Padded ops (.struct t :: padded)

/-- Two histories that put the same requests and get the same answers, up to a request that one of them
accepts and the other, where it is hindered, refuses. -/
inductive AlikeUntilHindered : List (Registry × Request) → List (Registry × Request) → Prop where
  | done : AlikeUntilHindered [] []
  | alike {a b : Registry} {q : Request} {x y : List (Registry × Request)}
      (same : a.accepted q = b.accepted q) (rest : AlikeUntilHindered x y) :
      AlikeUntilHindered ((a, q) :: x) ((b, q) :: y)
  | left {a b : Registry} {q : Request} {x y : List (Registry × Request)}
      (hindered : a.Hindered q) (refused : a.accepted q = false) (accepted : b.accepted q = true) :
      AlikeUntilHindered ((a, q) :: x) ((b, q) :: y)
  | right {a b : Registry} {q : Request} {x y : List (Registry × Request)}
      (hindered : b.Hindered q) (refused : b.accepted q = false) (accepted : a.accepted q = true) :
      AlikeUntilHindered ((a, q) :: x) ((b, q) :: y)

theorem Agree.attempts_alike {a b : Registry} (agree : Agree a b) (qs : List Request)
    {x y : List (Registry × Request)}
    (rest : Agree (a.submitAll qs).1 (b.submitAll qs).1 → AlikeUntilHindered x y) :
    AlikeUntilHindered (a.attempts qs ++ x) (b.attempts qs ++ y) := by
  induction qs generalizing a b with
  | nil => exact rest agree
  | cons q qs ih =>
    rw [submitAll_cons, submitAll_cons] at rest
    unfold attempts
    rw [List.cons_append, List.cons_append]
    cases first : a.accepted q <;> cases second : b.accepted q
    · refine .alike (first.trans second.symm) ?_
      rw [first, second] at rest
      exact rest (agree.submit (first.trans second.symm))
    · exact .left (agree.hindered first second) first second
    · exact .right (agree.symm.hindered second first) second first
    · refine .alike (first.trans second.symm) ?_
      rw [first, second] at rest
      exact ih (agree.submit (first.trans second.symm)) rest

theorem Padded.alike {ops padded : List Operation} (inserted : Padded ops padded) {a b : Registry}
    (agree : Agree a b) : AlikeUntilHindered (a.history padded) (b.history ops) := by
  induction inserted generalizing a b with
  | nil => exact .done
  | keep op _ ih =>
    obtain ⟨t, rfl⟩ | rfl | submitted := perform_cases op
    · exact ih ((agree.struct t).symm.struct t).symm
    · exact ih agree.reset
    · refine agree.attempts_alike op.requests ?_
      intro after
      rw [← submitted, ← submitted] at after
      exact ih after
  | insert t _ ih => exact ih (agree.struct t)

/-- The requests of a history with their answers. -/
def answers (h : List (Registry × Request)) : List (Request × Bool) :=
  h.map fun c => (c.2, c.1.accepted c.2)

theorem AlikeUntilHindered.answers_eq {x y : List (Registry × Request)} (alike : AlikeUntilHindered x y)
    (first : ∀ c ∈ x, ¬ c.1.Hindered c.2) (second : ∀ c ∈ y, ¬ c.1.Hindered c.2) :
    answers x = answers y := by
  induction alike with
  | done => rfl
  | alike same _ ih =>
    have rest := ih (fun c member => first c (List.mem_cons_of_mem _ member))
      (fun c member => second c (List.mem_cons_of_mem _ member))
    unfold answers at rest ⊢
    rw [List.map_cons, List.map_cons, rest, same]
  | left hindered => exact absurd hindered (first _ List.mem_cons_self)
  | right hindered => exact absurd hindered (second _ List.mem_cons_self)

/-- Two runs from an empty registry, one with more lookups than the other, put the same requests and get
the same answers up to one that is hindered in one of the runs and refused there. So all answers are the
same if no request is hindered. -/
theorem lookups_only_hinder {ops padded : List Operation} (inserted : Padded ops padded)
    (fallback validates : Bool) :
    AlikeUntilHindered (history { fallback, validates } padded) (history { fallback, validates } ops) ∧
      ((∀ c ∈ history { fallback, validates } padded, ¬ c.1.Hindered c.2) →
        (∀ c ∈ history { fallback, validates } ops, ¬ c.1.Hindered c.2) →
        answers (history { fallback, validates } padded) =
          answers (history { fallback, validates } ops)) := by
  have sound : ({ fallback, validates } : Registry).Consistent ∧
      ({ fallback, validates } : Registry).Named :=
    ⟨consistent_reset { fallback, validates }, fun _ _ found => nomatch found⟩
  have alike := inserted.alike (a := { fallback, validates }) (b := { fallback, validates })
    ⟨sound, sound, rfl, fun _ => rfl, fun _ _ => Iff.rfl⟩
  exact ⟨alike, alike.answers_eq⟩

/-! ### A lookup that stands in the way -/

/-- A function under the name that the gate has by reflection. -/
def gateCall : FunctionInfo :=
  { ring [] with name := "atlas.Gate" }

theorem gate_lookup_hinders :
    answers (history {} [.registerFunction gateCall]) = [(.function gateCall, true)] ∧
      answers (history {} [.struct (some gateType), .registerFunction gateCall]) =
        [(.function gateCall, false)] ∧
      ∃ c ∈ history {} [.struct (some gateType), .registerFunction gateCall], c.1.Hindered c.2 := by
  have inserted : Padded [.registerFunction gateCall]
      [.struct (some gateType), .registerFunction gateCall] := .insert _ (.keep _ .nil)
  refine ⟨rfl, rfl, ?_⟩
  obtain ⟨alike, _⟩ := lookups_only_hinder inserted true true
  cases alike with
  | alike same _ => cases same
  | left hindered => exact ⟨_, List.mem_cons_self, hindered⟩
  | right _ refused => cases refused

end Registry

end TypeAtlas
