import TypeAtlas.Proofs.Erasure
import TypeAtlas.Proofs.Registry.Reflection

/-!
A registry that validates answers only with structs that keep their contract. What was registered passed
the check when it came in, and the copy that is kept answers like the original; what reflection describes
passes it by construction.
-/

namespace TypeAtlas

namespace Registry

/-- If the registry validates, every registered struct keeps its contract. -/
def Vetted (r : Registry) : Prop :=
  r.validates = true → ∀ t m, r.registeredAt? (.struct t) = some (.struct m) → m.info.validate = .ok ()

theorem vetted_reset (r : Registry) : r.reset.Vetted :=
  fun _ _ _ registered => nomatch registered

/-- The copy of an offered struct keeps its contract if the original had to. -/
theorem Request.validate_of_offered {q : Request} {m : ErasedStruct}
    (offered : q.offered? true = some (.struct m)) : m.info.validate = .ok () := by
  obtain ⟨s, rfl, rfl⟩ := q.eq_struct_of_offered offered
  have kept := (offer_eq_some offered).2 rfl
  rw [StructInfo.info_erase kept, kept]

theorem Vetted.store {r : Registry} {q : Request} {m : Erased} (before : r.Vetted)
    (offered : q.offered? r.validates = some m) : (r.store m).Vetted := by
  intro validates t s registered
  rw [validates_store] at validates
  rw [registeredAt?_store] at registered
  split at registered
  · cases registered
    rw [validates] at offered
    exact Request.validate_of_offered offered
  · exact before validates t s registered

theorem Vetted.submit {r : Registry} (before : r.Vetted) (q : Request) : (r.submit q).1.Vetted := by
  obtain ⟨_, answer⟩ | ⟨_, _, _, _, _, answer⟩ | ⟨m, offered, _, _, answer⟩ := r.submit_cases q
  · rw [answer]
    exact before
  · rw [answer]
    exact before
  · rw [answer]
    exact before.store offered

theorem Vetted.submitAll {r : Registry} (before : r.Vetted) (qs : List Request) :
    (r.submitAll qs).1.Vetted := by
  induction qs generalizing r with
  | nil => exact before
  | cons q rest ih =>
    rw [submitAll_cons]
    split
    · exact ih (before.submit q)
    · exact before.submit q

/-- A description by reflection registers nothing. -/
theorem Vetted.struct {r : Registry} (before : r.Vetted) (t : Option TypeRep) :
    (r.struct t).1.Vetted := by
  obtain ⟨_, answer⟩ | ⟨_, _, _, _, answer⟩ | ⟨u, m, _, vacant, _, answer⟩ := r.struct_cases t
  · rw [answer]
    exact before
  · rw [answer]
    exact before
  · rw [answer]
    intro validates k s registered
    rw [registeredAt?_cacheStruct vacant] at registered
    exact before validates k s registered

theorem Vetted.perform {r : Registry} (before : r.Vetted) (op : Operation) :
    (r.perform op).1.Vetted := by
  obtain ⟨t, rfl⟩ | rfl | submitted := perform_cases op
  · exact before.struct t
  · exact vetted_reset r
  · rw [submitted r]
    exact before.submitAll op.requests

theorem Vetted.run {r : Registry} (before : r.Vetted) (ops : List Operation) : (r.run ops).Vetted := by
  induction ops generalizing r with
  | nil => exact before
  | cons op rest ih => exact ih (before.perform op)

theorem vetted_of_reachable {r : Registry} (reachable : r.Reachable) : r.Vetted := by
  obtain ⟨fallback, validates, ops, rfl⟩ := reachable
  exact (vetted_reset { fallback, validates }).run ops

theorem validates_struct (r : Registry) (t : Option TypeRep) : (r.struct t).1.validates = r.validates := by
  obtain ⟨_, answer⟩ | ⟨_, _, _, _, answer⟩ | ⟨_, _, _, _, _, answer⟩ := r.struct_cases t <;> rw [answer]
  rfl

/-- The struct that a validating registry answers for a type keeps its contract, whether it was
registered or described by reflection. -/
theorem validate_of_struct {r : Registry} {t : TypeRep} {m : ErasedStruct} (reachable : r.Reachable)
    (validates : r.validates = true)
    (proper : ∀ members, t.fields? = some members → t.IsStruct members)
    (answer : (r.struct (some t)).2 = .ok m) : m.info.validate = .ok () := by
  have stored := get?_of_struct answer
  cases reflected : (r.struct (some t)).1.isReflected (some t) with
  | false =>
    have vetted := (vetted_of_reachable reachable).struct (some t)
    rw [← validates_struct r (some t)] at validates
    exact vetted validates (some t) m (registeredAt?_struct_iff.mpr ⟨reflected, stored⟩)
  | true =>
    have after := (consistent_of_reachable reachable).step (r.step_struct (some t))
    obtain ⟨u, m', type, described, reflection⟩ := after.reflected (some t) reflected
    cases type
    rw [stored] at described
    cases described
    cases struct : t.fields? with
    | none =>
      rw [Reflection.struct, struct] at reflection
      cases reflection
    | some members => exact Reflection.validate_struct (proper members struct) reflection

end Registry

end TypeAtlas
