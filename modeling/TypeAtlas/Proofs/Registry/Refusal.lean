import TypeAtlas.Proofs.Registry.Request

/-!
Refusals leave no trace. An operation that fails leaves the registry as it was. Registering a list stops
at the first descriptor that is refused, and has then registered exactly the ones before it.
-/

namespace TypeAtlas

namespace Registry

theorem submit_unchanged {r : Registry} {q : Request} {f : Failure}
    (refused : (r.submit q).2 = .error f) : (r.submit q).1 = r := by
  obtain ⟨_, answer⟩ | ⟨_, _, _, _, _, answer⟩ | ⟨_, _, _, _, answer⟩ := r.submit_cases q
  · rw [answer]
  · rw [answer]
  · rw [answer] at refused
    cases refused

theorem struct_unchanged {r : Registry} {t : Option TypeRep} {f : Failure}
    (failed : (r.struct t).2 = .error f) : (r.struct t).1 = r := by
  obtain ⟨_, answer⟩ | ⟨_, _, _, _, answer⟩ | ⟨_, _, _, _, _, answer⟩ := r.struct_cases t
  · rw [answer]
  · rw [answer]
  · rw [answer] at failed
    cases failed

/-! ### Lists of descriptors -/

/-- Registering the descriptors one by one succeeds each time and leads from one registry to the other. -/
inductive Accepts : Registry → List Descriptor → Registry → Prop where
  | nil (r : Registry) : Accepts r [] r
  | cons {r middle last : Registry} {d : Descriptor} {rest : List Descriptor}
      (first : r.register d = (middle, .ok ())) (others : Accepts middle rest last) :
      Accepts r (d :: rest) last

/-- `d` is refused after all of `before`, and `last` is the registry that refuses it. -/
structure StopsAt (r : Registry) (before : List Descriptor) (d : Descriptor) (f : Failure)
    (last : Registry) : Prop where
  accepted : Accepts r before last
  refused : last.register d = (last, .error f)

theorem register_unchanged {r last : Registry} {d : Descriptor} {f : Failure}
    (refused : r.register d = (last, .error f)) : last = r := by
  rw [register_eq_submit] at refused
  have unchanged := submit_unchanged (congrArg Prod.snd refused)
  rw [refused] at unchanged
  exact unchanged

theorem registerAll_stops {r : Registry} {ds : List Descriptor} {f : Failure}
    (failed : (r.registerAll ds).2 = .error f) :
    ∃ before d after, ds = before ++ d :: after ∧ StopsAt r before d f (r.registerAll ds).1 := by
  induction ds generalizing r with
  | nil => cases failed
  | cons d rest ih =>
    unfold registerAll at failed ⊢
    split at failed
    · rename_i middle first
      obtain ⟨before, culprit, after, split, stops⟩ := ih failed
      refine ⟨d :: before, culprit, after, by rw [split, List.cons_append], ?_⟩
      exact ⟨.cons first stops.accepted, stops.refused⟩
    · rename_i last g refused
      cases failed
      obtain rfl := register_unchanged refused
      exact ⟨[], d, rest, rfl, .nil _, refused⟩

/-- No longer part of the list from its start could be registered one by one. -/
theorem StopsAt.longest {r last : Registry} {before after : List Descriptor} {d : Descriptor}
    {f : Failure} (stops : StopsAt r before d f last) {start : List Descriptor} {s : Registry}
    (start_of : start <+: before ++ d :: after) (accepted : Accepts r start s) :
    start.length ≤ before.length := by
  obtain ⟨accepts, refused⟩ := stops
  induction accepts generalizing start with
  | nil r =>
    cases accepted with
    | nil => exact Nat.le_refl _
    | cons first others =>
      obtain ⟨rfl, _⟩ := List.cons_prefix_cons.mp start_of
      rw [refused] at first
      cases first
  | cons first others ih =>
    cases accepted with
    | nil => exact Nat.zero_le _
    | cons first' others' =>
      rw [List.cons_append] at start_of
      obtain ⟨rfl, rest_of⟩ := List.cons_prefix_cons.mp start_of
      cases first.symm.trans first'
      exact Nat.succ_le_succ (ih rest_of others' refused)

/-- An operation that fails leaves the registry as it was. A list that fails leaves it as the longest
part that could be registered one by one does, and the next descriptor alone fails there in the same
way. -/
theorem failure_changes_nothing (r : Registry) :
    (∀ s f, (r.registerStruct s).2 = .error f → (r.registerStruct s).1 = r) ∧
      (∀ e f, (r.registerEnum e).2 = .error f → (r.registerEnum e).1 = r) ∧
      (∀ e f, (r.registerEnumOf e).2 = .error f → (r.registerEnumOf e).1 = r) ∧
      (∀ g f, (r.registerFunction g).2 = .error f → (r.registerFunction g).1 = r) ∧
      (∀ t f, (r.struct t).2 = .error f → (r.struct t).1 = r) ∧
      ∀ ds f, (r.registerAll ds).2 = .error f →
        ∃ before d after, ds = before ++ d :: after ∧ StopsAt r before d f (r.registerAll ds).1 ∧
          ∀ start s, start <+: ds → Accepts r start s → start.length ≤ before.length := by
  refine ⟨?_, ?_, ?_, ?_, ?_, ?_⟩
  · intro s f refused
    exact submit_unchanged (q := .struct s) refused
  · intro e f refused
    exact submit_unchanged (q := .enum e e.erase) refused
  · intro e f refused
    exact submit_unchanged (q := .enum e e.eraseTyped) refused
  · intro g f refused
    exact submit_unchanged (q := .function g) refused
  · intro t f failed
    exact struct_unchanged failed
  · intro ds f failed
    obtain ⟨before, d, after, rfl, stops⟩ := registerAll_stops failed
    refine ⟨before, d, after, rfl, stops, ?_⟩
    intro start s start_of accepted
    exact stops.longest start_of accepted

/-- The second of these has the kind of an array, and the third would be accepted. -/
def rowInTheMiddle : List Descriptor :=
  [.struct door, .bare .array "atlas.Row" [], .struct .noType]

theorem stopped_before_row :
    ∃ f before d after, (registerAll {} rowInTheMiddle).2 = .error f ∧
      rowInTheMiddle = before ++ d :: after ∧ before ≠ [] ∧
      StopsAt {} before d f (registerAll {} rowInTheMiddle).1 := by
  obtain ⟨_, _, _, _, _, lists⟩ := failure_changes_nothing {}
  have failed : ∃ f, (registerAll {} rowInTheMiddle).2 = .error f := ⟨_, rfl⟩
  obtain ⟨f, failed⟩ := failed
  obtain ⟨before, d, after, split, stops, longest⟩ := lists _ _ failed
  have first : 1 ≤ before.length := longest [.struct door] _ ⟨_, rfl⟩ (.cons rfl (.nil _))
  exact ⟨f, before, d, after, failed, split, List.ne_nil_of_length_pos first, stops⟩

end Registry

end TypeAtlas
