import TypeAtlas.Abort

/-!
Opening results: what a success, or a failure, says about the steps that led to it.
-/

namespace TypeAtlas

/-- Nothing was collected exactly if there is no failure. -/
theorem Failure.ofFaults_eq_ok_iff {subject : Text} {faults : List Fault} :
    Failure.ofFaults subject faults = .ok () ↔ faults = [] := by
  unfold Failure.ofFaults
  split
  · rename_i empty
    exact ⟨fun _ => List.isEmpty_iff.mp empty, fun _ => rfl⟩
  · rename_i some
    exact ⟨nofun, fun empty => absurd (List.isEmpty_iff.mpr empty) some⟩

theorem map_eq_ok {α β ε : Type} {x : Except ε α} {f : α → β} {b : β} (done : x.map f = .ok b) :
    ∃ a, x = .ok a ∧ f a = b := by
  cases x with
  | error e => cases done
  | ok a =>
    cases done
    exact ⟨a, rfl, rfl⟩

theorem map_eq_error {α β ε : Type} {x : Except ε α} {f : α → β} {e : ε} (stopped : x.map f = .error e) :
    x = .error e := by
  cases x with
  | error e' =>
    cases stopped
    rfl
  | ok a => cases stopped

theorem bind_eq_ok {α β ε : Type} {x : Except ε α} {f : α → Except ε β} {b : β}
    (done : x >>= f = .ok b) : ∃ a, x = .ok a ∧ f a = .ok b := by
  cases x with
  | error e => cases done
  | ok a => exact ⟨a, rfl, done⟩

/-- Going over a list succeeds with the results of its members, in their order. -/
theorem mapM_eq_ok {α β ε : Type} {f : α → Except ε β} {xs : List α} {ys : List β}
    (done : xs.mapM f = .ok ys) :
    ys.length = xs.length ∧
      ∀ (i : Nat) x y, xs[i]? = some x → ys[i]? = some y → f x = .ok y := by
  induction xs generalizing ys with
  | nil =>
    cases done
    exact ⟨rfl, fun i x y found => by simp at found⟩
  | cons x xs ih =>
    rw [List.mapM_cons] at done
    cases first : f x with
    | error e =>
      rw [first] at done
      cases done
    | ok y =>
      rw [first] at done
      cases rest : xs.mapM f with
      | error e =>
        rw [rest] at done
        cases done
      | ok ys' =>
        rw [rest] at done
        cases done
        obtain ⟨length, each⟩ := ih rest
        refine ⟨by rw [List.length_cons, List.length_cons, length], ?_⟩
        intro i a b found placed
        cases i with
        | zero =>
          cases found
          cases placed
          exact first
        | succ i => exact each i a b found placed

theorem mapM_congr {α β ε : Type} {f g : α → Except ε β} {xs : List α} (same : ∀ x ∈ xs, f x = g x) :
    xs.mapM f = xs.mapM g := by
  induction xs with
  | nil => rfl
  | cons x xs ih =>
    rw [List.mapM_cons, List.mapM_cons, same x List.mem_cons_self,
      ih fun x member => same x (List.mem_cons_of_mem _ member)]

/-- What is undone step by step is undone for a list. -/
theorem mapM_map_eq_ok {α β ε : Type} {f : α → Except ε β} {g : β → α} {ys : List β}
    (each : ∀ y ∈ ys, f (g y) = .ok y) : (ys.map g).mapM f = .ok ys := by
  induction ys with
  | nil => rfl
  | cons y ys ih =>
    obtain ⟨first, others⟩ := List.forall_mem_cons.mp each
    rw [List.map_cons, List.mapM_cons, first, ih others]
    rfl

theorem exists_of_mapM_eq_ok {α β ε : Type} {f : α → Except ε β} {xs : List α} {ys : List β}
    (done : xs.mapM f = .ok ys) : ∀ y ∈ ys, ∃ x ∈ xs, f x = .ok y := by
  intro y member
  obtain ⟨length, each⟩ := mapM_eq_ok done
  obtain ⟨i, found⟩ := List.getElem?_of_mem member
  have bound := (List.getElem?_eq_some_iff.mp found).1
  rw [length] at bound
  have place := List.getElem?_eq_getElem bound
  exact ⟨_, List.mem_of_getElem? place, each i _ y place found⟩

theorem exists_result_of_mapM_eq_ok {α β ε : Type} {f : α → Except ε β} {xs : List α} {ys : List β}
    (done : xs.mapM f = .ok ys) : ∀ x ∈ xs, ∃ y ∈ ys, f x = .ok y := by
  intro x member
  obtain ⟨length, each⟩ := mapM_eq_ok done
  obtain ⟨i, found⟩ := List.getElem?_of_mem member
  have bound := (List.getElem?_eq_some_iff.mp found).1
  rw [← length] at bound
  have place := List.getElem?_eq_getElem bound
  exact ⟨_, List.mem_of_getElem? place, each i x _ found place⟩

theorem exists_of_mapM_eq_error {α β ε : Type} {f : α → Except ε β} {xs : List α} {e : ε}
    (stopped : xs.mapM f = .error e) : ∃ x ∈ xs, f x = .error e := by
  induction xs with
  | nil => cases stopped
  | cons x xs ih =>
    rw [List.mapM_cons] at stopped
    cases first : f x with
    | error e' =>
      rw [first] at stopped
      cases stopped
      exact ⟨x, List.mem_cons_self, first⟩
    | ok y =>
      rw [first] at stopped
      cases rest : xs.mapM f with
      | error e' =>
        rw [rest] at stopped
        cases stopped
        obtain ⟨x', member, failed⟩ := ih rest
        exact ⟨x', List.mem_cons_of_mem x member, failed⟩
      | ok ys =>
        rw [rest] at stopped
        cases stopped

/-- A list is gone over with success if each member succeeds. -/
theorem exists_mapM_eq_ok {α β ε : Type} {f : α → Except ε β} {xs : List α}
    (each : ∀ x ∈ xs, ∃ y, f x = .ok y) : ∃ ys, xs.mapM f = .ok ys := by
  cases result : xs.mapM f with
  | ok ys => exact ⟨ys, rfl⟩
  | error e =>
    obtain ⟨x, member, failed⟩ := exists_of_mapM_eq_error result
    obtain ⟨y, done⟩ := each x member
    rw [failed] at done
    cases done

end TypeAtlas
