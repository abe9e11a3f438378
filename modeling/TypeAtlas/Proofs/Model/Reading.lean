import TypeAtlas.Model.OfPackage
import TypeAtlas.Proofs.Outcome

/-!
What reading a package ensures of its model. The parts of a function are those of its signature, an
enumeration is over integers, and the names that are taken are those that the files written by hand
declare.
-/

namespace TypeAtlas.Model

open Source

/-- The parameters and results of a function are those of its signature. -/
def Function.IsRead (f : Function) : Prop :=
  ∃ inputs outputs variadic, f.signature = .function inputs outputs variadic ∧
    f.params = inputs.map Reading.parameter ∧ f.results = outputs.map (·.type)

def Declared.IsRead : Declared → Prop
  | .struct _ | .sum _ => True
  | .enumeration e => e.integer.isInteger = true
  | .function f => f.IsRead

namespace Reading

variable {r : Reading} {annotations : List Annotation} {a : Annotation}

theorem isRead_of_function {f : Function} (read : r.function a = .ok f) : f.IsRead := by
  simp only [function] at read
  split at read
  · split at read
    · cases read
    split at read
    · rename_i inputs outputs variadic same
      cases read
      exact ⟨inputs, outputs, variadic, same, rfl, rfl⟩
    · cases read
  · cases read

theorem isRead_of_enum {d : Declared} (read : r.enum annotations a = .ok d) : d.IsRead := by
  simp only [enum] at read
  split at read
  · split at read
    · cases read
    split at read
    · cases read
    split at read
    · split at read
      · rename_i integer
        obtain ⟨constants, _, rfl⟩ := map_eq_ok read
        exact integer
      · cases read
    · obtain ⟨cases, _, rfl⟩ := map_eq_ok read
      trivial
    · obtain ⟨cases, _, rfl⟩ := map_eq_ok read
      trivial
    · cases read
  · cases read

theorem isRead_of_declared {d : Declared} (read : r.declared annotations a = .ok d) : d.IsRead := by
  unfold declared at read
  split at read
  · obtain ⟨s, _, rfl⟩ := map_eq_ok read
    trivial
  split at read
  · exact isRead_of_enum read
  · obtain ⟨f, made, rfl⟩ := map_eq_ok read
    exact isRead_of_function made

end Reading

theorem isRead_of_ofPackage {others : List Package} {p : Package} {m : Model}
    (read : ofPackage others p = .ok m) : ∀ d ∈ m.declarations, d.IsRead := by
  obtain ⟨annotations, _, rest⟩ := bind_eq_ok read
  obtain ⟨declarations, made, last⟩ := bind_eq_ok rest
  cases last
  intro d member
  obtain ⟨a, _, built⟩ := exists_of_mapM_eq_ok made d member
  exact Reading.isRead_of_declared built

/-! ### Names that are taken -/

theorem mem_eraseReps {name : Text} {names : List Text} : name ∈ names.eraseReps ↔ name ∈ names := by
  -- The loop holds the last name back and collects the others in reverse.
  have loop (last : Text) (rest kept : List Text) :
      name ∈ List.eraseRepsBy.loop (· == ·) last rest kept ↔
        name ∈ kept ∨ name = last ∨ name ∈ rest := by
    induction rest generalizing last kept with
    | nil => simp [List.eraseRepsBy.loop, or_comm]
    | cons next rest ih =>
      rw [List.eraseRepsBy.loop]
      split
      · rename_i same
        rw [ih, List.mem_cons, eq_of_beq same, or_self_left]
      · rw [ih, List.mem_cons, List.mem_cons, or_assoc, or_left_comm]
  cases names with
  | nil => rfl
  | cons first rest => simp [List.eraseReps, List.eraseRepsBy, loop]

theorem mem_takenNames {p : Package} {name : Text} :
    name ∈ takenNames p ↔ ∃ e ∈ p.ownEntries, e.name = name := by
  rw [takenNames, mem_eraseReps, List.mem_mergeSort, List.mem_map]

theorem taken_of_ofPackage {others : List Package} {p : Package} {m : Model}
    (read : ofPackage others p = .ok m) : m.taken = takenNames p := by
  obtain ⟨annotations, _, rest⟩ := bind_eq_ok read
  obtain ⟨declarations, _, last⟩ := bind_eq_ok rest
  cases last
  rfl

end TypeAtlas.Model
