import TypeAtlas.Failure

/-!
Matching searches the whole tree. A failure is asked first and then what is directly behind it, in order:
a match is found exactly if some node of the tree is one, and the first fault is the first among the nodes
in depth-first order. That a collection also answers for its members finds nothing that is not there.
-/

namespace TypeAtlas

namespace Failure

/-! ### Nodes -/

theorem sizeOf_lt_of_mem_behind {f g : Failure} (member : g ∈ f.behind) : sizeOf g < sizeOf f := by
  cases f with
  | fault f =>
    obtain ⟨r, c⟩ := f
    obtain rfl : c = some g := Option.mem_toList.mp member
    simp only [fault.sizeOf_spec, Fault.mk.sizeOf_spec, Option.some.sizeOf_spec]
    omega
  | violations subject faults =>
    obtain ⟨f, inside, rfl⟩ := List.mem_map.mp member
    have smaller := List.sizeOf_lt_of_mem inside
    simp only [fault.sizeOf_spec, violations.sizeOf_spec]
    omega
  | message t => cases member

/-- The nodes of a tree in depth-first order: a failure, then what is behind it. -/
def nodes (f : Failure) : List Failure :=
  f :: f.behind.attach.flatMap fun ⟨g, _⟩ => g.nodes
termination_by sizeOf f
decreasing_by exact sizeOf_lt_of_mem_behind ‹_›

theorem nodes_eq (f : Failure) : f.nodes = f :: f.behind.flatMap nodes := by
  rw [nodes]
  simp

/-- What holds of a failure as soon as it holds of everything directly behind it holds of every failure. -/
theorem behind_induction {P : Failure → Prop} (step : ∀ f : Failure, (∀ g ∈ f.behind, P g) → P f)
    (f : Failure) : P f :=
  step f fun g _ => behind_induction step g
termination_by sizeOf f
decreasing_by exact sizeOf_lt_of_mem_behind ‹_›

theorem mem_nodes_iff {f x : Failure} : x ∈ f.nodes ↔ x = f ∨ ∃ g ∈ f.behind, x ∈ g.nodes := by
  rw [nodes_eq, List.mem_cons, List.mem_flatMap]

theorem mem_nodes_self (f : Failure) : f ∈ f.nodes :=
  mem_nodes_iff.mpr (.inl rfl)

/-- What is behind a node is a node. -/
theorem mem_nodes_of_mem_behind {f x y : Failure} (node : x ∈ f.nodes) (behind : y ∈ x.behind) :
    y ∈ f.nodes := by
  induction f using behind_induction with
  | step f ih =>
    rcases mem_nodes_iff.mp node with rfl | ⟨g, member, inside⟩
    · exact mem_nodes_iff.mpr (.inr ⟨y, behind, y.mem_nodes_self⟩)
    · exact mem_nodes_iff.mpr (.inr ⟨g, member, ih g member inside⟩)

/-! ### Searching -/

theorem anyMeets_eq (target : Target) (faults : List Fault) :
    anyMeets target faults = faults.any fun f => f.meets target := by
  induction faults with
  | nil => rfl
  | cons f rest ih => rw [anyMeets, List.any_cons, ih]

/-- A failure is asked first, then everything directly behind it. -/
theorem meets_eq (target : Target) (f : Failure) :
    f.meets target = (f.answers target || f.behind.any fun g => g.meets target) := by
  cases f with
  | fault f =>
    obtain ⟨r, c⟩ := f
    have own : Fault.answers target (.mk r none) = Fault.answers target (.mk r c) := rfl
    rw [meets, Fault.meets, answers, own]
    cases c <;> simp [causeMeets, behind, Fault.cause]
  | violations subject faults =>
    have members : (faults.map Failure.fault).any (fun g => g.meets target) =
        faults.any fun f => f.meets target := by
      rw [List.any_map]
      rfl
    rw [meets, anyMeets_eq, answers, behind, members]
  | message t => rfl

/-- A match is found exactly if some node answers. -/
theorem meets_iff (target : Target) (f : Failure) :
    f.meets target = true ↔ ∃ x ∈ f.nodes, x.answers target = true := by
  induction f using behind_induction with
  | step f ih =>
    rw [meets_eq, Bool.or_eq_true, List.any_eq_true]
    constructor
    · rintro (own | ⟨g, member, met⟩)
      · exact ⟨f, f.mem_nodes_self, own⟩
      · obtain ⟨x, node, answer⟩ := (ih g member).mp met
        exact ⟨x, mem_nodes_iff.mpr (.inr ⟨g, member, node⟩), answer⟩
    · rintro ⟨x, node, answer⟩
      rcases mem_nodes_iff.mp node with rfl | ⟨g, member, inside⟩
      · exact .inl answer
      · exact .inr ⟨g, member, (ih g member).mpr ⟨x, inside, answer⟩⟩

/-- The failure as a single fault. -/
def fault? : Failure → Option Fault
  | .fault f => some f
  | _ => none

/-- The first fault is the failure itself or the first one behind it. -/
theorem firstFault?_eq (f : Failure) :
    f.firstFault? = (f.fault?.or (f.behind.findSome? firstFault?)) := by
  cases f with
  | fault f => rfl
  | violations subject faults => cases faults <;> rfl
  | message t => rfl

theorem firstFault?_eq_findSome? (f : Failure) : f.firstFault? = f.nodes.findSome? fault? := by
  induction f using behind_induction with
  | step f ih =>
    have later : ∀ gs : List Failure, (∀ g ∈ gs, g.firstFault? = g.nodes.findSome? fault?) →
        gs.findSome? firstFault? = (gs.flatMap nodes).findSome? fault? := by
      intro gs each
      induction gs with
      | nil => rfl
      | cons g rest more =>
        rw [List.forall_mem_cons] at each
        rw [List.findSome?_cons, List.flatMap_cons, List.findSome?_append, ← each.1, more each.2]
        cases g.firstFault? <;> rfl
    rw [firstFault?_eq, nodes_eq, List.findSome?_cons, later f.behind ih]
    cases f.fault? <;> rfl

/-! ### Targets -/

theorem answers_fault_iff {p : Phase} {k : FaultKind} {f : Fault} :
    f.answers (.fault p k) = true ↔ f.report.phase = p ∧ f.report.kind = k := by
  rw [Fault.answers, beq_iff_eq, Target.fault.injEq, eq_comm, @eq_comm _ k]

/-- A match with a fault leads to a fault of that phase and kind among the nodes: the node that answers, or
a member of it. -/
theorem meets_fault_iff {p : Phase} {k : FaultKind} {f : Failure} :
    f.meets (.fault p k) = true ↔
      ∃ g, .fault g ∈ f.nodes ∧ g.report.phase = p ∧ g.report.kind = k := by
  rw [meets_iff]
  constructor
  · rintro ⟨x, node, answer⟩
    cases x with
    | fault g => exact ⟨g, node, answers_fault_iff.mp answer⟩
    | violations subject faults =>
      have some : faults.any (·.answers (.fault p k)) = true := by simpa [answers] using answer
      obtain ⟨g, member, answer⟩ := List.any_eq_true.mp some
      have behind : Failure.fault g ∈ (Failure.violations subject faults).behind :=
        List.mem_map_of_mem member
      exact ⟨g, mem_nodes_of_mem_behind node behind, answers_fault_iff.mp answer⟩
    | message t => cases answer
  · rintro ⟨g, node, same⟩
    exact ⟨.fault g, node, answers_fault_iff.mpr same⟩

theorem meets_violations_iff {f : Failure} :
    f.meets .violations = true ↔ ∃ subject faults, .violations subject faults ∈ f.nodes := by
  rw [meets_iff]
  constructor
  · rintro ⟨x, node, answer⟩
    cases x with
    | fault g => cases answer
    | violations subject faults => exact ⟨subject, faults, node⟩
    | message t => cases answer
  · rintro ⟨subject, faults, node⟩
    exact ⟨.violations subject faults, node, rfl⟩

theorem firstFault?_eq_none_iff {f : Failure} : f.firstFault? = none ↔ ∀ g, .fault g ∉ f.nodes := by
  rw [firstFault?_eq_findSome?, List.findSome?_eq_none_iff]
  constructor
  · intro none g node
    cases none _ node
  · intro absent x node
    cases x with
    | fault g => exact absurd node (absent g)
    | _ => rfl

/-- Whatever faults and collections of faults a failure is made of: it is asked first and then what is
directly behind it, a fault as target is matched exactly if some fault of the tree has its phase and kind,
a collection exactly if there is a collection in the tree, and the first fault is the first one in
depth-first order, which is absent exactly if the tree has none. -/
theorem matching_searches_tree (f : Failure) :
    (∀ target, f.meets target = (f.answers target || f.behind.any fun g => g.meets target)) ∧
      (∀ g : Fault, f.meets (Failure.fault g).target = true ↔
        ∃ h, .fault h ∈ f.nodes ∧ h.report.phase = g.report.phase ∧ h.report.kind = g.report.kind) ∧
      (∀ subject faults, f.meets (Failure.violations subject faults).target = true ↔
        ∃ subject' faults', .violations subject' faults' ∈ f.nodes) ∧
      f.firstFault? = f.fault?.or (f.behind.findSome? firstFault?) ∧
      f.firstFault? = f.nodes.findSome? fault? ∧
      (f.firstFault? = none ↔ ∀ g, .fault g ∉ f.nodes) := by
  refine ⟨fun target => meets_eq target f, ?_, ?_, f.firstFault?_eq, f.firstFault?_eq_findSome?,
    firstFault?_eq_none_iff⟩
  · intro g
    exact meets_fault_iff
  · intro subject faults
    exact meets_violations_iff

end Failure

end TypeAtlas
