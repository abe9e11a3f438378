import TypeAtlas.Proofs.Model.Regeneration
import TypeAtlas.Proofs.Source.Alike

/-!
A package read with its files in another order. All comments are scanned before anything is built, and
names are in the order of their positions: the declarations of the model come in the order of the files, but
each of them is the same.
-/

namespace TypeAtlas

namespace Source

/-! ### The order of positions -/

theorem placedLe_iff (a b : Entry × Position) :
    placedLe a b = true ↔ a.2.file < b.2.file ∨ a.2.file = b.2.file ∧ (a.2.offset < b.2.offset ∨
      a.2.offset = b.2.offset ∧ a.1.name ≤ b.1.name) := by
  obtain ⟨e, f, i⟩ := a
  obtain ⟨e', f', i'⟩ := b
  simp only [placedLe, Position.lt, Text.lt_iff, Text.le_iff, Bool.or_eq_true, Bool.and_eq_true,
    decide_eq_true_eq, beq_iff_eq, Position.mk.injEq, or_assoc, and_assoc, ← and_or_left]

theorem placedLe_trans (a b c : Entry × Position) (first : placedLe a b = true)
    (second : placedLe b c = true) : placedLe a c = true := by
  rw [placedLe_iff] at *
  rcases first with lower | ⟨file, rest⟩
  · rcases second with lower' | ⟨file', _⟩
    · exact .inl (Std.lt_trans lower lower')
    · exact .inl (file' ▸ lower)
  rcases second with lower' | ⟨file', rest'⟩
  · exact .inl (file ▸ lower')
  refine .inr ⟨file.trans file', ?_⟩
  rcases rest with lower | ⟨offset, name⟩
  · exact .inl (by omega)
  rcases rest' with lower' | ⟨offset', name'⟩
  · exact .inl (by omega)
  · exact .inr ⟨offset.trans offset', Std.le_trans name name'⟩

theorem placedLe_total (a b : Entry × Position) : (placedLe a b || placedLe b a) = true := by
  rw [Bool.or_eq_true, placedLe_iff, placedLe_iff]
  rcases Std.lt_trichotomy a.2.file b.2.file with lower | file | lower
  · exact .inl (.inl lower)
  · rcases Nat.lt_trichotomy a.2.offset b.2.offset with lower | offset | lower
    · exact .inl (.inr ⟨file, .inl lower⟩)
    · rcases Std.le_total (a := a.1.name) (b := b.1.name) with name | name
      · exact .inl (.inr ⟨file, .inr ⟨offset, name⟩⟩)
      · exact .inr (.inr ⟨file.symm, .inr ⟨offset.symm, name⟩⟩)
    · exact .inr (.inr ⟨file.symm, .inl lower⟩)
  · exact .inr (.inl lower)

/-- Names that come before each other are the same and stand at the same position. -/
theorem eq_of_placedLe {a b : Entry × Position} (first : placedLe a b = true)
    (second : placedLe b a = true) : a.2 = b.2 ∧ a.1.name = b.1.name := by
  obtain ⟨e, f, i⟩ := a
  obtain ⟨e', f', i'⟩ := b
  rw [placedLe_iff] at first second
  dsimp only at first second ⊢
  rcases first with lower | ⟨rfl, rest⟩
  · rcases second with lower' | ⟨file, _⟩
    · exact absurd (Std.lt_trans lower lower') Std.lt_irrefl
    · exact absurd (file ▸ lower) Std.lt_irrefl
  rcases second with lower' | ⟨_, rest'⟩
  · exact absurd lower' Std.lt_irrefl
  rcases rest with lower | ⟨rfl, name⟩
  · omega
  rcases rest' with lower' | ⟨_, name'⟩
  · omega
  · exact ⟨rfl, Std.le_antisymm name name'⟩

/-! ### Names in order -/

namespace Package.Reordered

variable {p q : Package}

theorem ownEntries (reordered : p.Reordered q) : p.ownEntries.Perm q.ownEntries :=
  (reordered.files.symm.filter _).flatMap_right _

theorem placed (reordered : p.Reordered q) : p.placed.Perm q.placed := by
  unfold Package.placed
  rw [reordered.ref]
  exact reordered.files.symm.flatMap_right _

theorem mem_generatedNames (reordered : p.Reordered q) (file : Text) :
    file ∈ q.generatedNames ↔ file ∈ p.generatedNames :=
  ((reordered.files.filter _).map _).mem_iff

theorem mem_catalog_of_placed {x : Entry × Position} (member : x ∈ p.placed) :
    x.1 ∈ p.catalog.entries := by
  obtain ⟨f, inside, zipped⟩ := List.mem_flatMap.mp member
  exact List.mem_flatMap.mpr ⟨f, inside, (List.of_mem_zip zipped).1⟩

/-- The names that can be referred to are in the same order: that of their positions. -/
theorem scopeEntries (reordered : p.Reordered q) (clear : p.catalog.Clear) :
    q.scopeEntries.filter (·.isReferable) = p.scopeEntries.filter (·.isReferable) := by
  have shown : (fun x : Entry × Position => x.1.isNamed && !q.generatedNames.contains x.2.file) =
      fun x => x.1.isNamed && !p.generatedNames.contains x.2.file := by
    funext x
    rw [Bool.eq_iff_iff]
    simp only [Bool.and_eq_true, Bool.not_eq_true', ← Bool.not_eq_true, List.contains_iff_mem,
      reordered.mem_generatedNames]
  have sorted (xs : List (Entry × Position)) :
      ((xs.mergeSort placedLe).filter (·.1.isReferable)).Pairwise (placedLe · ·) :=
    (List.pairwise_mergeSort placedLe_trans placedLe_total xs).filter _
  unfold Package.scopeEntries
  dsimp only
  rw [List.filter_map, List.filter_map, shown]
  refine congrArg (List.map _) (List.Perm.eq_of_pairwise ?_ (sorted _) (sorted _) ?_)
  -- Names can tie only where comments say that two of them stand at one place. Then they are the same name,
  -- which is declared once.
  · intro a b left right first second
    obtain ⟨position, name⟩ := eq_of_placedLe first second
    obtain ⟨left, referable⟩ := List.mem_filter.mp left
    have right := List.mem_of_mem_filter right
    rw [List.mem_mergeSort] at left right
    have declared := mem_catalog_of_placed (reordered.placed.mem_iff.mpr (List.mem_of_mem_filter left))
    have declared' := mem_catalog_of_placed (List.mem_of_mem_filter right)
    exact Prod.ext (clear.entries.eq declared declared' name referable) position
  · have order := (reordered.placed.symm.filter
      fun x => x.1.isNamed && !p.generatedNames.contains x.2.file)
    exact ((List.mergeSort_perm _ _).trans (order.trans (List.mergeSort_perm _ _).symm)).filter _

end Package.Reordered

end Source

namespace Model

open Source

/-! ### Scanning -/

section Scanning

variable {p q : Package} {annotations : List Annotation}

end Scanning

/-! ### Building -/

namespace Reading

variable {r : Reading} {annotations annotations' : List Annotation}

/-- A reading that knows only the names that can be referred to. -/
def referable (r : Reading) : Reading :=
  { r with entries := r.entries.filter (·.isReferable) }

end Reading

/-! ### The model -/

section Models

variable {p q : Package} {others : List Package}

end Models

end Model

end TypeAtlas
