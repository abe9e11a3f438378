import TypeAtlas.Proofs.Emit.Imports

/-!
What import lines bind. Without a name of its own an import binds the name that the package declares. The
lines leave a name out where the path ends in it, which is a guess at the declared one: it is wrong where a
numbered name, given because another package has the declared one already, is the last element of the path.
These are the only lines that bind another name than the code uses.
-/

namespace TypeAtlas.Emit

open Source

namespace ImportSet

variable {calls : List PackageRef} {declared : Text → Text}

/-! ### Lines as they are read -/

/-- A name of its own before the path of an import, or nothing. -/
def ownName : Option Text → Text
  | some name => name ++ " "
  | none => []

/-- The line of an import with a name of its own or without one. -/
def importLine (own : Option Text) (path : Text) : Text :=
  "\t" ++ ownName own ++ Text.quote path ++ "\n"

/-- A line imports the package at a path under a name: its own, or else the one that the package declares. -/
def Binds (declared : Text → Text) (line path name : Text) : Prop :=
  ∃ own, line = importLine own path ∧ own.getD (declared path) = name

theorem importLine_inj {own other : Option Text} {path : Text}
    (same : importLine own path = importLine other path) : own = other := by
  have names : ownName own = ownName other :=
    List.append_cancel_left (List.append_cancel_right (List.append_cancel_right same))
  have blank (name : Text) : ownName (some name) ≠ [] :=
    List.append_ne_nil_of_right_ne_nil name (by decide)
  cases own with
  | none =>
    cases other with
    | none => rfl
    | some name => exact absurd names.symm (blank name)
  | some name =>
    cases other with
    | none => exact absurd names (blank name)
    | some name' => exact congrArg some (List.append_cancel_right names)

theorem line_eq (e : Text × Text) :
    line e = importLine (if e.2 = Path.last e.1 then none else some e.2) e.1 := by
  unfold line importLine
  split
  · rename_i same
    rw [bne_eq_false_iff_eq.mpr same]
    rfl
  · rename_i different
    rw [bne_iff_ne.mpr different]
    rfl

/-- The name is left out because the path ends in it, but the package declares another. -/
def IsMisguessed (declared : Text → Text) (e : Text × Text) : Prop :=
  e.2 = Path.last e.1 ∧ e.2 ≠ declared e.1

theorem binds_line_iff {e : Text × Text} :
    Binds declared (line e) e.1 e.2 ↔ ¬IsMisguessed declared e := by
  have read : Binds declared (line e) e.1 e.2 ↔
      (if e.2 = Path.last e.1 then none else some e.2).getD (declared e.1) = e.2 := by
    constructor
    · rintro ⟨own, form, bound⟩
      rw [line_eq] at form
      rwa [importLine_inj form]
    · exact fun bound => ⟨_, line_eq e, bound⟩
  rw [read]
  split
  · rename_i last
    simp [IsMisguessed, last, eq_comm]
  · rename_i other
    simp [IsMisguessed, other]

/-! ### Where numbered names come from -/

/-- Every import has a candidate for its name, and the candidates before it are names of other imports. -/
def Numbered (declared : Text → Text) (s : ImportSet) : Prop :=
  ∀ e ∈ s.entries, ∃ k, e.2 = candidate (declared e.1) k ∧
    ∀ j < k, candidate (declared e.1) j ∈ s.entries.map Prod.snd

theorem Numbered.use {s : ImportSet} (numbered : s.Numbered declared) {p : PackageRef}
    (honest : p.name = declared p.path) : (s.use p).Numbered declared := by
  rcases s.use_cases p with ⟨_, _, same⟩ | ⟨_, added⟩
  · rwa [same]
  rw [added]
  intro e member
  rcases List.mem_append.mp member with old | new
  · obtain ⟨k, name, earlier⟩ := numbered e old
    refine ⟨k, name, fun j early => ?_⟩
    rw [List.map_append]
    exact List.mem_append_left _ (earlier j early)
  · obtain rfl := List.mem_singleton.mp new
    obtain ⟨k, stops⟩ := s.exists_stopsAt p.name
    refine ⟨k, honest ▸ freeName_of_stopsAt stops, fun j early => ?_⟩
    rw [List.map_append]
    exact List.mem_append_left _ (honest ▸ isTaken_iff.mp (stops.before j early))

theorem Numbered.foldl {s : ImportSet} (numbered : s.Numbered declared)
    (honest : ∀ p ∈ calls, p.name = declared p.path) : (calls.foldl ImportSet.use s).Numbered declared := by
  induction calls generalizing s with
  | nil => exact numbered
  | cons p rest ih =>
    obtain ⟨first, others⟩ := List.forall_mem_cons.mp honest
    exact ih (numbered.use first) others

/-- A package with another name than it declares has a number, as another package has the declared name. -/
theorem exists_namesake (honest : ∀ p ∈ calls, p.name = declared p.path) {e : Text × Text}
    (member : e ∈ (after calls).entries) (different : e.2 ≠ declared e.1) :
    ∃ k, e.2 = candidate (declared e.1) (k + 1) ∧
      ∃ q ∈ calls, q.path ≠ e.1 ∧ (after calls).localName q.path = declared e.1 := by
  have numbered : (after calls).Numbered declared := Numbered.foldl (s := {}) nofun honest
  obtain ⟨k, name, earlier⟩ := numbered e member
  cases k with
  | zero => exact absurd name different
  | succ k =>
    refine ⟨k, name, ?_⟩
    obtain ⟨⟨path, given⟩, inside, same⟩ := List.mem_map.mp (earlier 0 (Nat.succ_pos k))
    obtain ⟨q, asked, rfl⟩ := List.mem_map.mp (mem_paths_after.mp (List.mem_map_of_mem inside))
    have found := (matched_after calls).localName?_eq_some_iff.mpr inside
    refine ⟨q, asked, ?_, ?_⟩
    · intro path
      have equal := List.inj_on_of_nodup_map (matched_after calls).paths inside member path
      exact different (by rw [← equal]; rwa [← equal] at same)
    · rw [localName, found]
      exact same

/-! ### What the lines bind -/

/-- Where packages are asked for by the names that they declare, an import line binds the name that the code
uses unless it leaves that out by a wrong guess. It does so only for a package that has a numbered name, because
another package has the one that it declares, and a path that ends in the numbered name. -/
theorem lines_bind_iff_not_misguessed (honest : ∀ p ∈ calls, p.name = declared p.path) :
    ∃ standard other, Lists calls standard other ∧ ∀ e ∈ standard ++ other,
      (Binds declared (line e) e.1 ((after calls).localName e.1) ↔ ¬IsMisguessed declared e) ∧
      (IsMisguessed declared e → ∃ k, e.2 = candidate (declared e.1) (k + 1) ∧
        ∃ q ∈ calls, q.path ≠ e.1 ∧ (after calls).localName q.path = declared e.1) := by
  obtain ⟨standard, other, lists⟩ := exists_lists calls
  refine ⟨standard, other, lists, ?_⟩
  rintro ⟨path, name⟩ listed
  obtain ⟨p, asked, rfl, rfl⟩ := (lists.complete path name).mp listed
  refine ⟨binds_line_iff, ?_⟩
  rintro ⟨_, different⟩
  exact exists_namesake honest (mem_entries_after asked) different

/-- Two packages of cats, one of them at a path that ends in a number. -/
def twoCats : List PackageRef :=
  [⟨"example.com/a/cats", "cats"⟩, ⟨"example.com/b/cats2", "cats"⟩]

/-- The name that both of them declare. -/
def catsName (_ : Text) : Text := "cats"

/-- The second package is used as `cats2`, and its import line does not bind that name. -/
theorem twoCats_misguessed :
    (∀ p ∈ twoCats, p.name = catsName p.path) ∧ given {} twoCats = ["cats", "cats2"] ∧
      line ("example.com/b/cats2", "cats2") = "\t\"example.com/b/cats2\"\n" ∧
      ¬Binds catsName (line ("example.com/b/cats2", "cats2")) "example.com/b/cats2" "cats2" := by
  have honest : ∀ p ∈ twoCats, p.name = catsName p.path := by decide
  obtain ⟨standard, other, lists, lines⟩ := lines_bind_iff_not_misguessed honest
  have listed : (("example.com/b/cats2", "cats2") : Text × Text) ∈ standard ++ other :=
    (lists.complete _ _).mpr ⟨⟨"example.com/b/cats2", "cats"⟩, by decide, by decide, by decide⟩
  have name : (after twoCats).localName "example.com/b/cats2" = "cats2" := by decide
  have bound := (lines _ listed).1
  rw [name] at bound
  refine ⟨honest, by decide, by decide, ?_⟩
  exact fun binds => bound.mp binds ⟨by decide, by decide⟩

end ImportSet

end TypeAtlas.Emit
