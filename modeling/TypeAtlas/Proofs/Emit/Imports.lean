import Mathlib.Data.List.Nodup
import Mathlib.Data.List.Perm.Subperm
import Mathlib.Data.Nat.Find
import TypeAtlas.Emit.Import
import TypeAtlas.Proofs.Text.Numeral

/-!
The names under which packages are imported. A package keeps the name that it was first given, and no two
packages have the same. The number behind a name that is taken is the first that makes it a free one: names
with different numbers are different, and there are no more taken names than imports, so the search ends. Every
package that was asked for is listed once in the declaration of the imports.
-/

namespace TypeAtlas.Emit

open Source

namespace ImportSet

variable {s : ImportSet} {p : PackageRef} {calls : List PackageRef}

/-! ### The search for a free name -/

/-- The names to import a package under, in the order in which they are tried. -/
def candidate (name : Text) : Nat → Text
  | 0 => name
  | k + 1 => name ++ Text.ofNat (k + 2)

theorem candidate_inj {name : Text} {j k : Nat} (same : candidate name j = candidate name k) : j = k := by
  have longer (k : Nat) : candidate name (k + 1) ≠ name := by
    intro equal
    exact Text.ofNat_ne_nil (k + 2) (List.append_right_eq_self.mp equal)
  cases j with
  | zero =>
    cases k with
    | zero => rfl
    | succ k => exact absurd same.symm (longer k)
  | succ j =>
    cases k with
    | zero => exact absurd same (longer j)
    | succ k => exact congrArg Nat.pred (Text.ofNat_inj (List.append_cancel_left same))

theorem isTaken_iff {name : Text} : s.isTaken name = true ↔ name ∈ s.entries.map Prod.snd := by
  simp [isTaken]

/-- A run of candidates that are all taken is no longer than the list of imports. -/
theorem le_length_of_taken {name : Text} {k : Nat} (taken : ∀ j < k, s.isTaken (candidate name j) = true) :
    k ≤ s.entries.length := by
  have distinct : ((List.range k).map (candidate name)).Nodup :=
    List.nodup_range.map fun _ _ => candidate_inj
  have inside : (List.range k).map (candidate name) ⊆ s.entries.map Prod.snd := by
    intro given member
    obtain ⟨j, early, rfl⟩ := List.mem_map.mp member
    exact isTaken_iff.mp (taken j (List.mem_range.mp early))
  have short := (List.subperm_of_subset distinct inside).length_le
  rwa [List.length_map, List.length_map, List.length_range] at short

/-- The search for a free name tries the candidates in order and stops at place `k`. -/
structure StopsAt (s : ImportSet) (name : Text) (k : Nat) : Prop where
  free : s.isTaken (candidate name k) = false
  before : ∀ j < k, s.isTaken (candidate name j) = true

theorem exists_stopsAt (s : ImportSet) (name : Text) : ∃ k, s.StopsAt name k := by
  have free : ∃ k, s.isTaken (candidate name k) = false := by
    by_contra none
    have taken : ∀ j < s.entries.length + 1, s.isTaken (candidate name j) = true := by
      intro j _
      exact Bool.not_eq_false _ |>.mp fun free => none ⟨j, free⟩
    exact Nat.not_succ_le_self _ (le_length_of_taken taken)
  refine ⟨Nat.find free, Nat.find_spec free, ?_⟩
  intro j early
  exact Bool.not_eq_false _ |>.mp (Nat.find_min free early)

/-- With enough tries the numbered names are searched up to the first that is free. -/
theorem numbered_of_stopsAt {name : Text} {k tries i : Nat} (stops : s.StopsAt name (k + 1)) (early : i ≤ k)
    (enough : k ≤ i + tries) : s.numbered name tries (i + 2) = candidate name (k + 1) := by
  induction tries generalizing i with
  | zero =>
    obtain rfl : i = k := by omega
    rfl
  | succ tries ih =>
    simp only [numbered]
    rcases Nat.lt_or_eq_of_le early with earlier | rfl
    · have taken := stops.before (i + 1) (by omega)
      rw [candidate] at taken
      rw [if_pos taken]
      exact ih earlier (by omega)
    · have free := stops.free
      rw [candidate] at free
      rw [if_neg (by rw [free]; decide)]
      rfl

theorem freeName_of_stopsAt {name : Text} {k : Nat} (stops : s.StopsAt name k) :
    s.freeName name = candidate name k := by
  have bound := le_length_of_taken stops.before
  cases k with
  | zero =>
    have free := stops.free
    rw [candidate] at free
    rw [freeName, if_neg (by rw [free]; decide), candidate]
  | succ k =>
    have taken := stops.before 0 (Nat.succ_pos k)
    rw [candidate] at taken
    rw [freeName, if_pos taken]
    exact numbered_of_stopsAt stops (Nat.zero_le k) (by omega)

theorem freeName_free (s : ImportSet) (name : Text) : s.freeName name ∉ s.entries.map Prod.snd := by
  obtain ⟨k, stops⟩ := s.exists_stopsAt name
  rw [freeName_of_stopsAt stops, ← isTaken_iff, stops.free]
  exact Bool.false_ne_true

/-! ### One name for each path -/

/-- Paths and names belong together one by one. -/
structure Matched (s : ImportSet) : Prop where
  paths : (s.entries.map Prod.fst).Nodup
  names : (s.entries.map Prod.snd).Nodup

/-- Asking for a package changes nothing if it is imported, and adds it otherwise. -/
theorem use_cases (s : ImportSet) (p : PackageRef) :
    (∃ name, s.localName? p.path = some name ∧ s.use p = s) ∨
      p.path ∉ s.entries.map Prod.fst ∧ s.use p = ⟨s.entries ++ [(p.path, s.freeName p.name)]⟩ := by
  unfold use
  split
  · rename_i name found
    exact .inl ⟨name, found, rfl⟩
  · rename_i missing
    refine .inr ⟨?_, rfl⟩
    intro member
    obtain ⟨e, inside, path⟩ := List.mem_map.mp member
    have different := List.lookup_eq_none_iff.mp missing e inside
    simp [path] at different

theorem Matched.use (matched : s.Matched) (p : PackageRef) : (s.use p).Matched := by
  rcases s.use_cases p with ⟨_, _, same⟩ | ⟨missing, added⟩
  · rwa [same]
  · rw [added]
    constructor
    · rw [List.map_append]
      exact List.nodup_append_comm.mp (List.nodup_cons.mpr ⟨missing, matched.paths⟩)
    · rw [List.map_append]
      exact List.nodup_append_comm.mp (List.nodup_cons.mpr ⟨s.freeName_free p.name, matched.names⟩)

theorem Matched.foldl (matched : s.Matched) (calls : List PackageRef) : (calls.foldl ImportSet.use s).Matched := by
  induction calls generalizing s with
  | nil => exact matched
  | cons p rest ih => exact ih (matched.use p)

theorem Matched.localName?_eq_some_iff (matched : s.Matched) {path name : Text} :
    s.localName? path = some name ↔ (path, name) ∈ s.entries := by
  rw [localName?, List.lookup_eq_some_iff]
  constructor
  · rintro ⟨before, after, split, _⟩
    rw [split]
    simp
  · intro member
    obtain ⟨before, after, split⟩ := List.append_of_mem member
    refine ⟨before, after, split, ?_⟩
    intro e earlier
    have paths := matched.paths
    rw [split, List.map_append, List.map_cons, List.nodup_middle, List.nodup_cons] at paths
    rw [bne_iff_ne]
    rintro rfl
    exact paths.1 (List.mem_append_left _ (List.mem_map.mpr ⟨e, earlier, rfl⟩))

/-! ### Calls in sequence -/

theorem localName?_use_self (s : ImportSet) (p : PackageRef) : ((s.use p).localName? p.path).isSome = true := by
  rcases s.use_cases p with ⟨name, found, same⟩ | ⟨_, added⟩
  · rw [same, found]
    rfl
  · rw [added, localName?, List.lookup_append, List.lookup_cons_self, Option.isSome_or]
    exact Bool.or_true _

/-- A new path is given the first free name. -/
theorem localName_use_new (new : p.path ∉ s.entries.map Prod.fst) :
    (s.use p).localName p.path = s.freeName p.name := by
  rcases s.use_cases p with ⟨name, found, _⟩ | ⟨_, added⟩
  · obtain ⟨before, after, split, _⟩ := List.lookup_eq_some_iff.mp found
    rw [split] at new
    simp at new
  · have missing : s.entries.lookup p.path = none := by
      rw [List.lookup_eq_none_iff]
      intro e member
      rw [bne_iff_ne]
      rintro path
      exact new (List.mem_map.mpr ⟨e, member, path.symm⟩)
    rw [added, localName, localName?, List.lookup_append, missing, List.lookup_cons_self]
    rfl

/-- What is imported keeps its name. -/
theorem localName?_use {path name : Text} (found : s.localName? path = some name) (p : PackageRef) :
    (s.use p).localName? path = some name := by
  rcases s.use_cases p with ⟨_, _, same⟩ | ⟨_, added⟩
  · rwa [same]
  · rw [localName?] at found
    rw [added, localName?, List.lookup_append, found, Option.some_or]

theorem localName?_foldl {path name : Text} (found : s.localName? path = some name) (calls : List PackageRef) :
    (calls.foldl use s).localName? path = some name := by
  induction calls generalizing s with
  | nil => exact found
  | cons p rest ih => exact ih (localName?_use found p)

/-- The names that calls return one after the other. -/
def given (s : ImportSet) : List PackageRef → List Text
  | [] => []
  | p :: rest => (s.use p).localName p.path :: (s.use p).given rest

/-- A call returns the name that the package has in the end. -/
theorem given_eq_map (s : ImportSet) (calls : List PackageRef) :
    s.given calls = calls.map fun p => (calls.foldl use s).localName p.path := by
  induction calls generalizing s with
  | nil => rfl
  | cons p rest ih =>
    obtain ⟨name, found⟩ := Option.isSome_iff_exists.mp (s.localName?_use_self p)
    have kept := localName?_foldl found rest
    rw [given, ih, List.map_cons, List.foldl_cons, localName, localName, found, kept]

theorem mem_paths_foldl {path : Text} :
    path ∈ (calls.foldl use s).entries.map Prod.fst ↔
      path ∈ s.entries.map Prod.fst ∨ path ∈ calls.map PackageRef.path := by
  induction calls generalizing s with
  | nil => simp
  | cons p rest ih =>
    rw [List.foldl_cons, ih, List.map_cons, List.mem_cons, ← or_assoc]
    refine or_congr_left ?_
    rcases s.use_cases p with ⟨name, found, same⟩ | ⟨_, added⟩
    · rw [same, iff_self_or]
      rintro rfl
      obtain ⟨before, after, split, _⟩ := List.lookup_eq_some_iff.mp found
      rw [split]
      simp
    · rw [added, List.map_append, List.mem_append]
      simp

/-- The imports after some calls. -/
def after (calls : List PackageRef) : ImportSet :=
  calls.foldl use {}

theorem matched_after (calls : List PackageRef) : (after calls).Matched :=
  Matched.foldl (s := {}) ⟨List.nodup_nil, List.nodup_nil⟩ calls

theorem mem_paths_after {path : Text} :
    path ∈ (after calls).entries.map Prod.fst ↔ path ∈ calls.map PackageRef.path := by
  rw [after, mem_paths_foldl]
  simp

/-- The import of a package that was asked for. -/
theorem mem_entries_after {p : PackageRef} (asked : p ∈ calls) :
    (p.path, (after calls).localName p.path) ∈ (after calls).entries := by
  have used := mem_paths_after.mpr (List.mem_map_of_mem asked)
  obtain ⟨⟨path, name⟩, member, rfl⟩ := List.mem_map.mp used
  have found := (matched_after calls).localName?_eq_some_iff.mpr member
  rwa [localName, found, Option.getD_some]

theorem localName_inj {p q : PackageRef} (first : p ∈ calls) (second : q ∈ calls) :
    (after calls).localName p.path = (after calls).localName q.path ↔ p.path = q.path := by
  constructor
  · intro same
    have entry := mem_entries_after first
    rw [same] at entry
    have equal := List.inj_on_of_nodup_map (matched_after calls).names entry (mem_entries_after second) rfl
    exact congrArg Prod.fst equal
  · intro same
    rw [same]

/-! ### The import declaration -/

/-- The import declaration with the given imports in its two parts. -/
def declaration (standard other : List (Text × Text)) : Text :=
  "import (\n" ++ standard.flatMap line ++ Text.when (!standard.isEmpty && !other.isEmpty) "\n" ++
    other.flatMap line ++ ")\n"

/-- The import declaration after some calls has the given imports in its two parts. -/
structure Lists (calls : List PackageRef) (standard other : List (Text × Text)) : Prop where
  block : (after calls).block = if calls = [] then [] else declaration standard other
  once : ((standard ++ other).map Prod.fst).Nodup
  complete : ∀ path name, (path, name) ∈ standard ++ other ↔
    ∃ p ∈ calls, p.path = path ∧ (after calls).localName path = name
  sorted : standard.Pairwise (·.1 < ·.1) ∧ other.Pairwise (·.1 < ·.1)
  standard : ∀ e ∈ standard, isStandard e.1 = true
  other : ∀ e ∈ other, isStandard e.1 = false

theorem sorted_of_distinct {entries : List (Text × Text)} (distinct : (entries.map Prod.fst).Nodup) :
    (entries.mergeSort fun a b => Text.le a.1 b.1).Pairwise (·.1 < ·.1) := by
  have different := ((List.mergeSort_perm entries fun a b => Text.le a.1 b.1).map Prod.fst).nodup_iff.mpr distinct
  refine ((Text.sorted_mergeSort Prod.fst entries).and (List.pairwise_map.mp different)).imp ?_
  rintro a b ⟨le, ne⟩
  exact Std.lt_of_le_of_ne le ne

theorem exists_lists (calls : List PackageRef) : ∃ standard other, Lists calls standard other := by
  let entries := (after calls).entries
  let sorted (entries : List (Text × Text)) := entries.mergeSort fun a b => Text.le a.1 b.1
  let standard := entries.filter fun e => isStandard e.1
  let other := entries.filter fun e => !isStandard e.1
  have matched := matched_after calls
  have perm : (sorted standard ++ sorted other).Perm entries :=
    ((List.mergeSort_perm standard _).append (List.mergeSort_perm other _)).trans
      (List.filter_append_perm _ entries)
  refine ⟨sorted standard, sorted other, ?block, ?once, ?complete, ⟨?first, ?second⟩, ?standard, ?other⟩
  case block =>
    cases calls with
    | nil => rfl
    | cons p rest =>
      have imported := mem_entries_after (List.mem_cons_self : p ∈ p :: rest)
      have nonempty : (after (p :: rest)).entries.isEmpty = false :=
        List.isEmpty_eq_false_iff_exists_mem.mpr ⟨_, imported⟩
      rw [block, blockBy, if_neg (by rw [nonempty]; decide), if_neg (List.cons_ne_nil p rest)]
      rfl
  case once => exact (perm.map Prod.fst).nodup_iff.mpr matched.paths
  case complete =>
    intro path name
    rw [perm.mem_iff]
    constructor
    · intro member
      have used := mem_paths_after.mp (List.mem_map_of_mem member)
      obtain ⟨p, asked, rfl⟩ := List.mem_map.mp used
      refine ⟨p, asked, rfl, ?_⟩
      rw [localName, matched.localName?_eq_some_iff.mpr member, Option.getD_some]
    · rintro ⟨p, asked, rfl, rfl⟩
      exact mem_entries_after asked
  case standard =>
    intro e member
    exact (List.mem_filter.mp (List.mem_mergeSort.mp member)).2
  case other =>
    intro e member
    simpa using (List.mem_filter.mp (List.mem_mergeSort.mp member)).2
  case first => exact sorted_of_distinct (matched.paths.sublist (List.filter_sublist.map _))
  case second => exact sorted_of_distinct (matched.paths.sublist (List.filter_sublist.map _))

/-! ### Stable names -/

/-- Import names are a stable injection. Calls return the same name exactly if they ask for the same path. A
path that is new is given the first candidate that is free: the search for one stops. And the import
declaration lists every path that was asked for once, those of the standard library before the others, and
each part in the order of paths. -/
theorem names_are_stable_injection (calls : List PackageRef) :
    (given {} calls).length = calls.length ∧
    (∀ (i j : Nat) (p q : PackageRef) (m n : Text), calls[i]? = some p → calls[j]? = some q →
      (given {} calls)[i]? = some m → (given {} calls)[j]? = some n → (m = n ↔ p.path = q.path)) ∧
    (∀ p : PackageRef, p.path ∉ calls.map PackageRef.path →
      ∃ k, (after calls).StopsAt p.name k ∧
        ((after calls).use p).localName p.path = candidate p.name k) ∧
    ∃ standard other, Lists calls standard other := by
  have answers : given {} calls = calls.map fun p => (after calls).localName p.path := given_eq_map {} calls
  refine ⟨by rw [answers, List.length_map], ?_, ?_, exists_lists calls⟩
  · intro i j p q m n first second returned returned'
    rw [answers, List.getElem?_map, first] at returned
    rw [answers, List.getElem?_map, second] at returned'
    cases returned
    cases returned'
    exact localName_inj (List.mem_of_getElem? first) (List.mem_of_getElem? second)
  · intro p new
    obtain ⟨k, stops⟩ := (after calls).exists_stopsAt p.name
    refine ⟨k, stops, ?_⟩
    rw [localName_use_new (mem_paths_after.not.mpr new), freeName_of_stopsAt stops]

/-- Three packages of cats: the numbered name of the second is the name of the third. -/
def threeCats : List PackageRef :=
  [⟨"example.com/a/cats", "cats"⟩, ⟨"example.com/b/cats", "cats"⟩, ⟨"example.com/cats2", "cats2"⟩,
    ⟨"example.com/a/cats", "cats"⟩]

theorem threeCats_names :
    given {} threeCats = ["cats", "cats2", "cats22", "cats"] ∧
      (("cats2" : Text) = "cats22" ↔ ("example.com/b/cats" : Text) = "example.com/cats2") ∧
      ∃ k, (after threeCats).StopsAt "cats" k ∧
        ((after threeCats).use ⟨"example.com/c/cats", "cats"⟩).localName "example.com/c/cats" =
          candidate "cats" k := by
  have names : given {} threeCats = ["cats", "cats2", "cats22", "cats"] := by decide
  obtain ⟨_, injection, search, _⟩ := names_are_stable_injection threeCats
  rw [names] at injection
  have new : ("example.com/c/cats" : Text) ∉ threeCats.map PackageRef.path := by decide
  exact ⟨names, injection 1 2 _ _ _ _ rfl rfl rfl rfl, search ⟨"example.com/c/cats", "cats"⟩ new⟩

end ImportSet

end TypeAtlas.Emit
