import Mathlib.Data.List.Nodup
import TypeAtlas.Proofs.Source.Settling

/-!
Packages that compile. Their paths differ, no name that can be referred to is declared twice, nor a method
of a type, and no alias leads back to itself. So a path and a name tell aliases apart, and every alias can be
settled after those that it mentions.
-/

namespace TypeAtlas.Source

/-- Every name that can be referred to is declared once. Only functions may have the name of those that run
when a package is loaded. -/
structure DeclaredOnce (entries : List Entry) : Prop where
  names : ((entries.filter (·.isReferable)).map (·.name)).Nodup
  start : ∀ e ∈ entries, e.name = startName → e.isStart = true

/-- Names are declared once, and so are the methods of each type. -/
structure Catalog.Clear (c : Catalog) : Prop where
  entries : DeclaredOnce c.entries
  methods : (c.methods.map fun m => (m.base, m.name)).Nodup

/-- Every alias ranks above those that its definition mentions. -/
def World.Descends (w : World) (rank : Text × Text → Nat) : Prop :=
  ∀ a ∈ w.declaredAliases, ∀ b ∈ w.mentioned a, rank b.key < rank a.key

/-- What compiling ensures of packages that can see each other. -/
structure Compiles (packages : List Package) : Prop where
  paths : (packages.map (·.ref.path)).Nodup
  clear : ∀ p ∈ packages, p.catalog.Clear
  acyclic : ∃ rank, (World.unsettled packages).Descends rank

instance (entries : List Entry) : Decidable (DeclaredOnce entries) :=
  decidable_of_iff (((entries.filter (·.isReferable)).map (·.name)).Nodup ∧
    ∀ e ∈ entries, e.name = startName → e.isStart = true)
    ⟨fun ⟨names, start⟩ => ⟨names, start⟩, fun ⟨names, start⟩ => ⟨names, start⟩⟩

instance (c : Catalog) : Decidable c.Clear :=
  decidable_of_iff (DeclaredOnce c.entries ∧ (c.methods.map fun m => (m.base, m.name)).Nodup)
    ⟨fun ⟨entries, methods⟩ => ⟨entries, methods⟩, fun ⟨entries, methods⟩ => ⟨entries, methods⟩⟩

instance (w : World) (rank : Text × Text → Nat) : Decidable (w.Descends rank) :=
  inferInstanceAs (Decidable (∀ a ∈ w.declaredAliases, ∀ b ∈ w.mentioned a, rank b.key < rank a.key))

/-! ### Entries -/

theorem Entry.name_of_isStart {e : Entry} (start : e.isStart = true) : e.name = startName := by
  unfold Entry.isStart at start
  split at start
  · exact eq_of_beq start
  · cases start

/-- A name that can be referred to belongs to one entry. -/
theorem DeclaredOnce.eq {entries : List Entry} {a b : Entry} (once : DeclaredOnce entries) (left : a ∈ entries)
    (right : b ∈ entries) (same : a.name = b.name) (referable : a.isReferable = true) : a = b := by
  have referable' : b.isReferable = true := by
    rw [Entry.isReferable, Bool.and_eq_true, Bool.not_eq_true'] at referable ⊢
    refine ⟨by rw [Entry.isNamed, ← same]; exact referable.1, ?_⟩
    cases start : b.isStart with
    | false => rfl
    | true =>
      rw [once.start a left (same.trans (Entry.name_of_isStart start))] at referable
      cases referable.2
  exact List.inj_on_of_nodup_map once.names (List.mem_filter.mpr ⟨left, referable⟩)
    (List.mem_filter.mpr ⟨right, referable'⟩) same

/-- A type is declared under its own name. -/
theorem Entry.name_of_type {f : File} {e : Entry} {s : TypeSpec} (member : e ∈ f.entries)
    (object : e.object = .type s) : e.name = s.name := by
  obtain ⟨d, _, declared⟩ := List.mem_flatMap.mp member
  cases d with
  | types doc specs =>
    obtain ⟨t, _, rfl⟩ := List.mem_map.mp declared
    cases object
    rfl
  | values constant doc specs =>
    obtain ⟨⟨v, i⟩, _, inside⟩ := List.mem_flatMap.mp declared
    obtain ⟨⟨n, j⟩, _, rfl⟩ := List.mem_map.mp inside
    cases constant <;> cases object
  | function doc name receiver params signature =>
    cases receiver with
    | none =>
      cases List.mem_singleton.mp declared
      cases object
    | some r => cases declared

/-! ### Aliases -/

theorem Catalog.alias?_eq_some {c : Catalog} {e : Entry} {a : Alias} (found : c.alias? e = some a) :
    e.object = .type a.spec ∧ a.spec.isAlias = true ∧ a = ⟨c, e.file, a.spec⟩ := by
  unfold Catalog.alias? at found
  split at found
  · split at found
    · rename_i object isAlias
      cases found
      exact ⟨object, isAlias, rfl⟩
    · cases found
  · cases found

theorem mem_aliases {c : Catalog} {a : Alias} :
    a ∈ c.aliases ↔ ∃ e ∈ c.entries, e.isReferable = true ∧ c.alias? e = some a := by
  simp only [Catalog.aliases, List.mem_filterMap, List.mem_filter, and_assoc]

/-- A name refers to what one of the packages in sight declares. -/
theorem Scope.mem_of_entry? {s : Scope} {name : Text} {p : Catalog} {e : Entry}
    (home : s.package ∈ s.world.packages) (found : s.entry? name = some (p, e)) :
    p ∈ s.world.packages ∧ e ∈ p.entries ∧ e.isReferable = true := by
  have entry {q : Catalog} {n : Text} {e : Entry} (inside : q.entry? n = some e) :
      e ∈ q.entries ∧ e.isReferable = true := by
    have named := List.find?_some inside
    rw [Bool.and_eq_true] at named
    exact ⟨List.mem_of_find?_eq_some inside, named.1⟩
  have member {ref : PackageRef} {n : Text} (inside : s.member? ref n = some (p, e)) :
      p ∈ s.world.packages ∧ e ∈ p.entries ∧ e.isReferable = true := by
    obtain ⟨q, sighted, rest⟩ := Option.bind_eq_some_iff.mp inside
    obtain ⟨e', declared, last⟩ := Option.bind_eq_some_iff.mp rest
    cases last
    exact ⟨List.mem_of_find?_eq_some sighted, entry declared⟩
  unfold Scope.entry? at found
  split at found
  · obtain ⟨ref, _, inside⟩ := Option.bind_eq_some_iff.mp found
    exact member inside
  · rcases Option.or_eq_some_iff.mp (Option.orElse_eq_or ▸ found) with opened | ⟨_, own⟩
    · obtain ⟨ref, _, inside⟩ := List.exists_of_findSome?_eq_some opened
      exact member inside
    · obtain ⟨e', declared, last⟩ := Option.map_eq_some_iff.mp own
      cases last
      exact ⟨home, entry declared⟩

/-- The aliases that an alias mentions are declared in the packages in sight. -/
theorem World.declared_of_mentioned {w : World} {a b : Alias} (declared : a ∈ w.declaredAliases)
    (mention : b ∈ w.mentioned a) : b ∈ w.declaredAliases := by
  obtain ⟨c, sighted, own⟩ := List.mem_flatMap.mp declared
  obtain ⟨_, _, _, within⟩ := mem_aliases.mp own
  obtain ⟨_, _, made⟩ := Catalog.alias?_eq_some within
  obtain ⟨name, _, found⟩ := List.mem_filterMap.mp mention
  unfold Scope.alias? at found
  split at found
  · cases found
  obtain ⟨⟨p, e⟩, referred, target⟩ := Option.bind_eq_some_iff.mp found
  have home : a.package ∈ w.packages := by rw [made]; exact sighted
  obtain ⟨inSight, inside, referable⟩ := Scope.mem_of_entry? home referred
  exact List.mem_flatMap.mpr ⟨p, inSight, mem_aliases.mpr ⟨e, inside, referable, target⟩⟩

/-- The path and the name tell the aliases of packages that compile apart. -/
theorem Compiles.ranked {packages : List Package} (compiles : Compiles packages) {rank : Text × Text → Nat}
    (descends : (World.unsettled packages).Descends rank) : (World.unsettled packages).Ranked rank := by
  refine ⟨?_, fun a declared b mention =>
    ⟨World.declared_of_mentioned declared mention, descends a declared b mention⟩⟩
  intro a declared b declared' key
  obtain ⟨c, sighted, own⟩ := List.mem_flatMap.mp declared
  obtain ⟨d, sighted', own'⟩ := List.mem_flatMap.mp declared'
  obtain ⟨p, member, rfl⟩ := List.mem_map.mp sighted
  obtain ⟨q, member', rfl⟩ := List.mem_map.mp sighted'
  obtain ⟨e, inside, referable, found⟩ := mem_aliases.mp own
  obtain ⟨e', inside', _, found'⟩ := mem_aliases.mp own'
  obtain ⟨object, _, made⟩ := Catalog.alias?_eq_some found
  obtain ⟨object', _, made'⟩ := Catalog.alias?_eq_some found'
  rw [made, made', Alias.key, Alias.key, Prod.mk.injEq] at key
  obtain ⟨path, name⟩ := key
  obtain rfl : p = q := List.inj_on_of_nodup_map compiles.paths member member' path
  obtain ⟨f, _, within⟩ := List.mem_flatMap.mp inside
  obtain ⟨g, _, within'⟩ := List.mem_flatMap.mp inside'
  have same : e.name = e'.name := by
    rw [Entry.name_of_type within object, Entry.name_of_type within' object', name]
  obtain rfl := (compiles.clear p member).entries.eq inside inside' same referable
  exact Option.some.inj (found.symm.trans found')

end TypeAtlas.Source
