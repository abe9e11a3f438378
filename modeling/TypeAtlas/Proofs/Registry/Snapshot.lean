import Mathlib.Data.List.Nodup
import TypeAtlas.Proofs.Registry.Lookups
import TypeAtlas.Proofs.Registry.Stability

/-!
The entries of a registry are a complete and sorted account of it: every descriptor that is stored has one
entry and there are no others, by name and then by kind. An entry says that its struct was described by
reflection exactly if a lookup kept that description and no struct of the type has been registered since.
-/

namespace TypeAtlas

namespace Registry

/-! ### The order of entries -/

namespace Entry

theorem le_iff (a b : Entry) :
    Entry.le a b = true ↔ a.name < b.name ∨ a.name = b.name ∧ (a.kind.code < b.kind.code ∨
      a.kind.code = b.kind.code ∧ TypeRep.describe a.type ≤ TypeRep.describe b.type) := by
  simp only [Entry.le, Text.lt_iff, Text.le_iff, Bool.or_eq_true, Bool.and_eq_true, decide_eq_true_eq,
    beq_iff_eq]

theorem le_trans (a b c : Entry) (first : Entry.le a b = true) (second : Entry.le b c = true) :
    Entry.le a c = true := by
  rw [le_iff] at *
  rcases first with lower | ⟨name, rest⟩
  · rcases second with lower' | ⟨name', _⟩
    · exact .inl (Std.lt_trans lower lower')
    · exact .inl (name' ▸ lower)
  rcases second with lower' | ⟨name', rest'⟩
  · exact .inl (name ▸ lower')
  refine .inr ⟨name.trans name', ?_⟩
  rcases rest with lower | ⟨kind, type⟩
  · rcases rest' with lower' | ⟨kind', _⟩
    · exact .inl (Std.lt_trans lower lower')
    · exact .inl (kind' ▸ lower)
  · rcases rest' with lower' | ⟨kind', type'⟩
    · exact .inl (kind ▸ lower')
    · exact .inr ⟨kind.trans kind', Std.le_trans type type'⟩

theorem le_total (a b : Entry) : (Entry.le a b || Entry.le b a) = true := by
  rw [Bool.or_eq_true, le_iff, le_iff]
  rcases Std.lt_trichotomy a.name b.name with lower | name | lower
  · exact .inl (.inl lower)
  · rcases Std.lt_trichotomy a.kind.code b.kind.code with lower | kind | lower
    · exact .inl (.inr ⟨name, .inl lower⟩)
    · rcases Std.le_total (a := TypeRep.describe a.type) (b := TypeRep.describe b.type) with type | type
      · exact .inl (.inr ⟨name, .inr ⟨kind, type⟩⟩)
      · exact .inr (.inr ⟨name.symm, .inr ⟨kind.symm, type⟩⟩)
    · exact .inr (.inr ⟨name.symm, .inl lower⟩)
  · exact .inr (.inl lower)

end Entry

/-- By name, and by kind where the names are the same. -/
def Entry.Before (a b : Entry) : Prop :=
  a.name < b.name ∨ a.name = b.name ∧ a.kind.code ≤ b.kind.code

theorem entries_sorted (r : Registry) : r.entries.Pairwise Entry.Before := by
  refine (List.pairwise_mergeSort Entry.le_trans Entry.le_total _).imp ?_
  intro a b le
  rcases (Entry.le_iff a b).mp le with lower | ⟨name, lower | ⟨kind, _⟩⟩
  · exact .inl lower
  · exact .inr ⟨name, Std.le_of_lt lower⟩
  · exact .inr ⟨name, Std.le_of_eq kind⟩

/-! ### One entry for each descriptor -/

/-- An entry says of its descriptor what the descriptor says of itself. -/
def Entry.Labels (e : Entry) : Prop :=
  e.type = e.descriptor.type ∧ e.name = e.descriptor.name ∧ e.kind = e.descriptor.kind

theorem Consistent.labels {r : Registry} (consistent : r.Consistent) {e : Entry} (member : e ∈ r.entries) :
    e.Labels := by
  rcases mem_entries_iff.mp member with ⟨⟨k, m⟩, found, rfl⟩ | ⟨⟨k, m⟩, found, rfl⟩ |
    ⟨⟨n, m⟩, found, rfl⟩
  · have stored := (Keyed.mem_iff_get? consistent.structKeys).mp found
    exact ⟨(consistent.structType k m stored).symm, rfl, rfl⟩
  · have stored := (Keyed.mem_iff_get? consistent.enumKeys).mp found
    exact ⟨(consistent.enumType k m stored).symm, rfl, rfl⟩
  · exact ⟨rfl, rfl, rfl⟩

theorem length_entries (r : Registry) : r.entries.length = r.count := by
  simp only [entries, List.length_mergeSort, List.length_append, List.length_map, count]

/-- Values from which their keys can be told are distinct where the keys are. -/
theorem nodup_of_keys {κ ν δ : Type} {m : Keyed κ ν} (keys : (m.map Prod.fst).Nodup) {make : κ × ν → δ}
    (key : δ → κ) (own : ∀ x ∈ m, key (make x) = x.1) : (m.map make).Nodup := by
  have same : (m.map make).map key = m.map Prod.fst := by
    rw [List.map_map]
    exact List.map_congr_left own
  exact List.Nodup.of_map key (same ▸ keys)

theorem Consistent.descriptors_nodup {r : Registry} (consistent : r.Consistent) :
    (r.entries.map Entry.descriptor).Nodup := by
  have structs : (r.structs.map (Entry.descriptor ∘ r.structEntry)).Nodup := by
    refine nodup_of_keys consistent.structKeys Descriptor.type ?_
    rintro ⟨k, m⟩ found
    exact consistent.structType k m ((Keyed.mem_iff_get? consistent.structKeys).mp found)
  have enums : (r.enums.map (Entry.descriptor ∘ enumEntry)).Nodup := by
    refine nodup_of_keys consistent.enumKeys Descriptor.type ?_
    rintro ⟨k, m⟩ found
    exact consistent.enumType k m ((Keyed.mem_iff_get? consistent.enumKeys).mp found)
  have functions : (r.functions.map (Entry.descriptor ∘ functionEntry)).Nodup := by
    refine nodup_of_keys consistent.functionKeys Descriptor.name ?_
    rintro ⟨n, m⟩ found
    exact consistent.functionName n m ((Keyed.mem_iff_get? consistent.functionKeys).mp found)
  have sorted := (List.mergeSort_perm
    (r.structs.map r.structEntry ++ r.enums.map enumEntry ++ r.functions.map functionEntry)
    Entry.le).map Entry.descriptor
  rw [entries, sorted.nodup_iff, List.map_append, List.map_append, List.map_map, List.map_map,
    List.map_map]
  refine List.nodup_append.mpr ⟨List.nodup_append.mpr ⟨structs, enums, ?_⟩, functions, ?_⟩
  · rintro _ first _ second rfl
    obtain ⟨_, _, rfl⟩ := List.mem_map.mp first
    obtain ⟨_, _, same⟩ := List.mem_map.mp second
    cases same
  · rintro _ first _ second rfl
    obtain ⟨_, _, same⟩ := List.mem_map.mp second
    rcases List.mem_append.mp first with first | first
    all_goals
      obtain ⟨_, _, rfl⟩ := List.mem_map.mp first
      cases same

/-! ### Described by reflection -/

theorem isReflected_submit (r : Registry) (q : Request) (t : TypeRep) :
    (r.submit q).1.isReflected (some t) = true ↔ r.isReflected (some t) = true ∧
      ¬ ∃ s, q = .struct s ∧ s.type = some t ∧ r.accepted q = true := by
  obtain ⟨f, answer⟩ | ⟨m, previous, offered, registered, _, answer⟩ | ⟨m, offered, _, _, answer⟩ :=
    r.submit_cases q
  · have refused : r.accepted q = false := by simp [accepted, answer, Except.isOk, Except.toBool]
    simp [answer, refused]
  · rw [answer]
    refine (and_iff_left_of_imp ?_).symm
    rintro reflected ⟨s, rfl, type, _⟩
    -- What is registered already is not described by reflection.
    cases (offer_eq_some offered).1
    obtain ⟨m, stored, rfl⟩ := Option.map_eq_some_iff.mp registered
    rw [show s.erase.type = some t from type, registeredStruct?, reflected] at stored
    cases stored
  · have accepted : r.accepted q = true := accepted_iff.mpr (by rw [answer])
    rw [answer]
    cases m with
    | struct m =>
      obtain ⟨s, rfl, rfl⟩ := q.eq_struct_of_offered offered
      show (r.storeStruct s.erase).isReflected (some t) = true ↔ _
      rw [isReflected_storeStruct, Bool.and_eq_true, decide_eq_true_eq]
      simp [accepted, StructInfo.erase]
    | enum m =>
      refine (and_iff_left ?_).symm
      rintro ⟨s, rfl, _⟩
      cases (offer_eq_some offered).1
    | function m =>
      refine (and_iff_left ?_).symm
      rintro ⟨s, rfl, _⟩
      cases (offer_eq_some offered).1

theorem isReflected_submitAll (r : Registry) (qs : List Request) (t : TypeRep) :
    (r.submitAll qs).1.isReflected (some t) = true ↔ r.isReflected (some t) = true ∧
      ¬ ∃ before s, (before, .struct s) ∈ r.attempts qs ∧ s.type = some t ∧
        before.accepted (.struct s) = true := by
  induction qs generalizing r with
  | nil => simp [submitAll, attempts]
  | cons q rest ih =>
    have first := r.isReflected_submit q t
    rw [submitAll_cons, attempts]
    split
    · rename_i accepted
      rw [ih, first, and_assoc, ← not_or]
      refine and_congr_right fun _ => not_congr ?_
      constructor
      · rintro (⟨s, rfl, type, _⟩ | ⟨before, s, later, type, taken⟩)
        · exact ⟨r, s, List.mem_cons_self, type, accepted⟩
        · exact ⟨before, s, List.mem_cons_of_mem _ later, type, taken⟩
      · rintro ⟨before, s, member, type, taken⟩
        rcases List.mem_cons.mp member with here | later
        · cases here
          exact .inl ⟨s, rfl, type, taken⟩
        · exact .inr ⟨before, s, later, type, taken⟩
    · rw [first]
      refine and_congr_right fun _ => not_congr ?_
      constructor
      · rintro ⟨s, rfl, type, taken⟩
        exact ⟨r, s, List.mem_cons_self, type, taken⟩
      · rintro ⟨before, s, member, type, taken⟩
        cases List.mem_singleton.mp member
        exact ⟨s, rfl, type, taken⟩

/-- Nothing is stored for the type, and a lookup answers with a description of it. -/
def Describes (r : Registry) (t : TypeRep) (m : ErasedStruct) : Prop :=
  r.structs.get? (some t) = none ∧ (r.struct (some t)).2 = .ok m

theorem isReflected_struct (r : Registry) (u : Option TypeRep) (t : TypeRep) :
    (r.struct u).1.isReflected (some t) = true ↔
      (u = some t ∧ ∃ m, r.Describes t m) ∨ r.isReflected (some t) = true := by
  obtain ⟨f, answer⟩ | ⟨v, m, rfl, stored, answer⟩ | ⟨v, m, rfl, vacant, _, answer⟩ := r.struct_cases u
  · rw [answer]
    refine (or_iff_right ?_).symm
    rintro ⟨rfl, m, _, found⟩
    rw [answer] at found
    cases found
  · rw [answer]
    refine (or_iff_right ?_).symm
    rintro ⟨same, m', vacant, _⟩
    rw [← same, stored] at vacant
    cases vacant
  · rw [answer, isReflected_cacheStruct, Bool.or_eq_true, decide_eq_true_eq]
    refine or_congr_left ⟨?_, And.left⟩
    intro same
    cases same
    exact ⟨rfl, m, vacant, by rw [answer]⟩

theorem registersStruct_singleton_iff {r : Registry} {op : Operation} {t : TypeRep} :
    r.RegistersStruct [op] t ↔ ∃ before s, (before, .struct s) ∈ r.attempts op.requests ∧
      s.type = some t ∧ before.accepted (.struct s) = true := by
  simp only [RegistersStruct, history, List.append_nil]

theorem registersStruct_cons_iff {r : Registry} {op : Operation} {rest : List Operation} {t : TypeRep} :
    r.RegistersStruct (op :: rest) t ↔
      r.RegistersStruct [op] t ∨ (r.perform op).1.RegistersStruct rest t := by
  simp only [RegistersStruct, history, List.mem_append, List.append_nil, or_and_right, exists_or]

theorem isReflected_perform (r : Registry) (op : Operation) (t : TypeRep) :
    (r.perform op).1.isReflected (some t) = true ↔
      (op = .struct (some t) ∧ ∃ m, r.Describes t m) ∨
        r.isReflected (some t) = true ∧ .reset ≠ op ∧ ¬ r.RegistersStruct [op] t := by
  by_cases lookup : ∃ u, op = .struct u
  · obtain ⟨u, rfl⟩ := lookup
    have same : (r.perform (.struct u)).1 = (r.struct u).1 := rfl
    rw [same, isReflected_struct, registersStruct_singleton_iff]
    simp [Operation.requests, attempts]
  by_cases emptied : op = .reset
  · subst emptied
    simp [perform, reset, isReflected]
  have submitted := ((perform_cases op).resolve_left lookup).resolve_left emptied
  rw [submitted r, isReflected_submitAll, registersStruct_singleton_iff]
  have other : ¬ (op = .struct (some t) ∧ ∃ m, r.Describes t m) := fun found => lookup ⟨_, found.1⟩
  rw [or_iff_right other, and_iff_right (Ne.symm emptied)]

/-- A lookup in the run describes the type as `m` and the description is kept; after it the registry is
not emptied and no struct of the type is registered. -/
def KeepsDescription (r : Registry) (ops : List Operation) (t : TypeRep) (m : ErasedStruct) : Prop :=
  ∃ before after, ops = before ++ .struct (some t) :: after ∧ (r.run before).Describes t m ∧
    .reset ∉ after ∧ ¬ (r.run (before ++ [.struct (some t)])).RegistersStruct after t

theorem keepsDescription_cons_iff {r : Registry} {op : Operation} {rest : List Operation} {t : TypeRep}
    {m : ErasedStruct} :
    r.KeepsDescription (op :: rest) t m ↔
      (op = .struct (some t) ∧ r.Describes t m ∧ .reset ∉ rest ∧
        ¬ (r.perform op).1.RegistersStruct rest t) ∨ (r.perform op).1.KeepsDescription rest t m := by
  constructor
  · rintro ⟨before, after, same, described, keeps, unregistered⟩
    cases before with
    | nil =>
      cases same
      exact .inl ⟨rfl, described, keeps, unregistered⟩
    | cons first before =>
      cases same
      exact .inr ⟨before, after, rfl, described, keeps, unregistered⟩
  · rintro (⟨rfl, described, keeps, unregistered⟩ | ⟨before, after, rfl, rest⟩)
    · exact ⟨[], rest, rfl, described, keeps, unregistered⟩
    · exact ⟨op :: before, after, rfl, rest⟩

/-- After a run a type counts as reflected if a lookup of the run described it or it did before, and
nothing since then has changed that. -/
theorem isReflected_run (r : Registry) (ops : List Operation) (t : TypeRep) :
    (r.run ops).isReflected (some t) = true ↔ (∃ m, r.KeepsDescription ops t m) ∨
      r.isReflected (some t) = true ∧ .reset ∉ ops ∧ ¬ r.RegistersStruct ops t := by
  induction ops generalizing r with
  | nil => simp [run, KeepsDescription, RegistersStruct, history]
  | cons op rest ih =>
    have next : (r.run (op :: rest)) = (r.perform op).1.run rest := rfl
    have registers : r.RegistersStruct (op :: rest) t ↔ _ := registersStruct_cons_iff
    rw [next, ih, isReflected_perform, registers]
    simp only [keepsDescription_cons_iff, List.mem_cons, not_or, exists_or]
    constructor
    · rintro (kept | ⟨⟨rfl, m, described⟩ | ⟨reflected, keeps, unregistered⟩, keeps', unregistered'⟩)
      · exact .inl (.inr kept)
      · exact .inl (.inl ⟨m, rfl, described, keeps', unregistered'⟩)
      · exact .inr ⟨reflected, ⟨keeps, keeps'⟩, unregistered, unregistered'⟩
    · rintro ((⟨m, rfl, described, keeps', unregistered'⟩ | kept) |
        ⟨reflected, ⟨keeps, keeps'⟩, unregistered, unregistered'⟩)
      · exact .inr ⟨.inl ⟨rfl, m, described⟩, keeps', unregistered'⟩
      · exact .inl kept
      · exact .inr ⟨.inr ⟨reflected, keeps, unregistered⟩, keeps', unregistered'⟩

theorem Describes.described {r : Registry} {t : TypeRep} {m : ErasedStruct} (describes : r.Describes t m) :
    Reflection.struct t = .ok m := by
  obtain ⟨vacant, found⟩ := describes
  obtain ⟨f, answer⟩ | ⟨_, _, same, stored, _⟩ | ⟨_, _, same, _, described, answer⟩ :=
    r.struct_cases (some t)
  · rw [answer] at found
    cases found
  · cases same
    rw [stored] at vacant
    cases vacant
  · cases same
    rw [answer] at found
    cases found
    exact described

/-- An entry counts as reflected exactly if it shows a description that the run kept. -/
theorem reflected_iff {start : Registry} (ops : List Operation) (consistent : (start.run ops).Consistent)
    (fresh : start.reflected = []) {e : Entry} (member : e ∈ (start.run ops).entries) :
    e.reflected = true ↔
      ∃ t m, e.type = some t ∧ e.descriptor = .erasedStruct m ∧ start.KeepsDescription ops t m := by
  have unmarked (t : TypeRep) : start.isReflected (some t) = false := by simp [isReflected, fresh]
  rcases mem_entries_iff.mp member with ⟨⟨k, m⟩, found, rfl⟩ | ⟨⟨k, m⟩, found, rfl⟩ |
    ⟨⟨n, m⟩, found, rfl⟩
  · have stored := (Keyed.mem_iff_get? consistent.structKeys).mp found
    constructor
    · intro reflected
      obtain ⟨t, m', rfl, stored', described⟩ := consistent.reflected k reflected
      cases stored.symm.trans stored'
      obtain ⟨m'', kept⟩ | ⟨marked, _⟩ := (start.isReflected_run ops t).mp reflected
      · obtain ⟨_, _, _, describes, _⟩ := id kept
        cases describes.described.symm.trans described
        exact ⟨t, m, rfl, rfl, kept⟩
      · rw [unmarked] at marked
        cases marked
    · rintro ⟨t, m', type, _, kept⟩
      cases type
      exact (start.isReflected_run ops t).mpr (.inl ⟨m', kept⟩)
  · have unreflected : (enumEntry (k, m)).reflected ≠ true := Bool.false_ne_true
    refine iff_of_false unreflected ?_
    rintro ⟨_, _, _, same, _⟩
    cases same
  · have unreflected : (functionEntry (n, m)).reflected ≠ true := Bool.false_ne_true
    refine iff_of_false unreflected ?_
    rintro ⟨_, _, _, same, _⟩
    cases same

/-- After any operations on an empty registry: no descriptor has two entries, those that have one are
exactly those that are stored, so there are as many as the registry counts; the entries stand by name and,
under one name, by kind; each has the type, the name and the kind of its descriptor; and it counts as
reflected exactly if it shows a struct that a lookup described by reflection, the registry has not been
emptied since, and no struct of that type has been registered. -/
theorem entries_complete_and_sorted (fallback validates : Bool) (ops : List Operation) :
    let start : Registry := { fallback, validates }
    let r := start.run ops
    (r.entries.map Entry.descriptor).Nodup ∧
      (∀ d, r.Stores d ↔ ∃ e ∈ r.entries, e.descriptor = d) ∧
      r.entries.length = r.count ∧
      r.entries.Pairwise Entry.Before ∧
      ∀ e ∈ r.entries, e.Labels ∧
        (e.reflected = true ↔
          ∃ t m, e.type = some t ∧ e.descriptor = .erasedStruct m ∧ start.KeepsDescription ops t m) := by
  intro start r
  have consistent : r.Consistent := consistent_of_reachable ⟨fallback, validates, ops, rfl⟩
  refine ⟨consistent.descriptors_nodup, consistent.stores_iff, r.length_entries, r.entries_sorted, ?_⟩
  intro e member
  exact ⟨consistent.labels member, reflected_iff ops consistent rfl member⟩

/-- A function has the name under which the gate is then described by reflection. -/
def gateTwice : List Operation :=
  [.registerFunction gateCall, .struct (some gateType)]

/-- What reflection says of the gate. -/
def gate : ErasedStruct :=
  .ofFields (some gateType) .struct "atlas.Gate" [] []

/-- The two stand side by side and only the gate counts as reflected, until the door takes its place. -/
theorem gate_listed_until_door :
    ((run {} gateTwice).entries.length = 2 ∧
        (run {} gateTwice).lookup? "atlas.Gate" = some (.erasedFunction gateCall.erase) ∧
        ∃ e ∈ (run {} gateTwice).entries, e.name = ("atlas.Gate" : Text) ∧ e.reflected = true) ∧
      ∀ e ∈ (run {} (gateTwice ++ [.registerStruct door])).entries, e.reflected = false := by
  obtain ⟨_, stores, length, _, each⟩ := entries_complete_and_sorted true true gateTwice
  obtain ⟨_, _, _, _, replaced⟩ :=
    entries_complete_and_sorted true true (gateTwice ++ [.registerStruct door])
  refine ⟨⟨length, rfl, ?_⟩, ?_⟩
  · obtain ⟨e, member, shows⟩ := (stores (.erasedStruct gate)).mp rfl
    obtain ⟨⟨type, name, _⟩, reflected⟩ := each e member
    rw [shows] at type name
    have described : (run {} [.registerFunction gateCall]).Describes gateType gate := ⟨rfl, rfl⟩
    refine ⟨e, member, name, reflected.mpr ⟨gateType, gate, type, shows, ?_⟩⟩
    exact ⟨[.registerFunction gateCall], [], rfl, described, nofun, nofun⟩
  · intro e member
    rw [Bool.eq_false_iff]
    intro reflected
    obtain ⟨t, m, _, _, before, after, split, _, _, unregistered⟩ := (replaced e member).2.mp reflected
    cases before with
    | nil => cases split
    | cons first before =>
      cases before with
      | nil =>
        cases split
        exact unregistered (registersStruct_singleton_iff.mpr ⟨_, door, List.mem_cons_self, rfl, rfl⟩)
      | cons second before =>
        cases before with
        | nil => cases split
        | cons third before => cases before <;> cases split

end Registry

end TypeAtlas
