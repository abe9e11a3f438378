import TypeAtlas.Proofs.Registry.Step

/-!
What holds in every registry that operations can lead to: the maps have no key twice, descriptors are
stored under what they describe, and a type that counts as reflected has the description that reflection
gives. So what a registry stores is what its entries list.
-/

namespace TypeAtlas

/-! ### Maps without repeated keys -/

namespace Keyed

variable {κ ν : Type} [DecidableEq κ]

theorem mem_keys_set {m : Keyed κ ν} {k k' : κ} {v : ν} :
    k' ∈ (m.set k v).map Prod.fst ↔ k' = k ∨ k' ∈ m.map Prod.fst := by
  induction m with
  | nil => simp [set]
  | cons e rest ih =>
    by_cases same : e.1 = k
    · simp [set, same]
    · simp only [set, if_neg same, List.map_cons, List.mem_cons, ih]
      constructor
      · rintro (here | there | later)
        · exact .inr (.inl here)
        · exact .inl there
        · exact .inr (.inr later)
      · rintro (there | here | later)
        · exact .inr (.inl there)
        · exact .inl here
        · exact .inr (.inr later)

theorem nodup_keys_set {m : Keyed κ ν} (distinct : (m.map Prod.fst).Nodup) (k : κ) (v : ν) :
    ((m.set k v).map Prod.fst).Nodup := by
  induction m with
  | nil => simp [set]
  | cons e rest ih =>
    rw [List.map_cons, List.nodup_cons] at distinct
    by_cases same : e.1 = k
    · simp only [set, if_pos same, List.map_cons, List.nodup_cons]
      exact same ▸ distinct
    · simp only [set, if_neg same, List.map_cons, List.nodup_cons]
      refine ⟨?_, ih distinct.2⟩
      intro member
      rcases mem_keys_set.mp member with here | later
      · exact same here
      · exact distinct.1 later

/-- With distinct keys, the pairs of a map are what its keys are looked up as. -/
theorem mem_iff_get? {m : Keyed κ ν} (distinct : (m.map Prod.fst).Nodup) {k : κ} {v : ν} :
    (k, v) ∈ m ↔ m.get? k = some v := by
  induction m with
  | nil => simp
  | cons e rest ih =>
    obtain ⟨k', v'⟩ := e
    rw [List.map_cons, List.nodup_cons] at distinct
    rw [List.mem_cons, get?_cons, ih distinct.2, Prod.mk.injEq]
    by_cases same : k' = k
    · subst same
      have absent : get? rest k' ≠ some v := fun found =>
        distinct.1 (List.mem_map.mpr ⟨_, (ih distinct.2).mpr found, rfl⟩)
      simp [absent, eq_comm]
    · simp [same, Ne.symm same]

theorem get?_set_self (m : Keyed κ ν) (k : κ) (v : ν) : (m.set k v).get? k = some v := by
  rw [get?_set, if_pos rfl]

/-- Setting a key that was vacant changes no value that was there. -/
theorem get?_set_of_vacant {m : Keyed κ ν} {k k' : κ} {v v' : ν} (vacant : m.get? k = none)
    (found : m.get? k' = some v') : (m.set k v).get? k' = some v' := by
  rw [get?_set, if_neg]
  · exact found
  · rintro rfl
    rw [vacant] at found
    cases found

/-- Setting a value under its own key keeps every value under its own key. -/
theorem key_of_get?_set {m : Keyed κ ν} (key : ν → κ) (own : ∀ k v, m.get? k = some v → key v = k)
    {v v' : ν} {k : κ} (found : (m.set (key v) v).get? k = some v') : key v' = k := by
  rw [get?_set] at found
  split at found
  · rename_i here
    cases found
    exact here
  · exact own k v' found

end Keyed

theorem Reflection.type_of_struct {t : TypeRep} {m : ErasedStruct}
    (described : Reflection.struct t = .ok m) : m.type = some t := by
  unfold Reflection.struct at described
  split at described
  · cases described
  · cases fields : Reflection.fieldsFrom t 0 (TypeRep.placedFields _) with
    | error f =>
      rw [fields] at described
      cases described
    | ok fields =>
      rw [fields] at described
      cases described
      rfl

namespace Registry

/-! ### Descriptors in their places -/

/-- Keys are distinct, descriptors are stored under what they describe, and reflected types have the
description that reflection gives. -/
structure Consistent (r : Registry) : Prop where
  structKeys : (r.structs.map Prod.fst).Nodup
  enumKeys : (r.enums.map Prod.fst).Nodup
  functionKeys : (r.functions.map Prod.fst).Nodup
  structType : ∀ k m, r.structs.get? k = some m → m.type = k
  enumType : ∀ k m, r.enums.get? k = some m → m.type = k
  functionName : ∀ k m, r.functions.get? k = some m → m.name = k
  reflected : ∀ k, r.isReflected k = true →
    ∃ t m, k = some t ∧ r.structs.get? k = some m ∧ Reflection.struct t = .ok m

theorem consistent_reset (r : Registry) : r.reset.Consistent where
  structKeys := List.nodup_nil
  enumKeys := List.nodup_nil
  functionKeys := List.nodup_nil
  structType _ _ found := nomatch found
  enumType _ _ found := nomatch found
  functionName _ _ found := nomatch found
  reflected _ marked := nomatch marked

theorem isReflected_storeStruct (r : Registry) (m : ErasedStruct) (k : Option TypeRep) :
    (r.storeStruct m).isReflected k = (r.isReflected k && decide (m.type ≠ k)) := by
  rw [Bool.eq_iff_iff]
  simp only [isReflected, storeStruct, List.contains_iff_mem, List.mem_filter, Bool.and_eq_true,
    decide_eq_true_eq, ne_eq]
  exact and_congr_right fun _ => not_congr eq_comm

theorem isReflected_cacheStruct (r : Registry) (t : TypeRep) (m : ErasedStruct) (k : Option TypeRep) :
    (r.cacheStruct t m).isReflected k = (decide (some t = k) || r.isReflected k) := by
  rw [Bool.eq_iff_iff]
  simp only [isReflected, cacheStruct, List.contains_iff_mem, List.mem_cons, Bool.or_eq_true,
    decide_eq_true_eq]
  exact or_congr_left eq_comm

theorem Consistent.storeStruct {r : Registry} (before : r.Consistent) (m : ErasedStruct) :
    (r.storeStruct m).Consistent where
  structKeys := Keyed.nodup_keys_set before.structKeys _ _
  enumKeys := before.enumKeys
  functionKeys := before.functionKeys
  structType _ _ found := Keyed.key_of_get?_set ErasedStruct.type before.structType found
  enumType := before.enumType
  functionName := before.functionName
  reflected k marked := by
    rw [isReflected_storeStruct, Bool.and_eq_true, decide_eq_true_eq] at marked
    obtain ⟨t, m', type, stored, described⟩ := before.reflected k marked.1
    refine ⟨t, m', type, ?_, described⟩
    rw [Registry.storeStruct, Keyed.get?_set, if_neg marked.2, stored]

theorem Consistent.storeEnum {r : Registry} (before : r.Consistent) (m : ErasedEnum) :
    (r.storeEnum m).Consistent where
  structKeys := before.structKeys
  enumKeys := Keyed.nodup_keys_set before.enumKeys _ _
  functionKeys := before.functionKeys
  structType := before.structType
  enumType _ _ found := Keyed.key_of_get?_set ErasedEnum.type before.enumType found
  functionName := before.functionName
  reflected := before.reflected

theorem Consistent.storeFunction {r : Registry} (before : r.Consistent) (m : ErasedFunction) :
    (r.storeFunction m).Consistent where
  structKeys := before.structKeys
  enumKeys := before.enumKeys
  functionKeys := Keyed.nodup_keys_set before.functionKeys _ _
  structType := before.structType
  enumType := before.enumType
  functionName _ _ found := Keyed.key_of_get?_set ErasedFunction.name before.functionName found
  reflected := before.reflected

theorem Consistent.cacheStruct {r : Registry} (before : r.Consistent) {t : TypeRep} {m : ErasedStruct}
    (described : Reflection.struct t = .ok m) : (r.cacheStruct t m).Consistent where
  structKeys := Keyed.nodup_keys_set before.structKeys _ _
  enumKeys := before.enumKeys
  functionKeys := before.functionKeys
  structType k m' found := by
    rw [Registry.cacheStruct, ← Reflection.type_of_struct described] at found
    exact Keyed.key_of_get?_set ErasedStruct.type before.structType found
  enumType := before.enumType
  functionName := before.functionName
  reflected k marked := by
    rw [isReflected_cacheStruct, Bool.or_eq_true, decide_eq_true_eq] at marked
    by_cases here : some t = k
    · refine ⟨t, m, here.symm, ?_, described⟩
      rw [Registry.cacheStruct, Keyed.get?_set, if_pos here]
    · obtain ⟨t', m', type, stored, described'⟩ := before.reflected k (marked.resolve_left here)
      refine ⟨t', m', type, ?_, described'⟩
      rw [Registry.cacheStruct, Keyed.get?_set, if_neg here, stored]

theorem Consistent.step {r r' : Registry} (step : Step r r') (before : r.Consistent) : r'.Consistent := by
  cases step with
  | stay => exact before
  | storeStruct m => exact before.storeStruct m
  | storeEnum m => exact before.storeEnum m
  | storeFunction m => exact before.storeFunction m
  | cacheStruct t m vacant described => exact before.cacheStruct described
  | reset => exact r.consistent_reset

theorem consistent_of_reachable {r : Registry} (reachable : r.Reachable) : r.Consistent := by
  obtain ⟨fallback, validates, ops, rfl⟩ := reachable
  exact run_preserves (fun _ _ => Consistent.step) ops (consistent_reset { fallback, validates })

/-! ### Entries -/

/-- The descriptor is stored for the type or under the name that it has. -/
def Stores (r : Registry) : Descriptor → Prop
  | .erasedStruct m => r.structs.get? m.type = some m
  | .erasedEnum m => r.enums.get? m.type = some m
  | .erasedFunction m => r.functions.get? m.name = some m
  | _ => False

theorem mem_entries_iff {r : Registry} {e : Entry} :
    e ∈ r.entries ↔ (∃ x ∈ r.structs, r.structEntry x = e) ∨ (∃ x ∈ r.enums, enumEntry x = e) ∨
      ∃ x ∈ r.functions, functionEntry x = e := by
  simp only [entries, List.mem_mergeSort, List.mem_append, List.mem_map, or_assoc]

/-- A descriptor has an entry exactly when it is stored for what it describes. -/
theorem Consistent.stores_iff {r : Registry} (consistent : r.Consistent) (d : Descriptor) :
    r.Stores d ↔ ∃ e ∈ r.entries, e.descriptor = d := by
  constructor
  · intro stored
    cases d with
    | erasedStruct m =>
      have member := (Keyed.mem_iff_get? consistent.structKeys).mpr stored
      exact ⟨_, mem_entries_iff.mpr (.inl ⟨_, member, rfl⟩), rfl⟩
    | erasedEnum m =>
      have member := (Keyed.mem_iff_get? consistent.enumKeys).mpr stored
      exact ⟨_, mem_entries_iff.mpr (.inr (.inl ⟨_, member, rfl⟩)), rfl⟩
    | erasedFunction m =>
      have member := (Keyed.mem_iff_get? consistent.functionKeys).mpr stored
      exact ⟨_, mem_entries_iff.mpr (.inr (.inr ⟨_, member, rfl⟩)), rfl⟩
    | _ => cases stored
  · rintro ⟨e, member, rfl⟩
    rcases mem_entries_iff.mp member with ⟨⟨k, m⟩, found, rfl⟩ | ⟨⟨k, m⟩, found, rfl⟩ |
      ⟨⟨k, m⟩, found, rfl⟩
    · have stored := (Keyed.mem_iff_get? consistent.structKeys).mp found
      exact (consistent.structType k m stored).symm ▸ stored
    · have stored := (Keyed.mem_iff_get? consistent.enumKeys).mp found
      exact (consistent.enumType k m stored).symm ▸ stored
    · have stored := (Keyed.mem_iff_get? consistent.functionKeys).mp found
      exact (consistent.functionName k m stored).symm ▸ stored

end Registry

end TypeAtlas
