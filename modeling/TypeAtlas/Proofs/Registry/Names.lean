import TypeAtlas.Proofs.Registry.Invariant

/-!
What names lead to. A name always leads to a descriptor of that name. It is a stored one, with one
exception: a description by reflection keeps its name when its type is registered under another name, and
from then on the name leads to a description that is no longer stored.
-/

namespace TypeAtlas

namespace Registry

/-- A description by reflection of a type that has since been registered under another name. -/
def Superseded (r : Registry) (d : Descriptor) : Prop :=
  ∃ t m current, d = .erasedStruct m ∧ Reflection.struct t = .ok m ∧
    r.registeredStruct? (some t) = some current ∧ current.name ≠ m.name

/-- Every name leads to a descriptor of that name, which is stored or superseded. -/
def Named (r : Registry) : Prop :=
  ∀ n d, r.byName.get? n = some d → d.name = n ∧ (r.Stores d ∨ r.Superseded d)

theorem registeredStruct?_storeStruct (r : Registry) (m : ErasedStruct) (k : Option TypeRep) :
    (r.storeStruct m).registeredStruct? k =
      if m.type = k then some m else r.registeredStruct? k := by
  have stored : (r.storeStruct m).structs.get? k = if m.type = k then some m else r.structs.get? k :=
    Keyed.get?_set _ _ _ _
  simp only [registeredStruct?, isReflected_storeStruct, stored]
  by_cases here : m.type = k <;> simp [here]

theorem registeredStruct?_cacheStruct (r : Registry) (t : TypeRep) (m : ErasedStruct)
    (k : Option TypeRep) :
    (r.cacheStruct t m).registeredStruct? k =
      if some t = k then none else r.registeredStruct? k := by
  have stored : (r.cacheStruct t m).structs.get? k = if some t = k then some m else r.structs.get? k :=
    Keyed.get?_set _ _ _ _
  simp only [registeredStruct?, isReflected_cacheStruct, stored]
  by_cases here : some t = k <;> simp [here]

/-- A name that is set leads to what it was set to, and every other name leads where it led before. -/
theorem named_set {r r' : Registry} {d : Descriptor} (names : r'.byName = r.byName.set d.name d)
    (stored : r'.Stores d) (before : r.Named)
    (others : ∀ d', d'.name ≠ d.name → r.Stores d' ∨ r.Superseded d' → r'.Stores d' ∨ r'.Superseded d') :
    r'.Named := by
  intro n d' found
  rw [names, Keyed.get?_set] at found
  split at found
  · rename_i here
    cases found
    exact ⟨here, .inl stored⟩
  · rename_i other
    obtain ⟨name, place⟩ := before n d' found
    exact ⟨name, others d' (fun same => other (same.symm.trans name)) place⟩

theorem Superseded.of_registeredStruct? {r r' : Registry} {d : Descriptor} (superseded : r.Superseded d)
    (kept : ∀ k current, r.registeredStruct? k = some current → r'.registeredStruct? k = some current) :
    r'.Superseded d := by
  obtain ⟨t, m, current, shape, described, registered, renamed⟩ := superseded
  exact ⟨t, m, current, shape, described, kept _ _ registered, renamed⟩

theorem isReflected_of_vacant {r : Registry} {k : Option TypeRep} {m : ErasedStruct}
    (vacant : r.registeredStruct? k = none) (stored : r.structs.get? k = some m) :
    r.isReflected k = true := by
  unfold registeredStruct? at vacant
  split at vacant
  · assumption
  · rw [stored] at vacant
    cases vacant

/-- The one change that can supersede a description: its type is registered. -/
theorem Named.storeStruct {r : Registry} {m : ErasedStruct} (before : r.Named) (consistent : r.Consistent)
    (vacant : r.registeredStruct? m.type = none) : (r.storeStruct m).Named := by
  refine named_set (d := .erasedStruct m) rfl (Keyed.get?_set_self _ _ _) before ?_
  rintro d' renamed (place | superseded)
  · cases d' with
    | erasedStruct m' =>
      by_cases same : m.type = m'.type
      · -- Nothing was registered for the type, so what is replaced came from reflection.
        have replaced : r.structs.get? m.type = some m' := same ▸ place
        obtain ⟨t, _, type, found, described⟩ :=
          consistent.reflected _ (isReflected_of_vacant vacant replaced)
        cases replaced.symm.trans found
        refine .inr ⟨t, m', m, rfl, described, ?_, Ne.symm renamed⟩
        rw [registeredStruct?_storeStruct, if_pos type]
      · refine .inl ?_
        show (r.structs.set m.type m).get? m'.type = some m'
        rw [Keyed.get?_set, if_neg same]
        exact place
    | erasedEnum m' => exact .inl place
    | erasedFunction m' => exact .inl place
    | _ => cases place
  · refine .inr (superseded.of_registeredStruct? ?_)
    intro k current registered
    rw [registeredStruct?_storeStruct, if_neg, registered]
    rintro rfl
    rw [vacant] at registered
    cases registered

theorem Named.storeEnum {r : Registry} {m : ErasedEnum} (before : r.Named)
    (vacant : r.enums.get? m.type = none) : (r.storeEnum m).Named := by
  refine named_set (d := .erasedEnum m) rfl (Keyed.get?_set_self _ _ _) before ?_
  rintro d' _ (place | superseded)
  · refine .inl ?_
    cases d' with
    | erasedEnum m' => exact Keyed.get?_set_of_vacant vacant place
    | erasedStruct m' => exact place
    | erasedFunction m' => exact place
    | _ => cases place
  · exact .inr (superseded.of_registeredStruct? fun _ _ registered => registered)

theorem Named.storeFunction {r : Registry} {m : ErasedFunction} (before : r.Named)
    (vacant : r.functions.get? m.name = none) : (r.storeFunction m).Named := by
  refine named_set (d := .erasedFunction m) rfl (Keyed.get?_set_self _ _ _) before ?_
  rintro d' _ (place | superseded)
  · refine .inl ?_
    cases d' with
    | erasedFunction m' => exact Keyed.get?_set_of_vacant vacant place
    | erasedStruct m' => exact place
    | erasedEnum m' => exact place
    | _ => cases place
  · exact .inr (superseded.of_registeredStruct? fun _ _ registered => registered)

theorem Named.cacheStruct {r : Registry} {t : TypeRep} {m : ErasedStruct} (before : r.Named)
    (vacant : r.structs.get? (some t) = none) (described : Reflection.struct t = .ok m) :
    (r.cacheStruct t m).Named := by
  have kept : ∀ d, r.Stores d ∨ r.Superseded d →
      (r.cacheStruct t m).Stores d ∨ (r.cacheStruct t m).Superseded d := by
    rintro d (place | superseded)
    · refine .inl ?_
      cases d with
      | erasedStruct m' => exact Keyed.get?_set_of_vacant vacant place
      | erasedEnum m' => exact place
      | erasedFunction m' => exact place
      | _ => cases place
    · refine .inr (superseded.of_registeredStruct? ?_)
      intro k current registered
      rw [registeredStruct?_cacheStruct, if_neg, registered]
      rintro rfl
      simp [registeredStruct?, vacant] at registered
  have stored : (r.cacheStruct t m).Stores (.erasedStruct m) := by
    show (r.structs.set (some t) m).get? m.type = some m
    rw [Reflection.type_of_struct described]
    exact Keyed.get?_set_self _ _ _
  cases free : (r.byName.get? m.name).isNone with
  | true =>
    exact named_set (by simp only [Registry.cacheStruct, free, if_true]; rfl) stored before
      fun d _ => kept d
  | false =>
    intro n d found
    simp only [Registry.cacheStruct, free, Bool.false_eq_true, if_false] at found
    obtain ⟨name, place⟩ := before n d found
    exact ⟨name, kept d place⟩

theorem Named.step {r r' : Registry} (step : Step r r') (before : r.Consistent ∧ r.Named) :
    r'.Consistent ∧ r'.Named := by
  obtain ⟨consistent, named⟩ := before
  refine ⟨consistent.step step, ?_⟩
  cases step with
  | stay => exact named
  | storeStruct m vacant => exact named.storeStruct consistent vacant
  | storeEnum m vacant => exact named.storeEnum vacant
  | storeFunction m vacant => exact named.storeFunction vacant
  | cacheStruct t m vacant described => exact named.cacheStruct vacant described
  | reset => exact fun _ _ found => nomatch found

theorem named_of_reachable {r : Registry} (reachable : r.Reachable) : r.Named := by
  obtain ⟨fallback, validates, ops, rfl⟩ := reachable
  have start : ({ fallback, validates } : Registry).Consistent ∧
      ({ fallback, validates } : Registry).Named :=
    ⟨consistent_reset { fallback, validates }, fun _ _ found => nomatch found⟩
  exact (run_preserves (fun _ _ => Named.step) ops start).2

theorem not_superseded_of_stores {r : Registry} {d : Descriptor} (stored : r.Stores d) :
    ¬ r.Superseded d := by
  rintro ⟨t, m, current, rfl, described, registered, renamed⟩
  have place : r.structs.get? (some t) = some m := Reflection.type_of_struct described ▸ stored
  unfold registeredStruct? at registered
  split at registered
  · cases registered
  · cases place.symm.trans registered
    exact renamed rfl

/-- In every registry that operations can lead to, a name leads to a descriptor of that name. It is among
the entries exactly when it is stored for what it describes, and that fails exactly for a description by
reflection whose type has since been registered under another name. -/
theorem lookup_stored_iff {r : Registry} (reachable : r.Reachable) {n : Text} {d : Descriptor}
    (found : r.lookup? n = some d) :
    d.name = n ∧ ((∃ e ∈ r.entries, e.descriptor = d) ↔ r.Stores d) ∧
      (r.Stores d ↔ ¬ r.Superseded d) := by
  obtain ⟨name, place⟩ := named_of_reachable reachable n d found
  refine ⟨name, ((consistent_of_reachable reachable).stores_iff d).symm, ?_⟩
  constructor
  · exact not_superseded_of_stores
  · intro current
    exact place.resolve_right current

/-! ### A name left behind -/

/-- A type without contents. -/
def gateType : TypeRep :=
  .named ⟨"atlas", "atlas", "Gate"⟩ (.struct [])

/-- A descriptor of that type under a name of its own. -/
def door : StructInfo where
  kind := .struct
  name := "atlas.Door"
  attrs := []
  type := some gateType
  count := 0
  fields := []
  listType := some TypeRep.noType

/-- The type was looked up before its descriptor was registered. -/
def gateRenamed : Registry :=
  run {} [.struct (some gateType), .registerStruct door]

theorem renamed_name_is_stale :
    ∃ d, gateRenamed.lookup? "atlas.Gate" = some d ∧
      ¬ ∃ e ∈ gateRenamed.entries, e.descriptor = d := by
  have reachable : gateRenamed.Reachable := ⟨true, true, _, rfl⟩
  have found : gateRenamed.lookup? "atlas.Gate" =
      some (.erasedStruct (.ofFields (some gateType) .struct "atlas.Gate" [] [])) := rfl
  obtain ⟨_, listed, current⟩ := lookup_stored_iff reachable found
  refine ⟨_, found, ?_⟩
  rw [listed, current, Classical.not_not]
  exact ⟨gateType, _, door.erase, rfl, rfl, rfl, by decide⟩

end Registry

end TypeAtlas
