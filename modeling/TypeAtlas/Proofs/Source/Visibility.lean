import TypeAtlas.Source.Type

/-!
Where a hidden name can stand in a type that passes for nameable. The walk over a type looks at every name
that is written down, save in the arguments of an alias and in the signatures of the methods of an
interface. So a name that other packages may not use can only occur in one of these.
-/

namespace TypeAtlas.SourceType

open Source

/-- Other packages may use the name that a type is written by and those of the members of a literal; the
members' types are another matter. -/
def hasOpenNames : SourceType → Bool
  | .basic b => b != .invalid
  | .parameter _ => false
  | .defined p n _ | .alias p n _ _ => isOpen p n
  | .struct _ fields => fields.all (isExported ·.name)
  | .interface _ methods _ => methods.all (isExported ·.name)
  | _ => true

/-! ### Types inside types -/

/-- The types that stand in the spelling of a type and that the walk looks at. -/
def inspectedParts : SourceType → List SourceType
  | .defined _ _ args => args
  | .pointer e | .slice e | .array _ e | .channel _ e => [e]
  | .map k v => [k, v]
  | .function params results _ => params.map (·.type) ++ results.map (·.type)
  | .struct _ fields => fields.map (·.type)
  | .interface _ _ embedded => embedded
  | _ => []

/-- The types that stand in the spelling of a type and that the walk passes over. -/
def skippedParts : SourceType → List SourceType
  | .alias _ _ args _ => args
  | .interface _ methods _ => methods.map (·.type)
  | _ => []

/-- A type stands in the spelling of another one, at any depth. -/
inductive Occurs (inner : SourceType) : SourceType → Prop
  | here : Occurs inner inner
  | part {whole part : SourceType} :
      part ∈ whole.inspectedParts ++ whole.skippedParts → Occurs inner part → Occurs inner whole

/-- It stands there with inspected parts only on the way to it. -/
inductive Inspected (inner : SourceType) : SourceType → Prop
  | here : Inspected inner inner
  | part {whole part : SourceType} :
      part ∈ whole.inspectedParts → Inspected inner part → Inspected inner whole

/-- An occurrence is inspected, or there is a first part on the way to it that is passed over. -/
theorem Occurs.inspected_or_skipped {inner whole : SourceType} (occurs : Occurs inner whole) :
    Inspected inner whole ∨
      ∃ outer part, Inspected outer whole ∧ part ∈ outer.skippedParts ∧ Occurs inner part := by
  induction occurs with
  | here => exact .inl .here
  | @part whole part member inside ih =>
    rcases List.mem_append.mp member with inspected | skipped
    · rcases ih with direct | ⟨outer, first, reached, skipped, inside⟩
      · exact .inl (.part inspected direct)
      · exact .inr ⟨outer, first, .part inspected reached, skipped, inside⟩
    · exact .inr ⟨whole, part, .here, skipped, inside⟩

/-- Every type that is inspected has open names. -/
def IsClear (t : SourceType) : Prop :=
  ∀ u, Inspected u t → u.hasOpenNames = true

theorem isClear_iff {t : SourceType} :
    t.IsClear ↔ t.hasOpenNames = true ∧ ∀ u ∈ t.inspectedParts, u.IsClear := by
  constructor
  · intro clear
    exact ⟨clear t .here, fun u member w inside => clear w (.part member inside)⟩
  · rintro ⟨here, parts⟩ u inspected
    cases inspected with
    | here => exact here
    | part member inside => exact parts _ member u inside

/-! ### The walk -/

/-- The aliases seen have names that other packages may use. -/
def Seen.AreOpen (seen : Seen) : Prop :=
  ∀ x ∈ seen, isOpen x.1 x.2.1 = true

theorem Seen.AreOpen.of_contains {seen : Seen} {p : Option PackageRef} {n : Text}
    {args : List SourceType} (opened : AreOpen seen) (found : seen.contains (p, n, args) = true) :
    isOpen p n = true := by
  obtain ⟨x, member, same⟩ := List.contains_iff_exists_mem_beq.mp found
  obtain ⟨q, m, others⟩ := x
  have parts : (p == q) = true ∧ (n == m) = true ∧ (args == others) = true := by
    simpa [BEq.beq] using same
  rw [eq_of_beq parts.1, eq_of_beq parts.2.1]
  exact opened _ member

mutual

/-- What the walk lets pass is clear, unless it stands behind an alias and so is not spelled itself. -/
theorem clear_of_nameableFrom {behind : Bool} {seen seen' : Seen} {t : SourceType}
    (opened : seen.AreOpen) (walked : t.nameableFrom behind seen = some seen') :
    seen'.AreOpen ∧ (behind = false → t.IsClear) := by
  cases t with
  | basic b =>
    rw [nameableFrom] at walked
    split at walked
    · cases walked
    · rename_i valid
      cases walked
      exact ⟨opened, fun _ => isClear_iff.mpr ⟨by simpa [hasOpenNames] using valid, nofun⟩⟩
  | any =>
    cases walked
    exact ⟨opened, fun _ => isClear_iff.mpr ⟨rfl, nofun⟩⟩
  | parameter n => cases walked
  | defined p n args =>
    rw [nameableFrom] at walked
    split at walked
    · rename_i name
      obtain ⟨after, clear⟩ := clear_of_nameableAll opened walked
      exact ⟨after, fun _ => isClear_iff.mpr ⟨name, clear⟩⟩
    · cases walked
  | «alias» p n args target =>
    -- What stands behind an alias is not spelled: only its own name has to be open.
    rw [nameableFrom] at walked
    split at walked
    · rename_i far
      exact ⟨(clear_of_nameableFrom opened walked).1, fun near => by simp [near] at far⟩
    split at walked
    · rename_i found
      cases walked
      exact ⟨opened, fun _ => isClear_iff.mpr ⟨opened.of_contains found, nofun⟩⟩
    split at walked
    · rename_i name
      have more : Seen.AreOpen ((p, n, args) :: seen) := List.forall_mem_cons.mpr ⟨name, opened⟩
      exact ⟨(clear_of_nameableFrom more walked).1, fun _ => isClear_iff.mpr ⟨name, nofun⟩⟩
    · cases walked
  | pointer e | slice e | array _ e | channel _ e =>
    rw [nameableFrom] at walked
    obtain ⟨after, clear⟩ := clear_of_nameableFrom opened walked
    exact ⟨after, fun _ => isClear_iff.mpr ⟨rfl, by simpa [inspectedParts] using clear⟩⟩
  | map k v =>
    rw [nameableFrom] at walked
    split at walked
    · rename_i key
      obtain ⟨between, keys⟩ := clear_of_nameableFrom opened key
      obtain ⟨after, values⟩ := clear_of_nameableFrom between walked
      exact ⟨after, fun _ => isClear_iff.mpr ⟨rfl, by simp [inspectedParts, keys, values]⟩⟩
    · cases walked
  | function params results variadic =>
    rw [nameableFrom] at walked
    split at walked
    · rename_i inputs
      obtain ⟨between, inputsClear⟩ := clear_of_nameableBound opened inputs
      obtain ⟨after, outputsClear⟩ := clear_of_nameableBound between walked
      refine ⟨after, fun _ => isClear_iff.mpr ⟨rfl, ?_⟩⟩
      exact List.forall_mem_append.mpr
        ⟨List.forall_mem_map.mpr inputsClear, List.forall_mem_map.mpr outputsClear⟩
    · cases walked
  | struct home fields =>
    rw [nameableFrom] at walked
    obtain ⟨after, each⟩ := clear_of_nameableFields opened walked
    refine ⟨after, fun _ => isClear_iff.mpr ⟨?_, ?_⟩⟩
    · exact List.all_eq_true.mpr fun f member => (each f member).1
    · exact List.forall_mem_map.mpr fun f member => (each f member).2
  | interface home methods embedded =>
    rw [nameableFrom] at walked
    split at walked
    · rename_i names
      obtain ⟨after, clear⟩ := clear_of_nameableAll opened walked
      exact ⟨after, fun _ => isClear_iff.mpr ⟨names, clear⟩⟩
    · cases walked

theorem clear_of_nameableAll {seen seen' : Seen} {ts : List SourceType} (opened : seen.AreOpen)
    (walked : nameableAll seen ts = some seen') : seen'.AreOpen ∧ ∀ t ∈ ts, t.IsClear := by
  cases ts with
  | nil =>
    cases walked
    exact ⟨opened, nofun⟩
  | cons t rest =>
    rw [nameableAll] at walked
    split at walked
    · rename_i first
      obtain ⟨between, clear⟩ := clear_of_nameableFrom opened first
      obtain ⟨after, others⟩ := clear_of_nameableAll between walked
      exact ⟨after, List.forall_mem_cons.mpr ⟨clear rfl, others⟩⟩
    · cases walked

theorem clear_of_nameableBound {seen seen' : Seen} {bindings : List (Binding SourceType)}
    (opened : seen.AreOpen) (walked : nameableBound seen bindings = some seen') :
    seen'.AreOpen ∧ ∀ b ∈ bindings, b.type.IsClear := by
  cases bindings with
  | nil =>
    cases walked
    exact ⟨opened, nofun⟩
  | cons b rest =>
    cases b with
    | mk name t =>
      rw [nameableBound] at walked
      split at walked
      · rename_i first
        obtain ⟨between, clear⟩ := clear_of_nameableFrom opened first
        obtain ⟨after, others⟩ := clear_of_nameableBound between walked
        exact ⟨after, List.forall_mem_cons.mpr ⟨clear rfl, others⟩⟩
      · cases walked

theorem clear_of_nameableFields {seen seen' : Seen} {fields : List (Component SourceType)}
    (opened : seen.AreOpen) (walked : nameableFields seen fields = some seen') :
    seen'.AreOpen ∧ ∀ f ∈ fields, isExported f.name = true ∧ f.type.IsClear := by
  cases fields with
  | nil =>
    cases walked
    exact ⟨opened, nofun⟩
  | cons f rest =>
    cases f with
    | mk name embedded t tag =>
      rw [nameableFields] at walked
      split at walked
      · rename_i exported
        split at walked
        · rename_i first
          obtain ⟨between, clear⟩ := clear_of_nameableFrom opened first
          obtain ⟨after, others⟩ := clear_of_nameableFields between walked
          exact ⟨after, List.forall_mem_cons.mpr ⟨⟨exported, clear rfl⟩, others⟩⟩
        · cases walked
      · cases walked

end

theorem clear_of_nameableOutside {t : SourceType} (nameable : t.nameableOutside = true) : t.IsClear := by
  obtain ⟨seen', walked⟩ := Option.isSome_iff_exists.mp nameable
  have nothing : Seen.AreOpen [] := by simp [Seen.AreOpen]
  exact (clear_of_nameableFrom nothing walked).2 rfl

end TypeAtlas.SourceType
