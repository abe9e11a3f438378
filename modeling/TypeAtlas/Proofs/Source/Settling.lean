import Mathlib.Data.List.Count
import TypeAtlas.Proofs.Source.Sight

/-!
What aliases stand for. They are settled in the order in which they are declared, each after those that
its definition mentions. When every alias ranks above those that it mentions, all of them come to stand
for their definitions, and these do not tell in which order that happened.
-/

namespace TypeAtlas.Source

namespace World

variable {v w : World} {a b : Alias} {rank : Text × Text → Nat}

/-- What the definition of an alias says, going by what is known of other aliases. -/
def target (w : World) (a : Alias) : SourceType :=
  w.definition a.package a.file a.spec

/-- An alias stands for the same where those that it mentions do. -/
theorem target_congr (sight : v.SameSight w) (same : a.Same b)
    (known : ∀ c ∈ v.mentioned a, w.aliases.lookup c.key = v.aliases.lookup c.key) :
    w.target b = v.target a := by
  have places : Scope.SameSight ⟨v, a.package, a.file, a.spec.params⟩
      ⟨w, b.package, b.file, b.spec.params⟩ :=
    ⟨sight, same.package, same.file, congrArg TypeSpec.params same.spec⟩
  unfold target definition
  rw [same.spec] at places ⊢
  apply TypeExpr.resolve_congr (congrArg PackageRef.path same.package.ref)
  intro name mention args
  apply places.meaning
  intro c found
  exact known c (List.mem_filterMap.mpr ⟨name, mention, found⟩)

/-! ### Worlds in which more aliases are settled -/

/-- What is known of aliases in `v` is known in `w`. -/
structure Extends (v w : World) : Prop where
  packages : w.packages = v.packages
  extent : w.extent = v.extent
  aliases : ∀ {key t}, v.aliases.lookup key = some t → w.aliases.lookup key = some t

def IsKnown (w : World) (a : Alias) : Prop :=
  (w.aliases.lookup a.key).isSome = true

/-- All that is known of aliases is what their definitions say, in which nothing is left unknown. -/
def Sound (w : World) : Prop :=
  ∀ key t, w.aliases.lookup key = some t →
    ∃ a ∈ w.declaredAliases, a.key = key ∧ t = w.target a ∧ ∀ c ∈ w.mentioned a, w.IsKnown c

namespace Extends

theorem refl (w : World) : w.Extends w :=
  ⟨rfl, rfl, id⟩

theorem trans {u : World} (first : u.Extends v) (second : v.Extends w) : u.Extends w :=
  ⟨second.packages.trans first.packages, second.extent.trans first.extent,
    fun found => second.aliases (first.aliases found)⟩

theorem declaredAliases (more : v.Extends w) : w.declaredAliases = v.declaredAliases := by
  rw [World.declaredAliases, World.declaredAliases, more.packages]

theorem mentioned (more : v.Extends w) (a : Alias) : w.mentioned a = v.mentioned a := by
  have same : w = { v with aliases := w.aliases } := by
    rw [← more.packages, ← more.extent]
  rw [same]
  rfl

theorem isKnown (more : v.Extends w) (known : v.IsKnown a) : w.IsKnown a := by
  obtain ⟨t, found⟩ := Option.isSome_iff_exists.mp known
  rw [IsKnown, more.aliases found, Option.isSome_some]

theorem target (more : v.Extends w) (known : ∀ c ∈ v.mentioned a, v.IsKnown c) :
    w.target a = v.target a := by
  apply target_congr (.of_packages_eq more.packages) ⟨.refl _, rfl, rfl⟩
  intro c mention
  obtain ⟨t, found⟩ := Option.isSome_iff_exists.mp (known c mention)
  rw [found, more.aliases found]

end Extends

/-- No two aliases have the same key, and each ranks above those that it mentions. -/
structure Ranked (w : World) (rank : Text × Text → Nat) : Prop where
  distinct : ∀ a ∈ w.declaredAliases, ∀ b ∈ w.declaredAliases, a.key = b.key → a = b
  lower : ∀ a ∈ w.declaredAliases, ∀ b ∈ w.mentioned a, b ∈ w.declaredAliases ∧ rank b.key < rank a.key

theorem Ranked.of_extends (ranked : v.Ranked rank) (more : v.Extends w) : w.Ranked rank := by
  constructor
  · rw [more.declaredAliases]
    exact ranked.distinct
  · intro a declared b mention
    rw [more.declaredAliases] at declared ⊢
    rw [more.mentioned] at mention
    exact ranked.lower a declared b mention

/-- What is known of an alias is what its definition says. -/
theorem Sound.lookup (sound : w.Sound) (ranked : w.Ranked rank) (declared : a ∈ w.declaredAliases)
    {t : SourceType} (found : w.aliases.lookup a.key = some t) : t = w.target a := by
  obtain ⟨b, other, key, rfl, _⟩ := sound _ t found
  rw [ranked.distinct b other a declared key]

/-- The world `w` extends `v`, and in it the aliases of a list are known. -/
structure Settles (v w : World) (as : List Alias) : Prop where
  more : v.Extends w
  sound : w.Sound
  known : ∀ a ∈ as, w.IsKnown a

/-! ### One alias -/

/-- An alias is settled when those that it mentions are. -/
theorem Sound.settle (sound : w.Sound) (ranked : w.Ranked rank) (declared : a ∈ w.declaredAliases)
    (ready : ∀ c ∈ w.mentioned a, w.IsKnown c) :
    w.Settles { w with aliases := (a.key, w.target a) :: w.aliases } [a] := by
  have lookup (key : Text × Text) : ((a.key, w.target a) :: w.aliases).lookup key =
      if key = a.key then some (w.target a) else w.aliases.lookup key := by
    rw [List.lookup_cons]
    by_cases same : key = a.key
    · rw [if_pos same, beq_iff_eq.mpr same]
    · rw [if_neg same, beq_false_of_ne same]
  have more : w.Extends { w with aliases := (a.key, w.target a) :: w.aliases } := by
    refine ⟨rfl, rfl, ?_⟩
    intro key t found
    dsimp only
    rw [lookup]
    split
    · rename_i same
      rw [same] at found
      rw [sound.lookup ranked declared found]
    · exact found
  refine ⟨more, ?_, ?_⟩
  · intro key t found
    dsimp only at found
    rw [lookup] at found
    split at found
    · rename_i same
      cases found
      exact ⟨a, declared, same.symm, (more.target ready).symm, fun c mention =>
        more.isKnown (ready c mention)⟩
    · obtain ⟨b, other, key, said, known⟩ := sound key t found
      exact ⟨b, other, key, said.trans (more.target known).symm, fun c mention =>
        more.isKnown (known c mention)⟩
  · intro b member
    cases List.mem_singleton.mp member
    unfold IsKnown
    dsimp only
    rw [lookup, if_pos rfl, Option.isSome_some]

/-! ### One after the other -/

/-- Every alias is known. -/
structure Complete (w : World) (rank : Text × Text → Nat) : Prop where
  ranked : w.Ranked rank
  sound : w.Sound
  known : ∀ a ∈ w.declaredAliases, w.IsKnown a

/-- Every alias stands for what its definition says. -/
theorem Complete.lookup (complete : w.Complete rank) (declared : a ∈ w.declaredAliases) :
    w.aliases.lookup a.key = some (w.target a) := by
  obtain ⟨t, found⟩ := Option.isSome_iff_exists.mp (complete.known a declared)
  rw [found, complete.sound.lookup complete.ranked declared found]

end World

end TypeAtlas.Source
