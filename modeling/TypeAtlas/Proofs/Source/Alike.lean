import TypeAtlas.Proofs.Source.Reordering
import TypeAtlas.Source.Constant
import TypeAtlas.Source.MethodSet

/-!
Worlds in which every name means the same. Types have the same structure in both, they are identical and
implement interfaces in both or in neither, and constants have the same values.
-/

namespace TypeAtlas.Source

/-! ### Types and values -/

/-- Two places where every name means the same. -/
structure Scope.Alike (s t : Scope) : Prop where
  world : s.world.Alike t.world
  package : s.package.SameNames t.package
  file : t.file = s.file
  params : t.params = s.params

namespace Scope.Alike

variable {s t : Scope}

theorem sight (alike : s.Alike t) : s.SameSight t :=
  ⟨alike.world.sameSight, alike.package, alike.file, alike.params⟩

theorem resolve (alike : s.Alike t) (e : TypeExpr) : e.resolve t = e.resolve s := by
  apply e.resolve_congr (congrArg PackageRef.path alike.package.ref)
  intro name _ args
  apply alike.sight.meaning
  intro a _
  exact alike.world.aliases a.key

theorem valueFrom (alike : s.Alike t) (d : Definition) (fuel : Nat) :
    t.valueFrom d fuel = s.valueFrom d fuel := by
  induction fuel generalizing s t d with
  | zero => rfl
  | succ fuel ih =>
    have written : (fun e : TypeExpr => e.resolve t) = fun e => e.resolve s :=
      funext alike.resolve
    simp only [Scope.valueFrom, written]
    cases integer? (signs d.value).2 with
    | some n => rfl
    | none =>
      rcases related_cases (alike.sight.entry? (signs d.value).2) with
        ⟨left, right⟩ | ⟨_, _, left, right, @⟨p, q, names, f, n, own, group, object⟩⟩
      · simp only [left, right]
      · simp only [left, right]
        cases object with
        | constant c =>
          have inner : Scope.Alike ⟨s.world, p, f, []⟩ ⟨t.world, q, f, []⟩ :=
            ⟨alike.world, names, rfl, rfl⟩
          simp only [ih inner]
        | _ => rfl

end Scope.Alike

namespace World.Alike

variable {v w : World}

theorem definition (alike : v.Alike w) {p q : Catalog} (names : p.SameNames q) (f : File) (s : TypeSpec) :
    w.definition q f s = v.definition p f s := by
  have places : Scope.Alike ⟨v, p, f, s.params⟩ ⟨w, q, f, s.params⟩ := ⟨alike, names, rfl, rfl⟩
  exact places.resolve s.definition

theorem definition? (alike : v.Alike w) (ref : PackageRef) (name : Text) :
    w.definition? ref name = v.definition? ref name := by
  unfold World.definition?
  rcases related_cases (alike.sameSight.package? ref.path) with ⟨left, right⟩ | ⟨p, q, left, right, names⟩
  · rw [left, right]
    rfl
  · simp only [left, right, Option.bind_eq_bind, Option.bind_some, Catalog.typeSpec?, names.entry?,
      alike.definition names]

theorem bound (alike : v.Alike w) : w.bound = v.bound := by
  have packages := alike.packages
  unfold World.bound
  generalize v.packages = before, w.packages = after at packages
  induction packages with
  | nil => rfl
  | cons first _ ih => rw [List.foldr_cons, List.foldr_cons, first.entries.length_eq, ih]

theorem underlying (alike : v.Alike w) (t : SourceType) : w.underlying t = v.underlying t := by
  have each (fuel : Nat) (t : SourceType) : w.underlyingFrom fuel t = v.underlyingFrom fuel t := by
    induction fuel generalizing t with
    | zero => rfl
    | succ fuel ih => simp only [underlyingFrom, alike.definition?, ih]
  rw [World.underlying, World.underlying, alike.bound, each]

/-! ### Identity -/

theorem identity (alike : v.Alike w) (fuel : Nat) :
    w.identicalFrom fuel = v.identicalFrom fuel ∧ w.typeSetFrom fuel = v.typeSetFrom fuel ∧
      w.comparableFrom fuel = v.comparableFrom fuel := by
  induction fuel with
  | zero => 
    refine ⟨?_, ?_, ?_⟩
    · funext assumed a b
      rw [identicalFrom, identicalFrom]
    · funext t
      rw [typeSetFrom, typeSetFrom]
    · funext t
      rw [comparableFrom, comparableFrom]
  | succ fuel ih =>
    obtain ⟨identical, typeSet, comparable⟩ := ih
    refine ⟨?_, ?_, ?_⟩
    · funext assumed a b
      rw [identicalFrom, identicalFrom, identical, typeSet]
    · funext t
      rw [typeSetFrom, typeSetFrom, identical, typeSet, comparable, alike.underlying]
    · funext t
      rw [comparableFrom, comparableFrom, typeSet, comparable, alike.underlying]

theorem depth (alike : v.Alike w) : w.depth = v.depth := by
  rw [World.depth, World.depth, alike.extent]

theorem identical (alike : v.Alike w) : w.identical = v.identical := by
  funext a b
  rw [World.identical, World.identical, alike.depth, (alike.identity _).1]

theorem typeSet (alike : v.Alike w) : w.typeSet = v.typeSet := by
  funext t
  rw [World.typeSet, World.typeSet, alike.depth, (alike.identity _).2.1]

theorem isComparable (alike : v.Alike w) : w.isComparable = v.isComparable := by
  funext t
  rw [World.isComparable, World.isComparable, alike.depth, (alike.identity _).2.2]

/-! ### Methods -/

theorem methods (alike : v.Alike w) (ref : PackageRef) (name : Text) (args : List SourceType) :
    (w.methods ref name args).Perm (v.methods ref name args) := by
  unfold World.methods
  have related := related_package? (fun c d (account : c.Permuted d) => account.ref) alike.packages ref.path
  rcases related_cases related with ⟨left, right⟩ | ⟨p, q, left, right, account⟩
  · rw [left, right]
  · have names := account.sameNames (alike.clear p (List.mem_of_find?_eq_some left))
    have resolve (m : MethodEntry) : m.signature.resolve ⟨w, q, m.file, m.params⟩ =
        m.signature.resolve ⟨v, p, m.file, m.params⟩ :=
      Scope.Alike.resolve (s := ⟨v, p, m.file, m.params⟩) (t := ⟨w, q, m.file, m.params⟩)
        ⟨alike, names, rfl, rfl⟩ m.signature
    simp only [left, right, resolve]
    exact (account.methods.filter _).map _

/-- A declared type has at most one method of a name. -/
theorem methods_unique (clear : ∀ c ∈ v.packages, c.Clear) {ref : PackageRef} {name : Text}
    {args : List SourceType} {m n : Method} (left : m ∈ v.methods ref name args)
    (right : n ∈ v.methods ref name args) (same : m.name = n.name) : m = n := by
  unfold World.methods at left right
  split at left
  · cases left
  rename_i p found
  rw [found] at right
  obtain ⟨a, inside, rfl⟩ := List.mem_map.mp left
  obtain ⟨b, inside', rfl⟩ := List.mem_map.mp right
  obtain ⟨declared, base⟩ := List.mem_filter.mp inside
  obtain ⟨declared', base'⟩ := List.mem_filter.mp inside'
  have bases : a.base = b.base := (eq_of_beq base).trans (eq_of_beq base').symm
  have once := (clear p (List.mem_of_find?_eq_some found)).methods
  rw [List.inj_on_of_nodup_map once declared declared' (Prod.ext bases same)]

/-- The method of a type that a name selects. -/
theorem methodOf (alike : v.Alike w) (home name : Text) (t : SourceType) :
    (w.methodsOf t).2 = (v.methodsOf t).2 ∧
      ((w.methodsOf t).1.find? fun m => sameName (w.methodsOf t).2 m.name home name) =
        (v.methodsOf t).1.find? fun m => sameName (v.methodsOf t).2 m.name home name := by
  unfold methodsOf
  cases t.unalias with
  | defined package n args =>
    cases package with
    | none => exact ⟨rfl, rfl⟩
    | some ref =>
      refine ⟨rfl, (List.find?_eq_find?_of_perm (alike.methods ref n args).symm ?_).symm⟩
      rintro a ⟨left, selected⟩ b ⟨right, selected'⟩
      simp only [sameName, Bool.and_eq_true, beq_iff_eq] at selected selected'
      exact methods_unique alike.clear left right (selected.1.trans selected'.1.symm)
  | _ => exact ⟨rfl, rfl⟩

theorem visitSeat (alike : v.Alike w) : w.visitSeat = v.visitSeat := by
  funext home name s seat
  obtain ⟨path, selected⟩ := alike.methodOf home name seat.type
  simp only [World.visitSeat, alike.identical, alike.underlying, alike.typeSet, selected]

theorem consolidate (alike : v.Alike w) : w.consolidate = v.consolidate := by
  funext seats
  induction seats with
  | nil => rfl
  | cons seat rest ih => simp only [World.consolidate, ih, alike.identical]

theorem searchFrom (alike : v.Alike w) (home name : Text) (fuel : Nat) :
    w.searchFrom home name fuel = v.searchFrom home name fuel := by
  induction fuel with
  | zero => rfl
  | succ fuel ih =>
    funext seen level
    simp only [World.searchFrom, alike.visitSeat, alike.consolidate, ih]

theorem isInterface (alike : v.Alike w) : w.isInterface = v.isInterface := by
  funext t
  rw [World.isInterface, World.isInterface, alike.underlying]

theorem method? (alike : v.Alike w) : w.method? = v.method? := by
  funext home name t
  simp only [World.method?, alike.isInterface, alike.depth, alike.searchFrom]

theorem hasMethods (alike : v.Alike w) : w.hasMethods = v.hasMethods := by
  funext t methods
  simp only [World.hasMethods, alike.method?, alike.identical]

theorem implements (alike : v.Alike w) : w.implements = v.implements := by
  funext t interface
  simp only [World.implements, World.comparesAs, alike.typeSet, alike.hasMethods, alike.identical,
    alike.isComparable]

end World.Alike

theorem Scope.Alike.value {s t : Scope} (alike : s.Alike t) (d : Definition) : t.value d = s.value d := by
  rw [Scope.value, Scope.value, alike.world.bound, alike.valueFrom]

end TypeAtlas.Source
