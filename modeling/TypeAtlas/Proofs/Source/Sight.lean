import Mathlib.Data.List.Forall2
import TypeAtlas.Source.Scope

/-!
What a name means where it is written depends on which names the packages in sight declare, not on the
order in which they declare them, and for an alias on what it stands for. A type that is written depends
on the names in it alone.
-/

namespace TypeAtlas.Source

/-- Two accounts of a package in which every name means the same. -/
structure Catalog.SameNames (c d : Catalog) : Prop where
  ref : d.ref = c.ref
  entry? : ∀ name, d.entry? name = c.entry? name

theorem Catalog.SameNames.refl (c : Catalog) : c.SameNames c :=
  ⟨rfl, fun _ => rfl⟩

theorem Catalog.SameNames.symm {c d : Catalog} (same : c.SameNames d) : d.SameNames c :=
  ⟨same.ref.symm, fun name => (same.entry? name).symm⟩

/-- The same declaration of an alias. -/
structure Alias.Same (a b : Alias) : Prop where
  package : a.package.SameNames b.package
  file : b.file = a.file
  spec : b.spec = a.spec

theorem Alias.Same.symm {a b : Alias} (same : a.Same b) : b.Same a :=
  ⟨same.package.symm, same.file.symm, same.spec.symm⟩

theorem Alias.Same.key {a b : Alias} (same : a.Same b) : b.key = a.key := by
  rw [Alias.key, Alias.key, same.package.ref, same.spec]

theorem Catalog.SameNames.alias? {c d : Catalog} (same : c.SameNames d) (e : Entry) :
    Option.Rel Alias.Same (c.alias? e) (d.alias? e) := by
  unfold Catalog.alias?
  cases e.object with
  | type s =>
    dsimp only
    split
    · exact .some ⟨same, rfl, rfl⟩
    · exact .none
  | _ => exact .none

/-- The same packages are in sight, each with the same names. -/
def World.SameSight (v w : World) : Prop :=
  List.Forall₂ Catalog.SameNames v.packages w.packages

/-- Look-ups with related results both find nothing or find related things. -/
theorem related_cases {α β : Type} {R : α → β → Prop} {x : Option α} {y : Option β}
    (related : Option.Rel R x y) :
    (x = none ∧ y = none) ∨ ∃ a b, x = some a ∧ y = some b ∧ R a b := by
  cases related with
  | none => exact .inl ⟨rfl, rfl⟩
  | some found => exact .inr ⟨_, _, rfl, rfl, found⟩

/-- In packages that correspond to each other, the one at a path corresponds to the one at that path. -/
theorem World.related_package? {v w : World} {R : Catalog → Catalog → Prop}
    (ref : ∀ c d, R c d → d.ref = c.ref) (related : List.Forall₂ R v.packages w.packages) (path : Text) :
    Option.Rel R (v.package? path) (w.package? path) := by
  unfold World.package?
  generalize v.packages = before, w.packages = after at related
  induction related with
  | nil => exact .none
  | @cons c d cs ds first _ ih =>
    rw [List.find?_cons, List.find?_cons, ref c d first]
    cases c.ref.path == path with
    | true => exact .some first
    | false => exact ih

namespace World.SameSight

theorem of_packages_eq {v w : World} (same : w.packages = v.packages) : v.SameSight w := by
  rw [SameSight, same]
  exact List.forall₂_same.mpr fun c _ => .refl c

variable {v w : World}

theorem package? (same : v.SameSight w) (path : Text) :
    Option.Rel Catalog.SameNames (v.package? path) (w.package? path) :=
  related_package? (fun _ _ names => names.ref) same path

theorem refAt (same : v.SameSight w) (path : Text) : w.refAt path = v.refAt path := by
  rw [World.refAt, World.refAt]
  rcases related_cases (same.package? path) with ⟨left, right⟩ | ⟨p, q, left, right, names⟩
  · rw [left, right]
  · rw [left, right]
    exact names.ref

end World.SameSight

/-- Two places at which a type is written with the same in sight. -/
structure Scope.SameSight (s t : Scope) : Prop where
  world : s.world.SameSight t.world
  package : s.package.SameNames t.package
  file : t.file = s.file
  params : t.params = s.params

namespace Scope.SameSight

variable {s t : Scope}

theorem import? (same : s.SameSight t) (qualifier : Text) : t.import? qualifier = s.import? qualifier := by
  simp only [Scope.import?, same.file, same.world.refAt]

theorem opened (same : s.SameSight t) : t.opened = s.opened := by
  simp only [Scope.opened, same.file, same.world.refAt]

theorem isUnsafePointer (same : s.SameSight t) (name : Text) :
    t.isUnsafePointer name = s.isUnsafePointer name := by
  simp only [Scope.isUnsafePointer, same.import?, same.opened]

/-- The same declaration, in two accounts of its package. -/
inductive Matched : Catalog × Entry → Catalog × Entry → Prop where
  | mk {p q : Catalog} (names : p.SameNames q) (e : Entry) : Matched (p, e) (q, e)

theorem member? (same : s.SameSight t) (ref : PackageRef) (name : Text) :
    Option.Rel Matched (s.member? ref name) (t.member? ref name) := by
  unfold Scope.member?
  rcases related_cases (same.world.package? ref.path) with ⟨left, right⟩ | ⟨p, q, left, right, names⟩
  · rw [left, right]
    exact .none
  · rw [left, right]
    simp only [Option.bind_eq_bind, Option.bind_some, names.entry?]
    cases p.entry? name with
    | none => exact .none
    | some e => exact .some ⟨names, e⟩

theorem findSome? (same : s.SameSight t) (refs : List PackageRef) (name : Text) :
    Option.Rel Matched (refs.findSome? (s.member? · name)) (refs.findSome? (t.member? · name)) := by
  induction refs with
  | nil => exact .none
  | cons ref rest ih =>
    rw [List.findSome?_cons, List.findSome?_cons]
    rcases related_cases (same.member? ref name) with ⟨left, right⟩ | ⟨x, y, left, right, found⟩
    · rw [left, right]
      exact ih
    · rw [left, right]
      exact .some found

theorem entry? (same : s.SameSight t) (name : Text) :
    Option.Rel Matched (s.entry? name) (t.entry? name) := by
  unfold Scope.entry?
  split
  · rename_i qualifier member _
    rw [same.import?]
    cases s.import? qualifier with
    | none => exact .none
    | some ref => exact same.member? ref member
  · rw [same.opened, same.package.entry?]
    rcases related_cases (same.findSome? (if isExported name then s.opened else []) name) with
      ⟨left, right⟩ | ⟨x, y, left, right, found⟩
    · rw [left, right]
      cases s.package.entry? name with
      | none => exact .none
      | some e => exact .some ⟨same.package, e⟩
    · rw [left, right]
      exact .some found

theorem alias? (same : s.SameSight t) (name : Text) :
    Option.Rel Alias.Same (s.alias? name) (t.alias? name) := by
  rw [Scope.alias?, Scope.alias?, same.params, same.isUnsafePointer]
  split
  · exact .none
  · rcases related_cases (same.entry? name) with ⟨left, right⟩ | ⟨_, _, left, right, names, e⟩
    · rw [left, right]
      exact .none
    · rw [left, right]
      exact names.alias? e

/-- A name means the same in both places if, as an alias, it stands for the same. -/
theorem meaning {name : Text} (same : s.SameSight t)
    (settled : ∀ a ∈ s.alias? name, t.world.aliases.lookup a.key = s.world.aliases.lookup a.key)
    (args : List SourceType) : t.meaning name args = s.meaning name args := by
  unfold Scope.meaning
  rw [same.params, same.isUnsafePointer]
  split
  · rfl
  rename_i free
  split
  · rfl
  rename_i safe
  rcases related_cases (same.entry? name) with
    ⟨left, right⟩ | ⟨_, _, left, right, @⟨p, q, names, f, n, own, group, object⟩⟩
  · rw [left, right]
  rw [left, right]
  cases object with
  | type spec =>
    simp only [World.declared, names.ref]
    split
    · rename_i isAlias
      have found : s.alias? name = some ⟨p, f, spec⟩ := by
        rw [Scope.alias?, if_neg (by rw [Bool.or_eq_true, not_or]; exact ⟨free, safe⟩), left]
        exact if_pos isAlias
      have target : t.world.aliases.lookup (p.ref.path, spec.name) =
          s.world.aliases.lookup (p.ref.path, spec.name) := settled ⟨p, f, spec⟩ found
      rw [target]
    · rfl
  | _ => rfl

end Scope.SameSight

/-! ### Types that are written -/

mutual

/-- A type denotes the same where all names in it mean the same. -/
theorem TypeExpr.resolve_congr {s t : Scope} (home : t.package.ref.path = s.package.ref.path) :
    (e : TypeExpr) → (∀ name ∈ e.mentions, ∀ args, t.meaning name args = s.meaning name args) →
    e.resolve t = e.resolve s
  | .name n, means => by
    rw [TypeExpr.resolve, TypeExpr.resolve, means n List.mem_cons_self]
  | .pointer e, means | .slice e, means | .array _ e, means | .channel _ e, means => by
    rw [TypeExpr.resolve, TypeExpr.resolve, e.resolve_congr home means]
  | .map k v, means => by
    have key := k.resolve_congr home fun n member => means n (List.mem_append_left _ member)
    have value := v.resolve_congr home fun n member => means n (List.mem_append_right _ member)
    rw [TypeExpr.resolve, TypeExpr.resolve, key, value]
  | .function params results variadic, means => by
    have inputs := resolveParams_congr home variadic params fun n member =>
      means n (List.mem_append_left _ member)
    have outputs := resolveParams_congr home false results fun n member =>
      means n (List.mem_append_right _ member)
    rw [TypeExpr.resolve, TypeExpr.resolve, inputs, outputs]
  | .struct fields, means => by
    rw [TypeExpr.resolve, TypeExpr.resolve, home, resolveFields_congr home fields means]
  | .interface methods embedded, means => by
    have own := resolveParams_congr home false methods fun n member =>
      means n (List.mem_append_left _ member)
    have others := resolveAll_congr home embedded fun n member =>
      means n (List.mem_append_right _ member)
    rw [TypeExpr.resolve, TypeExpr.resolve, home, own, others]
  | .instance n args, means => by
    have all := resolveAll_congr home args fun n member => means n (List.mem_cons_of_mem _ member)
    rw [TypeExpr.resolve, TypeExpr.resolve, all, means n List.mem_cons_self]

theorem resolveAll_congr {s t : Scope} (home : t.package.ref.path = s.package.ref.path) :
    (es : List TypeExpr) →
    (∀ name ∈ TypeExpr.allMentions es, ∀ args, t.meaning name args = s.meaning name args) →
    resolveAll t es = resolveAll s es
  | [], _ => rfl
  | e :: rest, means => by
    have first := e.resolve_congr home fun n member => means n (List.mem_append_left _ member)
    have others := resolveAll_congr home rest fun n member => means n (List.mem_append_right _ member)
    rw [resolveAll, resolveAll, first, others]

theorem resolveParams_congr {s t : Scope} (home : t.package.ref.path = s.package.ref.path)
    (variadic : Bool) : (bs : List (Binding TypeExpr)) →
    (∀ name ∈ TypeExpr.boundMentions bs, ∀ args, t.meaning name args = s.meaning name args) →
    resolveParams t variadic bs = resolveParams s variadic bs
  | [], _ => rfl
  | [⟨n, e⟩], means => by
    have first := e.resolve_congr home fun n member => means n (List.mem_append_left _ member)
    rw [resolveParams, resolveParams, first]
  | ⟨n, e⟩ :: b :: rest, means => by
    have first := e.resolve_congr home fun n member => means n (List.mem_append_left _ member)
    have others := resolveParams_congr home variadic (b :: rest) fun n member =>
      means n (List.mem_append_right _ member)
    show (⟨n, e.resolve t⟩ : Binding SourceType) :: resolveParams t variadic (b :: rest) =
      ⟨n, e.resolve s⟩ :: resolveParams s variadic (b :: rest)
    rw [first, others]

theorem resolveFields_congr {s t : Scope} (home : t.package.ref.path = s.package.ref.path) :
    (cs : List (Component TypeExpr)) →
    (∀ name ∈ TypeExpr.fieldMentions cs, ∀ args, t.meaning name args = s.meaning name args) →
    resolveFields t cs = resolveFields s cs
  | [], _ => rfl
  | ⟨n, embedded, e, tag⟩ :: rest, means => by
    have first := e.resolve_congr home fun n member => means n (List.mem_append_left _ member)
    have others := resolveFields_congr home rest fun n member =>
      means n (List.mem_append_right _ member)
    rw [resolveFields, resolveFields, first, others]

end

end TypeAtlas.Source
