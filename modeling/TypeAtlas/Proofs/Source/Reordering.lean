import Mathlib.Data.List.Find
import Mathlib.Data.List.Perm.Basic
import TypeAtlas.Proofs.Source.Compiled

/-!
The files of a package in another order. Every name means the same in whatever order it is found, and
settling aliases leads to the same.
-/

namespace TypeAtlas.Source

/-! ### Catalogs -/

theorem DeclaredOnce.perm {entries entries' : List Entry} (once : DeclaredOnce entries)
    (order : entries'.Perm entries) : DeclaredOnce entries' :=
  ⟨(((order.filter _).map _).nodup_iff).mpr once.names,
    fun e member => once.start e (order.mem_iff.mp member)⟩

theorem entry?_eq {c d : Catalog} (once : DeclaredOnce c.entries) (order : d.entries.Perm c.entries)
    (name : Text) : d.entry? name = c.entry? name := by
  refine (List.find?_eq_find?_of_perm order.symm ?_).symm
  rintro a ⟨left, named⟩ b ⟨right, named'⟩
  rw [Bool.and_eq_true, beq_iff_eq] at named named'
  exact once.eq left right (named.2.trans named'.2.symm) named.1

/-- The same declarations, each account in its own order. -/
structure Catalog.Permuted (c d : Catalog) : Prop where
  ref : d.ref = c.ref
  entries : d.entries.Perm c.entries
  methods : d.methods.Perm c.methods

theorem Catalog.Permuted.sameNames {c d : Catalog} (permuted : c.Permuted d) (clear : c.Clear) :
    c.SameNames d :=
  ⟨permuted.ref, entry?_eq clear.entries permuted.entries⟩

theorem Catalog.Permuted.symm {c d : Catalog} (permuted : c.Permuted d) : d.Permuted c :=
  ⟨permuted.ref.symm, permuted.entries.symm, permuted.methods.symm⟩

theorem Catalog.Clear.permuted {c d : Catalog} (clear : c.Clear) (permuted : c.Permuted d) : d.Clear :=
  ⟨clear.entries.perm permuted.entries, (permuted.methods.map _).nodup_iff.mpr clear.methods⟩

/-- The package `q` has the files of `p`, in any order. -/
structure Package.Reordered (p q : Package) : Prop where
  ref : q.ref = p.ref
  files : q.files.Perm p.files

theorem Package.Reordered.symm {p q : Package} (reordered : p.Reordered q) : q.Reordered p :=
  ⟨reordered.ref.symm, reordered.files.symm⟩

/-- A receiver leads to the same type in whatever order the types are declared. -/
theorem Catalog.SameNames.base? {c d : Catalog} (same : c.SameNames d) (fuel : Nat) (pointer : Bool)
    (name : Text) : d.base? fuel pointer name = c.base? fuel pointer name := by
  induction fuel generalizing pointer name with
  | zero => rfl
  | succ fuel ih => simp only [Catalog.base?, Catalog.typeSpec?, same.entry?, ih]

theorem Package.Reordered.permuted {p q : Package} (reordered : p.Reordered q) (clear : p.catalog.Clear) :
    p.catalog.Permuted q.catalog := by
  have entries : (q.files.flatMap File.entries).Perm (p.files.flatMap File.entries) :=
    reordered.files.flatMap_right _
  refine ⟨reordered.ref, entries, ?_⟩
  let c : Catalog := ⟨p.ref, p.files.flatMap File.entries, []⟩
  let d : Catalog := ⟨q.ref, q.files.flatMap File.entries, []⟩
  have same : c.SameNames d := ⟨reordered.ref, entry?_eq clear.entries entries⟩
  have method : d.method? = c.method? := by
    funext f declaration
    unfold Catalog.method?
    simp only [same.base?, c, d, entries.length_eq]
  show (q.files.flatMap fun f => f.declarations.filterMap (d.method? f)).Perm
    (p.files.flatMap fun f => f.declarations.filterMap (c.method? f))
  rw [method]
  exact reordered.files.flatMap_right _

/-! ### Worlds -/

/-- Everything in a list is related to something in a list that is related to it throughout. -/
theorem exists_related {α β : Type} {R : α → β → Prop} {xs : List α} {ys : List β}
    (related : List.Forall₂ R xs ys) : ∀ x ∈ xs, ∃ y ∈ ys, R x y := by
  induction related with
  | nil => exact nofun
  | cons first _ ih =>
    refine List.forall_mem_cons.mpr ⟨⟨_, List.mem_cons_self, first⟩, ?_⟩
    intro x member
    obtain ⟨y, member', found⟩ := ih x member
    exact ⟨y, List.mem_cons_of_mem _ member', found⟩

/-- The same packages are in sight, each with the same declarations. -/
structure World.Permuted (v w : World) : Prop where
  packages : List.Forall₂ Catalog.Permuted v.packages w.packages
  clear : ∀ c ∈ v.packages, c.Clear
  extent : w.extent = v.extent

namespace World.Permuted

variable {v w : World}

theorem sameSight (permuted : v.Permuted w) : v.SameSight w := by
  obtain ⟨packages, clear, _⟩ := permuted
  unfold World.SameSight
  generalize v.packages = before, w.packages = after at packages clear
  induction packages with
  | nil => exact .nil
  | cons first _ ih =>
    obtain ⟨clear, others⟩ := List.forall_mem_cons.mp clear
    exact .cons (first.sameNames clear) (ih others)

/-- The same aliases are declared in both worlds. -/
theorem forth (permuted : v.Permuted w) :
    ∀ a ∈ v.declaredAliases, ∃ b ∈ w.declaredAliases, a.Same b := by
  intro a declared
  obtain ⟨c, sighted, own⟩ := List.mem_flatMap.mp declared
  obtain ⟨e, inside, referable, found⟩ := mem_aliases.mp own
  obtain ⟨d, sighted', account⟩ := exists_related permuted.packages c sighted
  rcases related_cases ((account.sameNames (permuted.clear c sighted)).alias? e) with
    ⟨none, _⟩ | ⟨a', b, left, right, same⟩
  · rw [none] at found
    cases found
  · cases left.symm.trans found
    exact ⟨b, List.mem_flatMap.mpr ⟨d, sighted', mem_aliases.mpr
      ⟨e, account.entries.mem_iff.mpr inside, referable, right⟩⟩, same⟩

theorem symm (permuted : v.Permuted w) : w.Permuted v := by
  refine ⟨permuted.packages.flip.imp fun _ _ account => Catalog.Permuted.symm account, ?_,
    permuted.extent.symm⟩
  intro d sighted
  obtain ⟨c, sighted', account⟩ := exists_related permuted.packages.flip d sighted
  exact (permuted.clear c sighted').permuted account

theorem back (permuted : v.Permuted w) :
    ∀ b ∈ w.declaredAliases, ∃ a ∈ v.declaredAliases, a.Same b := by
  intro b declared
  obtain ⟨a, declared', same⟩ := permuted.symm.forth b declared
  exact ⟨a, declared', same.symm⟩

/-- An alias mentions the same in both worlds. -/
theorem mentioned (permuted : v.Permuted w) {a b : Alias} (same : a.Same b) :
    List.Forall₂ Alias.Same (v.mentioned a) (w.mentioned b) := by
  have places : Scope.SameSight ⟨v, a.package, a.file, a.spec.params⟩
      ⟨w, b.package, b.file, b.spec.params⟩ :=
    ⟨permuted.sameSight, same.package, same.file, congrArg TypeSpec.params same.spec⟩
  unfold World.mentioned
  rw [same.spec] at places ⊢
  refine List.rel_filterMap (R := Eq) ?_ (List.forall₂_same.mpr fun _ _ => rfl)
  rintro name _ rfl
  exact places.alias? name

theorem descends (permuted : v.Permuted w) {rank : Text × Text → Nat} (descends : v.Descends rank) :
    w.Descends rank := by
  intro b declared c mention
  obtain ⟨a, declared', same⟩ := permuted.back b declared
  obtain ⟨c', mention', same'⟩ := exists_related (permuted.mentioned same).flip c mention
  rw [same.key, Alias.Same.key same']
  exact descends a declared' c' mention'

end World.Permuted

/-! ### Settling -/

section Reordering

variable {p q : Package} {others : List Package}

theorem Package.Reordered.extent (reordered : p.Reordered q) : q.extent = p.extent := by
  refine reordered.files.foldr_eq' ?_ 0
  intro f _ g _ n
  have sum (ds : List Declaration) (n : Nat) :
      ds.foldr (fun d k => d.extent + k) n = ds.foldr (fun d k => d.extent + k) 0 + n := by
    induction ds with
    | nil => simp
    | cons d ds ih => simp only [List.foldr_cons, ih]; omega
  rw [sum _ (List.foldr _ _ f.declarations), sum _ (List.foldr _ _ g.declarations), sum _ n,
    sum g.declarations n]
  omega

theorem World.permuted_unsettled (compiles : Compiles (p :: others)) (reordered : p.Reordered q) :
    (unsettled (p :: others)).Permuted (unsettled (q :: others)) := by
  refine ⟨?_, ?_, ?_⟩
  · refine .cons (reordered.permuted (compiles.clear p List.mem_cons_self)) ?_
    exact List.forall₂_same.mpr fun c _ => ⟨rfl, .refl _, .refl _⟩
  · intro c sighted
    obtain ⟨package, member, rfl⟩ := List.mem_map.mp sighted
    exact compiles.clear package member
  · show q.extent + _ = p.extent + _
    rw [reordered.extent]

/-- Whether packages compile does not depend on the order of files. -/
theorem Compiles.reordered (compiles : Compiles (p :: others)) (reordered : p.Reordered q) :
    Compiles (q :: others) := by
  have permuted := World.permuted_unsettled compiles reordered
  obtain ⟨paths, clear, rank, descends⟩ := compiles
  obtain ⟨first, rest⟩ := List.forall_mem_cons.mp clear
  refine ⟨?_, List.forall_mem_cons.mpr ⟨first.permuted (reordered.permuted first), rest⟩, rank,
    permuted.descends descends⟩
  rw [List.map_cons, reordered.ref]
  exact paths

/-- Two worlds in which everything means the same. -/
structure World.Alike (v w : World) : Prop extends v.Permuted w where
  aliases : ∀ key, w.aliases.lookup key = v.aliases.lookup key

end Reordering

end TypeAtlas.Source
