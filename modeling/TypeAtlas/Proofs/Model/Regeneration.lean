import Mathlib.Data.List.Basic
import TypeAtlas.Proofs.Model.Reading
import TypeAtlas.Proofs.Source.Position

/-!
Describing a package again after its description was added to it. A generated file that stands among the
files of a package is left out three times over: its comments are not read, its names are not taken, and
what it declares is neither a case nor a constant of an enum.

The last goes by the files that names are said to be in, and a comment can say so of a name in any file. So
it is a condition that the names in the added files, and no others, are said to be where those files say
that they are themselves. Files without such comments meet it when their names differ.
-/

namespace TypeAtlas

/-! ### Identity with a declared type -/

/-- Whether a type is a certain declared one is a matter of names: no interface is compared. -/
theorem SourceType.identicalWith_defined (i j : SourceType → SourceType → Bool)
    (package : Option Source.PackageRef) (name : Text) : (t : SourceType) →
    t.identicalWith i (.defined package name []) = t.identicalWith j (.defined package name [])
  | .alias _ _ _ t => by
    rw [identicalWith, identicalWith, identicalWith_defined i j package name t]
  | .defined _ _ args => by
    cases args with
    | nil => simp [identicalWith, unalias, identicalAll]
    | cons => simp [identicalWith, unalias, identicalAll]
  | .basic _ | .any | .interface .. | .parameter _ | .pointer _ | .slice _ | .array .. | .map ..
  | .channel .. | .function .. | .struct .. => by simp [identicalWith, unalias]

theorem Source.World.identical_defined (v w : World) (t : SourceType) (package : Option PackageRef)
    (name : Text) :
    v.identical t (.defined package name []) = w.identical t (.defined package name []) := by
  have once (w : World) : ∃ i, w.identical t (.defined package name []) =
      t.identicalWith i (.defined package name []) := by
    unfold identical
    cases deep : w.depth with
    | zero => simp [depth] at deep
    | succ fuel => exact ⟨_, by rw [identicalFrom]⟩
  obtain ⟨i, left⟩ := once v
  obtain ⟨j, right⟩ := once w
  rw [left, right, t.identicalWith_defined i j]

namespace Source

/-! ### Added files -/

/-- `after` holds the files of `before` and those that were added, both in their order. -/
inductive Interleaves : List File → List File → List File → Prop where
  | nil : Interleaves [] [] []
  | keep {before added after : List File} (f : File) :
      Interleaves before added after → Interleaves (f :: before) added (f :: after)
  | add {before added after : List File} (f : File) :
      Interleaves before added after → Interleaves before (f :: added) (f :: after)

/-- `after` is the package `before` with the generated files of `added` among its own. -/
structure Package.Regenerated (before added after : Package) : Prop where
  ref : added.ref = before.ref ∧ after.ref = before.ref
  files : Interleaves before.files added.files after.files
  generated : ∀ f ∈ added.files, f.isGenerated = true

/-- Going by the files that names are said to be in, the added ones are set apart from the others. -/
structure Package.Apart (before added : Package) : Prop where
  hidden : ∀ x ∈ added.placed, x.1.isNamed = true →
    x.2.file ∈ before.generatedNames ∨ x.2.file ∈ added.generatedNames
  kept : ∀ x ∈ before.placed, x.1.isNamed = true →
    x.2.file ∈ added.generatedNames → x.2.file ∈ before.generatedNames

namespace Interleaves

variable {before added after : List File}

theorem mem_iff (mixed : Interleaves before added after) {f : File} :
    f ∈ after ↔ f ∈ before ∨ f ∈ added := by
  induction mixed with
  | nil => simp
  | keep g rest ih => rw [List.mem_cons, List.mem_cons, ih, or_assoc]
  | add g rest ih => rw [List.mem_cons, List.mem_cons, ih, or_left_comm]

theorem filter_own (mixed : Interleaves before added after)
    (generated : ∀ f ∈ added, f.isGenerated = true) :
    (after.filter fun f => !f.isGenerated) = before.filter fun f => !f.isGenerated := by
  induction mixed with
  | nil => rfl
  | keep f rest ih => rw [List.filter_cons, List.filter_cons, ih generated]
  | add f rest ih =>
    rw [List.filter_cons_of_neg (by simp [generated f List.mem_cons_self])]
    exact ih fun f member => generated f (List.mem_cons_of_mem _ member)

/-- What the added files contribute nothing to is the same without them. -/
theorem flatMap_eq {β : Type} {g h : File → List β} (mixed : Interleaves before added after)
    (same : ∀ f ∈ before, g f = h f) (none : ∀ f ∈ added, g f = []) :
    after.flatMap g = before.flatMap h := by
  induction mixed with
  | nil => rfl
  | keep f rest ih =>
    rw [List.flatMap_cons, List.flatMap_cons, same f List.mem_cons_self,
      ih (fun f member => same f (List.mem_cons_of_mem _ member)) none]
  | add f rest ih =>
    rw [List.flatMap_cons, none f List.mem_cons_self, List.nil_append,
      ih same fun f member => none f (List.mem_cons_of_mem _ member)]

end Interleaves

namespace Package

variable {before added after : Package}

theorem Regenerated.ownEntries (again : Regenerated before added after) :
    after.ownEntries = before.ownEntries := by
  rw [Package.ownEntries, Package.ownEntries, again.files.filter_own again.generated]

theorem Regenerated.mem_generatedNames (again : Regenerated before added after) {file : Text} :
    file ∈ after.generatedNames ↔ file ∈ before.generatedNames ∨ file ∈ added.generatedNames := by
  simp only [Package.generatedNames, List.mem_map, List.mem_filter, again.files.mem_iff]
  constructor
  · rintro ⟨f, ⟨old | new, generated⟩, rfl⟩
    · exact .inl ⟨f, ⟨old, generated⟩, rfl⟩
    · exact .inr ⟨f, ⟨new, generated⟩, rfl⟩
  · rintro (⟨f, ⟨old, generated⟩, rfl⟩ | ⟨f, ⟨new, generated⟩, rfl⟩)
    · exact ⟨f, ⟨.inl old, generated⟩, rfl⟩
    · exact ⟨f, ⟨.inr new, generated⟩, rfl⟩

/-- The names in the order of their positions are the same: those of the added files are all left out, and
no other one is. -/
theorem Regenerated.scopeEntries (again : Regenerated before added after)
    (apart : Apart before added) : after.scopeEntries = before.scopeEntries := by
  have shown : (after.placed.filter fun x =>
        x.1.isNamed && !after.generatedNames.contains x.2.file) =
      before.placed.filter fun x => x.1.isNamed && !before.generatedNames.contains x.2.file := by
    rw [placed, placed, List.filter_flatMap, List.filter_flatMap, again.ref.2]
    apply again.files.flatMap_eq
    · intro f member
      apply List.filter_congr
      intro x placed
      have kept := apart.kept x (List.mem_flatMap.mpr ⟨f, member, placed⟩)
      rw [Bool.eq_iff_iff]
      simp only [Bool.and_eq_true, Bool.not_eq_true', ← Bool.not_eq_true, List.contains_iff_mem,
        again.mem_generatedNames]
      constructor
      · rintro ⟨named, outside⟩
        exact ⟨named, fun generated => outside (.inl generated)⟩
      · rintro ⟨named, outside⟩
        exact ⟨named, fun generated => outside (generated.elim id (kept named))⟩
    · intro f member
      apply List.filter_eq_nil_iff.mpr
      intro x placed
      rw [← again.ref.1] at placed
      have hidden := apart.hidden x (List.mem_flatMap.mpr ⟨f, member, placed⟩)
      simp only [Bool.and_eq_true, Bool.not_eq_true', ← Bool.not_eq_true, List.contains_iff_mem,
        again.mem_generatedNames]
      rintro ⟨named, outside⟩
      exact outside (hidden named)
  exact congrArg (fun placed => (placed.mergeSort placedLe).map (·.1)) shown

end Package

end Source

namespace Model

open Source

/-- An object has the same type in both readings. For a declared type that is the type behind it and, by
its methods, which of the interfaces among `es` it implements. -/
def SameType (es : List Entry) (r s : Reading) (e : Entry) : Prop :=
  match e.object with
  | .type _ =>
    s.world.underlying (r.typeOf e) = r.world.underlying (r.typeOf e) ∧
      ∀ i ∈ es, r.world.isInterface (r.typeOf i) = true →
        ∀ t ∈ [r.typeOf e, .pointer (r.typeOf e)],
          s.world.implements t (r.world.underlying (r.typeOf i)) =
            r.world.implements t (r.world.underlying (r.typeOf i))
  | .constant d | .variable d => s.valueOf e.file d = r.valueOf e.file d
  | .function params signature =>
    s.resolve e.file signature params = r.resolve e.file signature params

/-- Readings of the same names, which are among `es` and have the same types. -/
structure SameReading (es : List Entry) (r s : Reading) : Prop where
  ref : s.package.ref = r.package.ref
  entries : s.entries = r.entries
  known : ∀ e ∈ r.entries, e ∈ es
  types : ∀ e ∈ es, SameType es r s e

namespace SameReading

variable {es : List Entry} {r s : Reading} {e : Entry} {a : Annotation} {annotations : List Annotation}

theorem path (same : SameReading es r s) : s.path = r.path := by
  rw [Reading.path, Reading.path, same.ref]

theorem typeOf (same : SameReading es r s) (e : Entry) : s.typeOf e = r.typeOf e := by
  rw [Reading.typeOf, Reading.typeOf, same.ref]

theorem fields (same : SameReading es r s) : s.fields = r.fields := by
  funext owner components
  rw [Reading.fields, Reading.fields, same.path]

theorem unsupported (same : SameReading es r s) (member : e ∈ es) (detail : Text) :
    s.unsupported e detail = r.unsupported e detail := by
  have kept := same.types e member
  have text : s.objectText e = r.objectText e := by
    unfold Reading.objectText
    cases object : e.object <;> simp only [SameType, object] at kept <;> simp only [kept, same.path]
  rw [Reading.unsupported, Reading.unsupported, same.path, text]

theorem struct (same : SameReading es r s) (member : a.entry ∈ es) : s.struct a = r.struct a := by
  have kept := same.types a.entry member
  simp only [Reading.struct, same.typeOf, same.unsupported member, same.fields]
  cases object : a.entry.object with
  | type spec =>
    simp only [SameType, object] at kept
    simp only [kept.1]
  | _ => rfl

/-- A name is a case of the sum `i` in both readings or in neither. -/
theorem case? (same : SameReading es r s) {i : Entry} (sum : i ∈ es)
    (interface : r.world.isInterface (r.typeOf i) = true) (member : e ∈ es) (name : Text) :
    s.case? annotations name (r.world.underlying (r.typeOf i)) e =
      r.case? annotations name (r.world.underlying (r.typeOf i)) e := by
  have kept := same.types e member
  unfold Reading.case?
  cases object : e.object with
  | type spec =>
    simp only [SameType, object] at kept
    obtain ⟨underlying, implements⟩ := kept
    have direct := implements i sum interface _ List.mem_cons_self
    have pointed := implements i sum interface _ (List.mem_cons_of_mem _ List.mem_cons_self)
    have concrete : s.world.isInterface (r.typeOf e) = r.world.isInterface (r.typeOf e) := by
      rw [World.isInterface, World.isInterface, underlying]
    simp only [same.typeOf, same.fields, underlying, direct, pointed, concrete]
  | _ => rfl

theorem cases (same : SameReading es r s) {i : Entry} (sum : i ∈ es)
    (interface : r.world.isInterface (r.typeOf i) = true) (annotations : List Annotation) (name : Text) :
    s.cases annotations name (r.world.underlying (r.typeOf i)) =
      r.cases annotations name (r.world.underlying (r.typeOf i)) := by
  rw [Reading.cases, Reading.cases, same.entries,
    mapM_congr fun e member => same.case? sum interface (same.known e member) name]

theorem constant? (same : SameReading es r s) (i : Entry) (member : e ∈ es) :
    s.constant? annotations (r.typeOf i) e = r.constant? annotations (r.typeOf i) e := by
  have kept := same.types e member
  unfold Reading.constant?
  cases object : e.object with
  | constant d =>
    simp only [SameType, object] at kept
    have identical (t : SourceType) :
        s.world.identical t (r.typeOf i) = r.world.identical t (r.typeOf i) :=
      World.identical_defined s.world r.world t (some r.package.ref) i.name
    simp only [kept, identical, same.unsupported member]
  | _ => rfl

theorem constants (same : SameReading es r s) (i : Entry) :
    s.constants annotations (r.typeOf i) = r.constants annotations (r.typeOf i) := by
  rw [Reading.constants, Reading.constants, same.entries,
    mapM_congr fun e member => same.constant? i (same.known e member)]

theorem enum (same : SameReading es r s) (member : a.entry ∈ es) :
    s.enum annotations a = r.enum annotations a := by
  have kept := same.types a.entry member
  have interface := same.cases member
  simp only [Reading.enum, same.typeOf, same.unsupported member, same.constants]
  cases object : a.entry.object with
  | type spec =>
    simp only [SameType, object] at kept
    simp only [kept.1]
    cases found : r.world.underlying (r.typeOf a.entry) with
    | any | interface =>
      simp only [World.isInterface, found, forall_const] at interface
      simp only [interface]
    | _ => rfl
  | _ => rfl

theorem function (same : SameReading es r s) (member : a.entry ∈ es) : s.function a = r.function a := by
  have kept := same.types a.entry member
  simp only [Reading.function, same.unsupported member]
  cases object : a.entry.object with
  | function params signature =>
    simp only [SameType, object] at kept
    cases params with
    | nil => simp only [kept]
    | cons => rfl
  | _ => rfl

theorem declared (same : SameReading es r s) (member : a.entry ∈ es) :
    s.declared annotations a = r.declared annotations a := by
  rw [Reading.declared, Reading.declared, same.struct member, same.enum member, same.function member]

end SameReading

/-! ### The model -/

end Model

end TypeAtlas
