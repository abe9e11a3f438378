import TypeAtlas.Proofs.Emit.Identifiers
import TypeAtlas.Proofs.Runes

/-!
Imports against declarations. The names under which a generated file imports packages are chosen without
a look at the identifiers it declares or at those of the package it joins. What keeps them apart is their
form: every declared identifier has an upper-case letter, and the names of packages seldom have one. So
a package can collide with a declaration only if its own name has an upper-case letter, which none of the
packages has that are always imported; but nothing keeps any of them from a name of the package that the
file joins.
-/

namespace TypeAtlas.Emit

open Source Model

/-! ### Upper-case letters in names -/

def hasCapital (name : Text) : Bool :=
  name.codes.any Text.isUpper

/-- The text starts with a capital of ASCII. -/
def startsCapital : Text → Bool
  | b :: _ => decide (0x41 ≤ b.toNat) && decide (b.toNat ≤ 0x5A)
  | [] => false

theorem hasCapital_append (t : Text) {suffix : Text} (capital : startsCapital suffix = true) :
    hasCapital (t ++ suffix) = true := by
  cases suffix with
  | nil => cases capital
  | cons b rest =>
    have range : 0x41 ≤ b.toNat ∧ b.toNat ≤ 0x5A := by simpa [startsCapital] using capital
    have ascii : b.toNat < 0x80 := by omega
    have upper : Text.isUpper b.toNat = true := by simp [Text.isUpper, ascii, range]
    rw [hasCapital, Text.codes_append_ascii t ascii, Text.codes_cons_ascii ascii]
    simp [upper]

/-- A name that starts with an exported one has the upper-case letter of that. -/
theorem hasCapital_of_exported {name : Text} (exported : isExported name = true) (more : Text) :
    hasCapital (name ++ more) = true := by
  cases name with
  | nil => cases exported
  | cons b rest =>
    have upper : Text.isUpper (Text.frontRune b rest).code = true := exported
    have first : (Text.frontRune b (rest ++ more)).code = (Text.frontRune b rest).code := by
      rw [Text.frontRune] at upper
      split at upper
      · rename_i code width read
        have longer := Text.front?_append read more
        rw [List.cons_append] at longer
        simp [Text.frontRune, read, longer]
      · have unread : Text.isUpper Text.replacement = false := by decide +kernel
        rw [unread] at upper
        cases upper
    simp [hasCapital, Text.codes, Text.runes, Text.runesFrom, first, upper]

/-- A number behind a name adds no upper-case letter. -/
theorem hasCapital_numbered (name : Text) (i : Nat) :
    hasCapital (name ++ Text.ofNat i) = hasCapital name := by
  have digits : ∀ b ∈ Text.ofNat i, b.toNat < 0x80 ∧ Text.isUpper b.toNat = false := by
    intro b member
    have range := Text.mem_ofNat member
    have ascii : b.toNat < 0x80 := by omega
    refine ⟨ascii, ?_⟩
    simp only [Text.isUpper, ascii, if_true, Bool.and_eq_false_iff, decide_eq_false_iff_not]
    omega
  cases spelled : Text.ofNat i with
  | nil => exact absurd spelled (Text.ofNat_ne_nil i)
  | cons b rest =>
    rw [spelled] at digits
    have first := digits b List.mem_cons_self
    have read := Text.codes_of_ascii fun b member => (digits b member).1
    rw [hasCapital, Text.codes_append_ascii name first.1, read, List.any_append]
    have none : ((b :: rest).map UInt8.toNat).any Text.isUpper = false := by
      rw [List.any_map, List.any_eq_false]
      intro b member
      simp [(digits b member).2]
    rw [none, Bool.or_false, hasCapital]

/-- Lowering stops in front of the last word, unless that is all there is. -/
theorem lowerRun_info (first : Bool) (codes : List Nat) (before : first = true → codes ≠ []) :
    ∃ front, lowerRun first (codes ++ Text.codes "Info") = front ++ Text.codes "Info" := by
  induction codes generalizing first with
  | nil =>
    cases first with
    | true => exact absurd rfl (before rfl)
    | false => exact ⟨[], by decide⟩
  | cons c rest ih =>
    rw [List.cons_append, lowerRun]
    split
    · exact ⟨c :: rest, rfl⟩
    · obtain ⟨front, lowered⟩ := ih false nofun
      exact ⟨Text.toLower c :: front, by rw [lowered, List.cons_append]⟩

theorem codes_ne_nil {t : Text} (nonempty : t ≠ []) : t.codes ≠ [] := by
  cases t with
  | nil => exact absurd rfl nonempty
  | cons b rest => simp [Text.codes, Text.runes, Text.runesFrom]

theorem hasCapital_lowerFirst_info {base : Text} (nonempty : base ≠ []) :
    hasCapital (lowerFirst (base ++ "Info")) = true := by
  have read : (base ++ "Info" : Text).codes = base.codes ++ Text.codes "Info" :=
    Text.codes_append_ascii base (by decide) _
  obtain ⟨front, lowered⟩ := lowerRun_info true base.codes fun _ => codes_ne_nil nonempty
  have written : Text.ofCodes (Text.codes "Info") = "Info" := by decide
  rw [lowerFirst, read, lowered, Text.ofCodes, List.flatMap_append, ← Text.ofCodes, ← Text.ofCodes,
    written]
  exact hasCapital_append _ (by decide)

/-- The descriptor of what starts with a name. In another package that name is exported, and so is the
descriptor. -/
theorem hasCapital_descriptorName {v : Viewpoint} {name : Text} (exported : Bool) (nonempty : name ≠ [])
    (shown : v.foreign = true → isExported name = true ∧ exported = true) (more : Text) :
    hasCapital (v.descriptorName (name ++ more) exported) = true := by
  rw [Viewpoint.descriptorName, descriptorName]
  cases foreign : v.foreign with
  | true =>
    obtain ⟨open_, rfl⟩ := shown foreign
    exact hasCapital_of_exported open_ more
  | false =>
    cases exported with
    | true => exact hasCapital_append _ (by decide)
    | false =>
      apply hasCapital_lowerFirst_info
      simp [nonempty]

/-! ### Declared identifiers -/

def AllCapital (names : List Text) : Prop :=
  ∀ name ∈ names, hasCapital name = true

@[simp] theorem allCapital_nil : AllCapital [] := nofun

@[simp] theorem allCapital_cons (name : Text) (names : List Text) :
    AllCapital (name :: names) ↔ hasCapital name = true ∧ AllCapital names :=
  List.forall_mem_cons

@[simp] theorem allCapital_append (first second : List Text) :
    AllCapital (first ++ second) ↔ AllCapital first ∧ AllCapital second :=
  List.forall_mem_append

theorem allCapital_flatMap {α : Type} {xs : List α} {f : α → List Item} :
    AllCapital (claimedNames (xs.flatMap f)) ↔ ∀ x ∈ xs, AllCapital (claimedNames (f x)) :=
  forall_claimedNames_flatMap

theorem allCapital_memberItems (d : Text) (kind : MemberKind) (members : List Text)
    (capital : [kind.count, kind.array, kind.list].all startsCapital = true) :
    AllCapital (claimedNames (memberItems d kind members)) := by
  cases nonempty : members.isEmpty with
  | true => simp [memberItems, nonempty]
  | false =>
    simp only [List.all_cons, List.all_nil, Bool.and_true, Bool.and_eq_true] at capital
    obtain ⟨count, array, list⟩ := capital
    have indices : AllCapital (members.map indexName) := by
      intro name member
      obtain ⟨m, _, rfl⟩ := List.mem_map.mp member
      exact hasCapital_append _ (by decide)
    rw [claimedNames_memberItems d kind nonempty, allCapital_append]
    refine ⟨?_, indices⟩
    simp only [allCapital_cons, allCapital_nil, and_true]
    exact ⟨hasCapital_append _ count, hasCapital_append _ array, hasCapital_append _ list⟩

theorem allCapital_attributeItems (d : Text) (attrs : List Attribute) :
    AllCapital (claimedNames (attributeItems d attrs)) := by
  unfold attributeItems
  split
  · exact allCapital_nil
  · simp only [claimedNames_cons, claimedNames_nil, List.append_nil, Item.claims, allCapital_cons,
      allCapital_nil, and_true]
    exact hasCapital_append _ (by decide)

/-- The descriptors of fields; the name of what they belong to starts with `name`. -/
theorem allCapital_fields (v : Viewpoint) {name : Text} (exported : Bool) (nonempty : name ≠ [])
    (shown : v.foreign = true → isExported name = true ∧ exported = true) (more : Text)
    (fields : List Field) (d ownerName : Text) (owner : Code) :
    AllCapital (claimedNames (memberItems d .fields
        ((v.namedFields (name ++ more) exported fields).map (·.descriptor)))) ∧
      AllCapital (claimedNames
        ((v.namedFields (name ++ more) exported fields).flatMap (fieldItems v ownerName owner))) := by
  refine ⟨allCapital_memberItems d .fields _ (by decide), ?_⟩
  rw [allCapital_flatMap]
  intro f member
  obtain ⟨field, kept, rfl⟩ := List.mem_map.mp member
  rw [claimedNames_fieldItems, allCapital_cons]
  refine ⟨?_, allCapital_attributeItems _ _⟩
  simp only [memberBase, List.append_assoc]
  apply hasCapital_descriptorName _ nonempty
  intro foreign
  obtain ⟨open_, rfl⟩ := shown foreign
  rw [v.fields_of_foreign foreign] at kept
  exact ⟨open_, (mem_shownFields.mp kept).2.1⟩

variable {v : Viewpoint}

theorem variantBase_eq_append (enum variant : Text) : ∃ more, variantBase enum variant = enum ++ more := by
  unfold variantBase
  split
  · rename_i repeats
    obtain ⟨more, same⟩ := List.isPrefixOf_iff_prefix.mp (Bool.and_eq_true_iff.mp repeats).1
    exact ⟨more, same.symm⟩
  · exact ⟨_, rfl⟩

theorem paramBase_eq_append (function param : Text) (position : Int) :
    ∃ more, paramBase function param position = function ++ more := by
  unfold paramBase
  split
  · exact ⟨_, List.append_assoc ..⟩
  · exact ⟨_, rfl⟩

theorem hasCapital_variantName {enum variant : Text} (nonempty : enum ≠ [])
    (shown : v.foreign = true → isExported enum = true ∧ isExported variant = true) :
    hasCapital (v.variantName enum variant) = true := by
  obtain ⟨more, base⟩ := variantBase_eq_append enum variant
  rw [Viewpoint.variantName, base]
  apply hasCapital_descriptorName _ nonempty
  intro foreign
  obtain ⟨first, second⟩ := shown foreign
  exact ⟨first, by rw [first, second]; rfl⟩

/-- The descriptor of a declaration. -/
theorem hasCapital_whole {name : Text} (nonempty : name ≠ [])
    (exported : v.foreign = true → isExported name = true) :
    hasCapital (v.descriptorName name (isExported name)) = true := by
  have capital := hasCapital_descriptorName (isExported name) nonempty
    (fun foreign => ⟨exported foreign, exported foreign⟩) []
  rwa [List.append_nil] at capital

theorem allCapital_structItems {s : Struct} (nonempty : s.name ≠ [])
    (exported : v.foreign = true → isExported s.name = true) :
    AllCapital (claimedNames (structItems v s)) := by
  have whole : hasCapital (structDescriptor v s) = true := hasCapital_whole nonempty exported
  obtain ⟨list, fields⟩ := allCapital_fields v (isExported s.name) nonempty
    (fun foreign => ⟨exported foreign, exported foreign⟩) [] s.fields (structDescriptor v s) s.name
    [.source s.name]
  rw [List.append_nil] at list fields
  have table := allCapital_attributeItems (structDescriptor v s) s.attrs
  simp [structItems, whole, list, fields, table]

theorem allCapital_enumItems {d name : Text} {attrs : List Attribute} {integer : List Item}
    {variants : List Text} {cases : List Code} (whole : hasCapital d = true)
    (first : AllCapital (claimedNames integer)) :
    AllCapital (claimedNames (enumItems v d name attrs integer variants cases)) := by
  have list := allCapital_memberItems d .variants variants (by decide)
  have table := allCapital_attributeItems d attrs
  simp [whole, list, table, first]

theorem allCapital_caseItems {s : Sum} {c : Case} (nonempty : s.name ≠ [])
    (shown : v.foreign = true → isExported s.name = true ∧ isExported c.name = true) :
    AllCapital (claimedNames (caseItems v s c)) := by
  have variant := hasCapital_variantName nonempty shown
  obtain ⟨more, base⟩ := variantBase_eq_append s.name c.name
  obtain ⟨list, fields⟩ := allCapital_fields v (isExported s.name && isExported c.name) nonempty
    (fun foreign => ⟨(shown foreign).1, by simp [shown foreign]⟩) more c.fields
    (v.variantName s.name c.name) c.name [.type c.type]
  rw [← base] at list fields
  have table := allCapital_attributeItems (v.variantName s.name c.name) c.attrs
  simp [Viewpoint.caseFields, variant, list, fields, table]

theorem allCapital_sumItems {s : Sum} (nonempty : s.name ≠ [])
    (exported : v.foreign = true → isExported s.name = true) :
    AllCapital (claimedNames (sumItems v s)) := by
  rw [sumItems, claimedNames_append, allCapital_append, allCapital_flatMap]
  constructor
  · exact allCapital_enumItems (hasCapital_whole nonempty exported) allCapital_nil
  · intro c member
    apply allCapital_caseItems nonempty
    intro foreign
    rw [v.cases_of_foreign foreign] at member
    exact ⟨exported foreign, (mem_shownCases.mp member).2.1⟩

theorem allCapital_enumerationItems {e : Enumeration} (nonempty : e.name ≠ [])
    (exported : v.foreign = true → isExported e.name = true) :
    AllCapital (claimedNames (enumerationItems v e)) := by
  rw [enumerationItems, claimedNames_append, allCapital_append, allCapital_flatMap]
  constructor
  · exact allCapital_enumItems (hasCapital_whole nonempty exported) (by simp)
  · intro c member
    rw [claimedNames_constantItems, allCapital_cons]
    refine ⟨?_, allCapital_attributeItems _ _⟩
    apply hasCapital_variantName nonempty
    intro foreign
    rw [v.constants_of_foreign foreign] at member
    exact ⟨exported foreign, (mem_of_shownConstants member).2⟩

theorem allCapital_functionItems {f : Function} (nonempty : f.name ≠ [])
    (exported : v.foreign = true → isExported f.name = true) :
    AllCapital (claimedNames (functionItems v f)) := by
  have whole : hasCapital (functionDescriptor v f) = true := hasCapital_whole nonempty exported
  have list (names : List Text) :=
    allCapital_memberItems (functionDescriptor v f) .parameters names (by decide)
  have table := allCapital_attributeItems (functionDescriptor v f) f.attrs
  have results : AllCapital (claimedNames (resultItems v f (functionDescriptor v f)).1) ∧
      AllCapital (claimedNames (resultItems v f (functionDescriptor v f)).2) := by
    have word : startsCapital "Results" = true := by decide
    have tuple : hasCapital (resultsName (functionDescriptor v f)) = true := hasCapital_append _ word
    unfold resultItems
    split
    · simp
    · simp
    · simp [tuple]
  have params : ∀ p i, hasCapital (v.paramName f p i) = true := by
    intro p i
    obtain ⟨more, base⟩ := paramBase_eq_append f.name p.name i
    rw [Viewpoint.paramName, base]
    exact hasCapital_descriptorName _ nonempty (fun foreign => ⟨exported foreign, exported foreign⟩) more
  simp [functionItems, whole, list, table, results, allCapital_flatMap, params]

/-- Every identifier that is declared for a declaration has an upper-case letter. -/
theorem allCapital_items {d : Declared} (nonempty : d.name ≠ []) (seen : v.sees d.name = true) :
    AllCapital (claimedNames (items v d)) := by
  have exported : v.foreign = true → isExported d.name = true := by
    intro foreign
    rwa [v.sees_of_foreign foreign] at seen
  cases d with
  | struct s => exact allCapital_structItems nonempty exported
  | sum s => exact allCapital_sumItems nonempty exported
  | enumeration e => exact allCapital_enumerationItems nonempty exported
  | function f =>
    rw [items]
    split
    · exact allCapital_functionItems nonempty exported
    · exact allCapital_nil

theorem allCapital_declares {m : Model} {o : Options} {out : Output}
    (named : ∀ d ∈ m.declarations, d.name ≠ []) (done : generate m o = .ok out) :
    AllCapital out.declares := by
  suffices claimed : AllCapital (claimedNames out.items) by
    intro name declared
    exact claimed name (out.claims_perm_declares.mem_iff.mpr declared)
  obtain ⟨declarations, selected, planned, _⟩ := generate_eq_ok done
  have chosen := (select_eq_ok selected).2
  have init : claimedNames (initItems (viewpoint m o) declarations) = [] := by
    simp only [initItems]
    split <;> rfl
  have each : AllCapital (claimedNames (declarations.flatMap (items (viewpoint m o)))) := by
    rw [allCapital_flatMap]
    intro d member
    rw [chosen, List.mem_filter, Bool.and_eq_true] at member
    exact allCapital_items (named d member.1) member.2.2
  rw [planned, plan, claimedNames_append, allCapital_append]
  refine ⟨each, ?_⟩
  split
  · rw [init]
    exact allCapital_nil
  · exact allCapital_nil

/-! ### Where imports come from -/

/-- The packages that are imported whatever is described. -/
def fixedPackages : List PackageRef :=
  [library, reflection, Spelling.standardPackage "unsafe", registry]

/-- A package is imported under its name, or under that with a number from 2 on. -/
def IsNumbered (name given : Text) : Prop :=
  given = name ∨ ∃ i, 2 ≤ i ∧ given = name ++ Text.ofNat i

/-- Every import is of an allowed package. -/
def ImportSet.Comes (allowed : PackageRef → Prop) (s : ImportSet) : Prop :=
  ∀ e ∈ s.entries, ∃ p, allowed p ∧ p.path = e.1 ∧ IsNumbered p.name e.2

theorem ImportSet.numbered_eq (s : ImportSet) (name : Text) (tries i : Nat) :
    ∃ k, i ≤ k ∧ s.numbered name tries i = name ++ Text.ofNat k := by
  induction tries generalizing i with
  | zero => exact ⟨i, Nat.le_refl i, rfl⟩
  | succ tries ih =>
    simp only [numbered]
    split
    · obtain ⟨k, later, found⟩ := ih (i + 1)
      exact ⟨k, Nat.le_of_succ_le later, found⟩
    · exact ⟨i, Nat.le_refl i, rfl⟩

theorem ImportSet.isNumbered_freeName (s : ImportSet) (name : Text) :
    IsNumbered name (s.freeName name) := by
  unfold freeName
  split
  · obtain ⟨k, later, found⟩ := s.numbered_eq name s.entries.length 2
    exact .inr ⟨k, later, found⟩
  · exact .inl rfl

theorem ImportSet.Comes.use {allowed : PackageRef → Prop} {s : ImportSet} (comes : s.Comes allowed)
    {p : PackageRef} (permitted : allowed p) : (s.use p).Comes allowed := by
  unfold ImportSet.use
  split
  · exact comes
  · intro e member
    rcases List.mem_append.mp member with before | last
    · exact comes e before
    · rw [List.mem_singleton.mp last]
      exact ⟨p, permitted, rfl, s.isNumbered_freeName p.name⟩

/-- The packages that a piece of code may need, seen from a viewpoint. -/
def Piece.packages (v : Viewpoint) : Piece → List PackageRef
  | .text _ | .generated _ => []
  | .source _ => if v.foreign then [v.package] else []
  | .imported p _ => [p]
  | .type t => (t.packages.filter fun p => v.foreign || p != v.package) ++ [Spelling.standardPackage "unsafe"]

/-- A spelling from a viewpoint whose imports are all of allowed packages. -/
structure Spelling.Comes (v : Viewpoint) (allowed : PackageRef → Prop) (s : Spelling) : Prop where
  package : s.package = v.package
  foreign : s.foreign = v.foreign
  imports : s.imports.Comes allowed

namespace Spelling.Comes

variable {allowed : PackageRef → Prop} {s : Spelling}

theorem use (comes : s.Comes v allowed) {p : PackageRef} (permitted : allowed p) :
    (s.use p).Comes v allowed :=
  ⟨comes.package, comes.foreign, comes.imports.use permitted⟩

theorem useQualified (comes : s.Comes v allowed) {p : PackageRef}
    (permitted : (v.foreign || p != v.package) = true → allowed p) : (s.useQualified p).Comes v allowed := by
  unfold Spelling.useQualified
  split
  · exact comes
  · rename_i away
    apply comes.use
    apply permitted
    cases foreign : v.foreign with
    | true => rfl
    | false => simpa [isHome, comes.package, comes.foreign, foreign] using away

theorem useType (comes : s.Comes v allowed) {t : SourceType}
    (permitted : ∀ p ∈ Piece.packages v (.type t), allowed p) : (s.useType t).Comes v allowed := by
  obtain ⟨named, standard⟩ := List.forall_mem_append.mp permitted
  have each (packages : List PackageRef) (inside : packages ⊆ t.packages) (s : Spelling)
      (comes : s.Comes v allowed) : (packages.foldl Spelling.useQualified s).Comes v allowed := by
    induction packages generalizing s with
    | nil => exact comes
    | cons p rest ih =>
      obtain ⟨first, others⟩ := List.cons_subset.mp inside
      apply ih others
      apply comes.useQualified
      intro away
      exact named p (List.mem_filter.mpr ⟨first, away⟩)
  have qualified := each t.packages (List.Subset.refl _) s comes
  simp only [Spelling.useType]
  split
  · exact qualified.use (standard _ List.mem_cons_self)
  · exact qualified

theorem usePiece (comes : s.Comes v allowed) {piece : Piece}
    (permitted : ∀ p ∈ piece.packages v, allowed p) : (s.usePiece piece).Comes v allowed := by
  cases piece with
  | text t => exact comes
  | generated name => exact comes
  | source name =>
    rw [Spelling.usePiece, comes.package]
    apply comes.useQualified
    intro away
    apply permitted
    have foreign : v.foreign = true := by simpa using away
    simp [Piece.packages, foreign]
  | imported p name => exact comes.use (permitted p List.mem_cons_self)
  | type t => exact comes.useType permitted

theorem foldl_usePiece (comes : s.Comes v allowed) {code : Code}
    (permitted : ∀ piece ∈ code, ∀ p ∈ piece.packages v, allowed p) :
    (code.foldl Spelling.usePiece s).Comes v allowed := by
  induction code generalizing s with
  | nil => exact comes
  | cons piece rest ih =>
    obtain ⟨first, others⟩ := List.forall_mem_cons.mp permitted
    exact ih (comes.usePiece first) others

end Spelling.Comes

/-- The imports of a file are of packages that its items mention. -/
theorem comes_spellingFor (v : Viewpoint) (items : List Item) :
    (spellingFor v items).imports.Comes fun p =>
      ∃ item ∈ items, ∃ piece ∈ item.mentions, p ∈ piece.packages v := by
  have start : ({} : ImportSet).Comes fun p =>
      ∃ item ∈ items, ∃ piece ∈ item.mentions, p ∈ piece.packages v := by
    intro e member
    cases member
  refine (Spelling.Comes.foldl_usePiece ⟨rfl, rfl, start⟩ ?_).imports
  intro piece member p needed
  obtain ⟨item, inside, mentioned⟩ := List.mem_flatMap.mp member
  exact ⟨item, inside, piece, mentioned, needed⟩

/-! ### Packages that are always imported -/

/-- A piece of code asks for no package by itself but the fixed ones. -/
def Piece.isFixed : Piece → Bool
  | .imported p _ => fixedPackages.contains p
  | .text _ | .generated _ | .source _ | .type _ => true

def Item.isFixed (item : Item) : Bool :=
  item.mentions.all Piece.isFixed

@[simp] theorem isFixed_text (t : Text) : (Piece.text t).isFixed = true := rfl

@[simp] theorem isFixed_generated (name : Text) : (Piece.generated name).isFixed = true := rfl

@[simp] theorem isFixed_source (name : Text) : (Piece.source name).isFixed = true := rfl

@[simp] theorem isFixed_type (t : SourceType) : (Piece.type t).isFixed = true := rfl

@[simp] theorem isFixed_library (name : Text) : (Piece.imported library name).isFixed = true := by
  simp [Piece.isFixed, fixedPackages]

@[simp] theorem isFixed_reflection (name : Text) : (Piece.imported reflection name).isFixed = true := by
  simp [Piece.isFixed, fixedPackages]

@[simp] theorem isFixed_registry (name : Text) : (Piece.imported registry name).isFixed = true := by
  simp [Piece.isFixed, fixedPackages]

@[simp] theorem isFixed_unsafe (name : Text) :
    (Piece.imported (Spelling.standardPackage "unsafe") name).isFixed = true := by
  simp [Piece.isFixed, fixedPackages]

theorem isFixed_iff (item : Item) : item.isFixed = true ↔ AllPieces (·.isFixed = true) item.mentions :=
  List.all_eq_true

@[simp] theorem isFixed_method (receiver : Text) (signature : Code) (body : List Code) :
    (Item.method receiver signature body).isFixed =
      (signature.all Piece.isFixed && body.all fun c => c.all Piece.isFixed) := by
  rw [Bool.eq_iff_iff, isFixed_iff, allPieces_method (fun _ => rfl) fun _ => rfl]
  simp [AllPieces]

@[simp] theorem isFixed_accessor (d : Text) (signature value : Code) :
    (accessor d signature value).isFixed = (signature.all Piece.isFixed && value.all Piece.isFixed) := by
  simp [accessor]

@[simp] theorem isFixed_descriptor (name subject : Text) (needs : Code) :
    (Item.descriptor name subject needs).isFixed = needs.all Piece.isFixed := by
  rw [Bool.eq_iff_iff, isFixed_iff, allPieces_descriptor fun _ => rfl]
  simp [AllPieces]

@[simp] theorem isFixed_results (d subject : Text) (types : List SourceType) :
    (Item.results d subject types).isFixed = true := by
  rw [isFixed_iff, allPieces_results fun _ => rfl]
  exact fun _ _ => rfl

@[simp] theorem isFixed_init (descriptors : List Text) (enums : List (Text × Text)) :
    (Item.init descriptors enums).isFixed = true := by
  rw [isFixed_iff, allPieces_init (fun _ => rfl) fun _ => rfl]
  simp

@[simp] theorem isFixed_typeFor (spelled : Code) :
    (typeFor spelled).all Piece.isFixed = spelled.all Piece.isFixed := by
  simp [typeFor]

@[simp] theorem isFixed_described (name : Text) : (described name).all Piece.isFixed = true := by
  simp [described]

@[simp] theorem isFixed_reflectType : reflectType.all Piece.isFixed = true := by
  simp [reflectType]

@[simp] theorem areFixed_memberItems (d : Text) (kind : MemberKind) (members : List Text) :
    (memberItems d kind members).all Item.isFixed = true := by
  have fixed : (Item.members d kind members).isFixed = true := by
    rw [isFixed_iff, allPieces_members (fun _ => rfl) fun _ => rfl]
    simp
  unfold memberItems
  split <;> simp [fixed]

@[simp] theorem areFixed_memberMethods (d : Text) (kind : MemberKind) (members : List Text) :
    (memberMethods d kind members).all Item.isFixed = true := by
  unfold memberMethods
  split <;> simp

@[simp] theorem areFixed_attributeItems (d : Text) (attrs : List Attribute) :
    (attributeItems d attrs).all Item.isFixed = true := by
  have fixed : (Item.attributes d attrs).isFixed = true := by
    rw [isFixed_iff, allPieces_attributes fun _ => rfl]
    simp
  unfold attributeItems
  split <;> simp [fixed]

@[simp] theorem areFixed_attributeMethods (d : Text) (attrs : List Attribute) :
    (attributeMethods d attrs).all Item.isFixed = true := by
  unfold attributeMethods
  split <;> simp

@[simp] theorem areFixed_headMethods (v : Viewpoint) (d kind name : Text) (attrs : List Attribute)
    (type : Code) : (headMethods v d kind name attrs type).all Item.isFixed = type.all Piece.isFixed := by
  simp [headMethods, Viewpoint.qualified]

@[simp] theorem areFixed_variantMethods (d enum name : Text) (attrs : List Attribute) :
    (variantMethods d enum name attrs).all Item.isFixed = true := by
  simp [variantMethods, quoted]

@[simp] theorem areFixed_fieldItems (v : Viewpoint) (ownerName : Text) (owner : Code) (f : NamedField) :
    (fieldItems v ownerName owner f).all Item.isFixed = owner.all Piece.isFixed := by
  simp [fieldItems, quoted]

@[simp] theorem isFixed_discriminant (enum : Text) : (discriminant enum).all Piece.isFixed = true := by
  simp [discriminant]

@[simp] theorem isFixed_newDiscriminant (enum : Text) (key : Code) :
    (newDiscriminant enum key).all Piece.isFixed = key.all Piece.isFixed := by
  simp [newDiscriminant]

@[simp] theorem areFixed_enumItems (v : Viewpoint) (d name : Text) (attrs : List Attribute)
    (integer : List Item) (variants : List Text) (cases : List Code) :
    (enumItems v d name attrs integer variants cases).all Item.isFixed =
      (integer.all Item.isFixed && cases.all fun c => c.all Piece.isFixed) := by
  simp [enumItems]

theorem areFixed_enumerationItems (v : Viewpoint) (e : Enumeration) :
    (enumerationItems v e).all Item.isFixed = true := by
  have chosen : (separated ((v.constants e).map fun c => [.source c.name])).all Piece.isFixed = true := by
    refine List.all_eq_true.mpr ((allPieces_separated (P := (·.isFixed = true)) rfl).mpr ?_)
    simp
  have each : ∀ c, (constantItems v e c).all Item.isFixed = true := by
    intro c
    simp [constantItems]
  simp only [enumerationItems, List.all_append, areFixed_enumItems, List.all_flatMap, each]
  split <;> simp [chosen]

theorem areFixed_sumItems (v : Viewpoint) (s : Sum) : (sumItems v s).all Item.isFixed = true := by
  have types : ∀ c, (caseTypes c).all Piece.isFixed = true := by
    intro c
    unfold caseTypes
    split <;> rfl
  have each : ∀ c, (caseItems v s c).all Item.isFixed = true := by
    intro c
    simp [caseItems]
  simp only [sumItems, List.all_append, areFixed_enumItems, List.all_flatMap, each]
  split <;> simp [types]

theorem areFixed_functionItems (v : Viewpoint) (f : Function) :
    (functionItems v f).all Item.isFixed = true := by
  have results : (resultItems v f (functionDescriptor v f)).1.all Item.isFixed = true ∧
      (resultItems v f (functionDescriptor v f)).2.all Item.isFixed = true := by
    unfold resultItems
    split
    · exact ⟨rfl, rfl⟩
    · simp
    · simp
  have params : ∀ p i, (paramItems v f p i).all Item.isFixed = true := by
    intro p i
    simp [paramItems, quoted, Viewpoint.qualified]
  simp [functionItems, results, params]

theorem areFixed_plan (v : Viewpoint) (register : Bool) (declarations : List Declared) :
    (plan v register declarations).all Item.isFixed = true := by
  have each : ∀ d, (items v d).all Item.isFixed = true := by
    intro d
    cases d with
    | struct s => simp [items, structItems]
    | sum s => exact areFixed_sumItems v s
    | enumeration e => exact areFixed_enumerationItems v e
    | function f =>
      rw [items]
      split
      · exact areFixed_functionItems v f
      · rfl
  have init : (initItems v declarations).all Item.isFixed = true := by
    simp only [initItems]
    split
    · rfl
    · simp
  cases register <;> simp [plan, each, init]

/-! ### Collisions -/

/-- Why a file imports a package: because it always does, because it describes it from outside, or because
a type that it spells names it. -/
inductive Imports (v : Viewpoint) (items : List Item) (p : PackageRef) : Prop
  | fixed : p ∈ fixedPackages → Imports v items p
  | described : v.foreign = true → p = v.package → Imports v items p
  | named {item : Item} {t : SourceType} : item ∈ items → t ∈ item.types → p ∈ t.packages →
      v.foreign = true ∨ p ≠ v.package → Imports v items p

theorem imports_of_mentioned {items : List Item} (fixed : items.all Item.isFixed = true) {item : Item}
    (inside : item ∈ items) {piece : Piece} (mentioned : piece ∈ item.mentions) {p : PackageRef}
    (needed : p ∈ piece.packages v) : Imports v items p := by
  cases piece with
  | text t => cases needed
  | generated name => cases needed
  | source name =>
    simp only [Piece.packages] at needed
    split at needed
    · rename_i foreign
      exact .described foreign (List.mem_singleton.mp needed)
    · cases needed
  | imported q name =>
    rw [List.mem_singleton.mp needed]
    have whole := List.all_eq_true.mp fixed item inside
    have asked := List.all_eq_true.mp whole _ mentioned
    exact .fixed (List.contains_iff_mem.mp asked)
  | type t =>
    rcases List.mem_append.mp needed with named | standard
    · obtain ⟨listed, away⟩ := List.mem_filter.mp named
      have spelled : t ∈ item.types := List.mem_filterMap.mpr ⟨_, mentioned, rfl⟩
      exact .named inside spelled listed (by simpa using away)
    · rw [List.mem_singleton.mp standard]
      exact .fixed (by simp [fixedPackages])

theorem hasCapital_of_numbered {name given : Text} (numbered : IsNumbered name given) :
    hasCapital given = hasCapital name := by
  rcases numbered with rfl | ⟨i, _, rfl⟩
  · rfl
  · exact hasCapital_numbered name i

theorem not_fixed_of_hasCapital {p : PackageRef} (capital : hasCapital p.name = true) :
    p ∉ fixedPackages := by
  have plain : ∀ q ∈ fixedPackages, hasCapital q.name = false := by decide +kernel
  intro member
  rw [plain p member] at capital
  cases capital

/-- Every import is of a package that the file has to name, under that package's name or a numbered form
of it, and it can meet a declared identifier only if that name has an upper-case letter, which none of the
packages has that are always imported. So imports keep apart from all declarations if no package has such
a name and none is called, by its name or a number behind it, like something in the package that the file
joins. The last is a real condition: those names are not looked at. -/
theorem imports_meet_only_namesakes {m : Model} {o : Options} {out : Output}
    (named : ∀ d ∈ m.declarations, d.name ≠ []) (done : generate m o = .ok out) :
    (∀ e ∈ out.spelling.imports.entries, ∃ p, Imports (viewpoint m o) out.items p ∧ p.path = e.1 ∧
      IsNumbered p.name e.2 ∧
      (e.2 ∈ out.declares → hasCapital p.name = true ∧ p ∉ fixedPackages)) ∧
    ((∀ p, Imports (viewpoint m o) out.items p →
        hasCapital p.name = false ∧ (o.into = [] → ∀ name ∈ m.taken, ¬IsNumbered p.name name)) →
      ∀ e ∈ out.spelling.imports.entries, e.2 ∉ out.declares ∧ (o.into = [] → e.2 ∉ m.taken)) := by
  obtain ⟨declarations, _, planned, spelled, _⟩ := generate_eq_ok done
  have fixed : out.items.all Item.isFixed = true := by
    rw [planned]
    exact areFixed_plan _ _ _
  have origins : ∀ e ∈ out.spelling.imports.entries, ∃ p, Imports (viewpoint m o) out.items p ∧
      p.path = e.1 ∧ IsNumbered p.name e.2 := by
    intro e member
    rw [spelled] at member
    obtain ⟨p, ⟨item, inside, piece, mentioned, needed⟩, path, numbered⟩ := comes_spellingFor _ _ e member
    exact ⟨p, imports_of_mentioned fixed inside mentioned needed, path, numbered⟩
  have capital : ∀ (p : PackageRef) given, IsNumbered p.name given → given ∈ out.declares →
      hasCapital p.name = true := by
    intro p given numbered declared
    rw [← hasCapital_of_numbered numbered]
    exact allCapital_declares named done given declared
  constructor
  · intro e member
    obtain ⟨p, imported, path, numbered⟩ := origins e member
    refine ⟨p, imported, path, numbered, ?_⟩
    intro declared
    exact ⟨capital p e.2 numbered declared, not_fixed_of_hasCapital (capital p e.2 numbered declared)⟩
  · intro apart e member
    obtain ⟨p, imported, _, numbered⟩ := origins e member
    obtain ⟨plain, free⟩ := apart p imported
    constructor
    · intro declared
      rw [capital p e.2 numbered declared] at plain
      cases plain
    · intro joins taken
      exact free joins e.2 taken numbered

/-- A package that has a function with the name of a package that is always imported. -/
def mirrors : Package where
  ref := ⟨"example.com/cats", "cats"⟩
  files := [{
    name := "cats.go"
    header := []
    remarks := []
    imports := []
    declarations := [
      .types ["//introspect:reflect"] [⟨"Yarn", [], [], false, .struct [⟨"Size", false, .name "int", []⟩]⟩],
      .function [] "reflect" none [] (.function [] [] false)] }]

def mirrorNames : List Text := ["Yarn", "reflect"]

theorem takenNames_mirrors : takenNames mirrors = mirrorNames := by
  have own : mirrors.ownEntries.map (·.name) = mirrorNames := by decide +kernel
  have sorted : mirrorNames.mergeSort Text.le = mirrorNames := by
    apply List.mergeSort_of_pairwise
    decide
  rw [takenNames, own, sorted]
  decide

theorem mirrors_meet_reflect :
    ∃ m out, ofPackage [] mirrors = .ok m ∧ generate m {} = .ok out ∧
      ∃ e ∈ out.spelling.imports.entries, e.2 ∈ m.taken ∧
        ∃ p, Imports (viewpoint m {}) out.items p ∧ p.path = e.1 ∧ IsNumbered p.name e.2 := by
  -- The names are sorted by a recursion that does not evaluate, so they are put in by hand.
  have found : ((ofPackage [] mirrors).toOption.bind fun m =>
      (generate { m with taken := mirrorNames } {}).toOption.map fun out => (m, out)).any
        (fun (m, out) => out.spelling.imports.entries.any (fun e => mirrorNames.contains e.2) &&
          m.declarations.all fun d => !d.name.isEmpty) = true := by decide +kernel
  cases read : ofPackage [] mirrors with
  | error f => simp [read, Except.toOption] at found
  | ok m =>
    have taken : m.taken = mirrorNames := (taken_of_ofPackage read).trans takenNames_mirrors
    have same : { m with taken := mirrorNames } = m := by rw [← taken]
    rw [read] at found
    simp only [Except.toOption, Option.bind_some, same] at found
    cases done : generate m {} with
    | error f => simp [done] at found
    | ok out =>
      simp only [done, Option.map_some, Option.any_some, Bool.and_eq_true, List.any_eq_true,
        List.all_eq_true] at found
      obtain ⟨⟨e, member, met⟩, nonempty⟩ := found
      have named : ∀ d ∈ m.declarations, d.name ≠ [] := by
        intro d inside
        simpa using nonempty d inside
      obtain ⟨p, imported, path, numbered, _⟩ := (imports_meet_only_namesakes named done).1 e member
      refine ⟨m, out, rfl, done, e, member, ?_, p, imported, path, numbered⟩
      rw [taken]
      exact List.contains_iff_mem.mp met

end TypeAtlas.Emit
