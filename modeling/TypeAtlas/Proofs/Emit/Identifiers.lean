import Mathlib.Data.List.Perm.Basic
import TypeAtlas.Proofs.Emit.Plan
import TypeAtlas.Proofs.Model.Reading

/-!
The identifiers of a generated file. The names that are claimed are those that its lines declare, each as
often as it is declared; so none is declared twice and none belongs to the package that the file joins. And
whatever a method, an array of members or the registration refers to is declared in the same file.
-/

namespace TypeAtlas.Emit

open Source Model

/-! ### Claiming -/

/-- All names can be claimed exactly if they are different and none of them is taken or used. -/
theorem Names.claim_eq_none_iff {s : Names} {names : List Text} :
    (s.claim names).2 = none ↔
      names.Nodup ∧ ∀ name ∈ names, name ∉ s.used ∧ name ∉ s.taken := by
  induction names generalizing s with
  | nil => simp [claim]
  | cons name rest ih =>
    rw [claim]
    split
    · rename_i free
      have clear : name ∉ s.used ∧ name ∉ s.taken := by simpa [isFree] using free
      rw [ih, List.nodup_cons, List.forall_mem_cons]
      constructor
      · rintro ⟨distinct, each⟩
        refine ⟨⟨?_, distinct⟩, clear, ?_⟩
        · intro again
          exact (each name again).1 List.mem_cons_self
        · intro other member
          exact ⟨fun used => (each other member).1 (List.mem_cons_of_mem _ used), (each other member).2⟩
      · rintro ⟨⟨once, distinct⟩, _, each⟩
        refine ⟨distinct, ?_⟩
        intro other member
        refine ⟨?_, (each other member).2⟩
        intro used
        rcases List.mem_cons.mp used with rfl | used
        · exact once member
        · exact (each other member).1 used
    · rename_i held
      constructor
      · nofun
      · rintro ⟨_, each⟩
        obtain ⟨unused, untaken⟩ := each name List.mem_cons_self
        exact absurd (by simp [isFree, unused, untaken]) held

/-! ### References -/

@[simp] theorem generatedNames_nil : generatedNames [] = [] := rfl

@[simp] theorem generatedNames_append (first second : Code) :
    generatedNames (first ++ second) = generatedNames first ++ generatedNames second :=
  List.filterMap_append

@[simp] theorem generatedNames_text (t : Text) (code : Code) :
    generatedNames (.text t :: code) = generatedNames code := rfl

@[simp] theorem generatedNames_generated (name : Text) (code : Code) :
    generatedNames (.generated name :: code) = name :: generatedNames code := rfl

@[simp] theorem generatedNames_source (name : Text) (code : Code) :
    generatedNames (.source name :: code) = generatedNames code := rfl

@[simp] theorem generatedNames_imported (p : PackageRef) (name : Text) (code : Code) :
    generatedNames (.imported p name :: code) = generatedNames code := rfl

@[simp] theorem generatedNames_type (t : SourceType) (code : Code) :
    generatedNames (.type t :: code) = generatedNames code := rfl

theorem generatedNames_flatMap {α : Type} (xs : List α) (f : α → Code) :
    generatedNames (xs.flatMap f) = xs.flatMap fun x => generatedNames (f x) :=
  List.filterMap_flatMap

theorem generatedNames_flatten (body : List Code) :
    generatedNames body.flatten = body.flatMap generatedNames :=
  List.filterMap_flatten

theorem generatedNames_separated (codes : List Code) :
    generatedNames (separated codes) = codes.flatMap generatedNames := by
  fun_induction separated codes with
  | case1 => rfl
  | case2 c => simp
  | case3 c rest more ih => simp [ih]

@[simp] theorem generatedNames_described (name : Text) : generatedNames (described name) = [] := rfl

@[simp] theorem generatedNames_reflectType : generatedNames reflectType = [] := rfl

@[simp] theorem generatedNames_typeFor (spelled : Code) :
    generatedNames (typeFor spelled) = generatedNames spelled := by
  simp [typeFor]

@[simp] theorem generatedNames_methodHeader (receiver : Text) (signature : Code) :
    generatedNames (Item.methodHeader receiver signature) = receiver :: generatedNames signature := rfl

@[simp] theorem generatedNames_enumRegistration (type descriptor : Text) :
    generatedNames (Item.enumRegistration type descriptor) = [descriptor] := rfl

/-- All that items refer to is among the names. -/
def ReferTo (names : List Text) (items : List Item) : Prop :=
  ∀ item ∈ items, item.refers ⊆ names

@[simp] theorem refers_descriptor (name subject : Text) (needs : Code) :
    (Item.descriptor name subject needs).refers = [] := rfl

/-- The array has the descriptors at their indices, the checks compare it with the count, and the list has the
descriptors again. -/
theorem refers_members (d : Text) (kind : MemberKind) (names : List Text) :
    (Item.members d kind names).refers =
      (names.flatMap fun name => [indexName name, name]) ++
        [kind.arrayName d, kind.countName d, kind.countName d, kind.arrayName d] ++ names := by
  have constants : generatedNames ((Item.indexConstants (kind.countName d) names).flatMap Line.code) = [] := by
    rw [generatedNames, List.filterMap_eq_nil_iff]
    intro piece member
    rw [mem_code_indexConstants member]
  simp [Item.refers, Item.code, Item.lines, Item.arrayEntry, Item.difference, generatedNames_flatMap,
    constants]

@[simp] theorem refers_attributes (d : Text) (attrs : List Attribute) :
    (Item.attributes d attrs).refers = [] := by
  simp [Item.refers, Item.code, Item.lines, generatedNames_flatMap]

@[simp] theorem refers_results (d subject : Text) (types : List SourceType) :
    (Item.results d subject types).refers = [] := by
  simp [Item.refers, Item.code, Item.lines, generatedNames_flatMap]

@[simp] theorem refers_method (receiver : Text) (signature : Code) (body : List Code) :
    (Item.method receiver signature body).refers =
      receiver :: (generatedNames signature ++ body.flatMap generatedNames) := by
  simp [Item.refers, Item.code, Item.lines, generatedNames_flatten]

@[simp] theorem refers_accessor (d : Text) (signature value : Code) :
    (accessor d signature value).refers = d :: (generatedNames signature ++ generatedNames value) := by
  simp [accessor]

theorem refers_init (descriptors : List Text) (enums : List (Text × Text)) :
    (Item.init descriptors enums).refers = descriptors ++ enums.map Prod.snd := by
  have registered : generatedNames ((Item.registration descriptors).flatMap Line.code) = descriptors := by
    unfold Item.registration
    split
    · rename_i none
      rw [List.isEmpty_iff.mp none]
      rfl
    · simp [generatedNames_separated, List.flatMap_map]
  simp [Item.refers, Item.code, Item.lines, generatedNames_flatMap, registered, ← List.map_eq_flatMap]

/-! ### What is claimed is what is declared -/

/-- The names that are claimed for an item are those that its lines declare, in another order. -/
theorem Item.claims_perm_declares (item : Item) : item.claims.Perm item.declares := by
  cases item with
  | descriptor name subject needs => exact .refl _
  | members d kind names =>
    have swapped : ([kind.countName d, kind.arrayName d, kind.listName d] ++ names.map indexName).Perm
        (names.map indexName ++ [kind.countName d, kind.arrayName d, kind.listName d]) :=
      List.perm_append_comm
    simpa [claims, declares, lines] using swapped
  | attributes d attrs => simp [claims, declares, lines]
  | results d subject types => simp [claims, declares, lines]
  | method receiver signature body => simp [claims, declares, lines]
  | init descriptors enums =>
    have registered : (registration descriptors).flatMap Line.declares = [] := by
      unfold registration
      split <;> rfl
    simp [claims, declares, lines, registered]

/-- A method on one line declares and refers to what it does on several. -/
theorem names_methodLines (s : Spelling) (header : Code) (body : List Code) :
    (methodLines s header body).flatMap Line.declares = [] ∧
      generatedNames ((methodLines s header body).flatMap Line.code) =
        generatedNames ((spreadMethod header body).flatMap Line.code) := by
  unfold methodLines
  split
  · dsimp only
    split <;> simp
  · simp

/-- The layout of an item changes none of its identifiers. -/
theorem Item.names_written (s : Spelling) (item : Item) :
    (item.written s).flatMap Line.declares = item.declares ∧
      generatedNames ((item.written s).flatMap Line.code) = item.refers := by
  cases item with
  | method receiver signature body =>
    obtain ⟨nothing, same⟩ := names_methodLines s (methodHeader receiver signature) body
    refine ⟨nothing.trans ?_, same⟩
    simp [declares, lines]
  | _ => exact ⟨rfl, rfl⟩

theorem Output.declares_eq (o : Output) : o.declares = o.items.flatMap Item.declares := by
  rw [declares, written, List.flatMap_assoc]
  simp only [Item.names_written]

theorem Output.refers_eq (o : Output) : o.refers = o.items.flatMap Item.refers := by
  rw [refers, written, List.flatMap_assoc, generatedNames_flatMap]
  simp only [Item.names_written]

/-- What is claimed for the items of a file is what the file declares, in another order. -/
theorem Output.claims_perm_declares (o : Output) : (claimedNames o.items).Perm o.declares := by
  rw [o.declares_eq]
  exact List.Perm.flatMap_left _ fun item _ => item.claims_perm_declares

/-! ### Claimed names -/

@[simp] theorem claimedNames_nil : claimedNames [] = [] := rfl

@[simp] theorem claimedNames_cons (item : Item) (items : List Item) :
    claimedNames (item :: items) = item.claims ++ claimedNames items := rfl

@[simp] theorem claimedNames_append (first second : List Item) :
    claimedNames (first ++ second) = claimedNames first ++ claimedNames second :=
  List.flatMap_append

@[simp] theorem claims_descriptor (name subject : Text) (needs : Code) :
    (Item.descriptor name subject needs).claims = [name] := rfl

@[simp] theorem claims_results (d subject : Text) (types : List SourceType) :
    (Item.results d subject types).claims = [resultsName d] := rfl

@[simp] theorem claims_method (receiver : Text) (signature : Code) (body : List Code) :
    (Item.method receiver signature body).claims = [] := rfl

@[simp] theorem claims_accessor (d : Text) (signature value : Code) :
    (accessor d signature value).claims = [] := rfl

section

variable {names : List Text}

theorem forall_claimedNames_flatMap {α : Type} {xs : List α} {f : α → List Item} {P : Text → Prop} :
    (∀ name ∈ claimedNames (xs.flatMap f), P name) ↔ ∀ x ∈ xs, ∀ name ∈ claimedNames (f x), P name := by
  rw [claimedNames, List.flatMap_assoc]
  constructor
  · intro all x member name inside
    exact all name (List.mem_flatMap.mpr ⟨x, member, inside⟩)
  · intro each name member
    obtain ⟨x, inside, found⟩ := List.mem_flatMap.mp member
    exact each x inside name found

theorem claimedNames_flatMap_subset {α : Type} {xs : List α} {f : α → List Item} :
    claimedNames (xs.flatMap f) ⊆ names ↔ ∀ x ∈ xs, claimedNames (f x) ⊆ names :=
  forall_claimedNames_flatMap

@[simp] theorem referTo_nil : ReferTo names [] := nofun

@[simp] theorem referTo_cons (item : Item) (items : List Item) :
    ReferTo names (item :: items) ↔ item.refers ⊆ names ∧ ReferTo names items :=
  List.forall_mem_cons

@[simp] theorem referTo_append (first second : List Item) :
    ReferTo names (first ++ second) ↔ ReferTo names first ∧ ReferTo names second :=
  List.forall_mem_append

@[simp] theorem referTo_flatMap {α : Type} (xs : List α) (f : α → List Item) :
    ReferTo names (xs.flatMap f) ↔ ∀ x ∈ xs, ReferTo names (f x) := by
  simp only [ReferTo, List.mem_flatMap]
  constructor
  · intro each x member item inside
    exact each item ⟨x, member, inside⟩
  · rintro each item ⟨x, member, inside⟩
    exact each x member item inside

/-! ### Lists of members and tables -/

theorem claimedNames_memberItems (d : Text) (kind : MemberKind) {members : List Text}
    (nonempty : members.isEmpty = false) :
    claimedNames (memberItems d kind members) =
      [kind.countName d, kind.arrayName d, kind.listName d] ++ members.map indexName := by
  simp [memberItems, nonempty, Item.claims]

theorem index_declared {d member : Text} {kind : MemberKind} {members : List Text}
    (listed : member ∈ members) : indexName member ∈ claimedNames (memberItems d kind members) := by
  have nonempty : members.isEmpty = false := List.isEmpty_eq_false_iff_exists_mem.mpr ⟨member, listed⟩
  rw [claimedNames_memberItems d kind nonempty]
  exact List.mem_append_right _ (List.mem_map_of_mem listed)

theorem referTo_memberItems {d : Text} {kind : MemberKind} {members : List Text}
    (own : claimedNames (memberItems d kind members) ⊆ names) (described : members ⊆ names) :
    ReferTo names (memberItems d kind members) := by
  cases nonempty : members.isEmpty with
  | true => simp [memberItems, nonempty]
  | false =>
    rw [claimedNames_memberItems d kind nonempty, List.append_subset] at own
    obtain ⟨fixed, indices⟩ := own
    simp only [List.cons_subset] at fixed
    have entries : (members.flatMap fun name => [indexName name, name]) ⊆ names := by
      intro name member
      obtain ⟨m, inside, found⟩ := List.mem_flatMap.mp member
      rcases List.mem_pair.mp found with rfl | rfl
      · exact indices (List.mem_map_of_mem inside)
      · exact described inside
    simp [memberItems, nonempty, refers_members, entries, described, fixed]

theorem referTo_memberMethods {d : Text} {kind : MemberKind} {members : List Text}
    (receiver : d ∈ names) (own : claimedNames (memberItems d kind members) ⊆ names) :
    ReferTo names (memberMethods d kind members) := by
  cases nonempty : members.isEmpty with
  | true => simp [memberMethods, nonempty]
  | false =>
    rw [claimedNames_memberItems d kind nonempty, List.append_subset] at own
    have fixed := own.1
    simp only [List.cons_subset] at fixed
    simp [memberMethods, nonempty, receiver, fixed]

@[simp] theorem referTo_attributeItems (d : Text) (attrs : List Attribute) :
    ReferTo names (attributeItems d attrs) := by
  unfold attributeItems
  split <;> simp

theorem referTo_attributeMethods {d : Text} {attrs : List Attribute} (receiver : d ∈ names)
    (own : claimedNames (attributeItems d attrs) ⊆ names) :
    ReferTo names (attributeMethods d attrs) := by
  cases nonempty : attrs.isEmpty with
  | true => simp [attributeMethods, nonempty]
  | false =>
    have table : tableName d ∈ names := by
      simpa [attributeItems, nonempty, Item.claims] using own
    simp [attributeMethods, nonempty, receiver, table]

theorem referTo_headMethods (v : Viewpoint) (kind name : Text) (type : Code) {d : Text}
    {attrs : List Attribute} (receiver : d ∈ names) (own : claimedNames (attributeItems d attrs) ⊆ names)
    (plain : generatedNames type = []) : ReferTo names (headMethods v d kind name attrs type) := by
  have table := referTo_attributeMethods receiver own
  simp [headMethods, Viewpoint.qualified, receiver, plain, table]

@[simp] theorem claimedNames_memberMethods (d : Text) (kind : MemberKind) (members : List Text) :
    claimedNames (memberMethods d kind members) = [] := by
  unfold memberMethods
  split <;> simp

@[simp] theorem claimedNames_attributeMethods (d : Text) (attrs : List Attribute) :
    claimedNames (attributeMethods d attrs) = [] := by
  unfold attributeMethods
  split <;> simp

@[simp] theorem claimedNames_headMethods (v : Viewpoint) (d kind name : Text) (attrs : List Attribute)
    (type : Code) : claimedNames (headMethods v d kind name attrs type) = [] := by
  simp [headMethods]

/-! ### Structs -/

variable {v : Viewpoint}

@[simp] theorem claimedNames_fieldItems (v : Viewpoint) (ownerName : Text) (owner : Code)
    (f : NamedField) :
    claimedNames (fieldItems v ownerName owner f) =
      f.descriptor :: claimedNames (attributeItems f.descriptor f.field.attrs) := by
  simp [fieldItems]

theorem referTo_fieldItems {ownerName : Text} {owner : Code} {f : NamedField}
    (own : claimedNames (fieldItems v ownerName owner f) ⊆ names)
    (index : indexName f.descriptor ∈ names) (plain : generatedNames owner = []) :
    ReferTo names (fieldItems v ownerName owner f) := by
  rw [claimedNames_fieldItems, List.cons_subset] at own
  obtain ⟨receiver, tables⟩ := own
  have table := referTo_attributeMethods receiver tables
  simp [fieldItems, quoted, receiver, index, plain, table]

/-- The fields of a type are listed under it, and each of them is described. -/
theorem referTo_fields {d ownerName : Text} {owner : Code} {fields : List NamedField}
    (plain : generatedNames owner = [])
    (listed : claimedNames (memberItems d .fields (fields.map (·.descriptor))) ⊆ names)
    (described : claimedNames (fields.flatMap (fieldItems v ownerName owner)) ⊆ names) :
    ReferTo names (memberItems d .fields (fields.map (·.descriptor))) ∧
      ReferTo names (fields.flatMap (fieldItems v ownerName owner)) := by
  have each := claimedNames_flatMap_subset.mp described
  constructor
  · apply referTo_memberItems listed
    intro name member
    obtain ⟨f, inside, rfl⟩ := List.mem_map.mp member
    apply each f inside
    rw [claimedNames_fieldItems]
    exact List.mem_cons_self
  · rw [referTo_flatMap]
    intro f member
    apply referTo_fieldItems (each f member) _ plain
    exact listed (index_declared (List.mem_map_of_mem member))

theorem referTo_structItems {s : Struct} (own : claimedNames (structItems v s) ⊆ names) :
    ReferTo names (structItems v s) := by
  simp only [structItems, claimedNames_append, claimedNames_cons, claimedNames_nil,
    claims_descriptor, claims_accessor, claimedNames_headMethods, claimedNames_memberMethods,
    List.append_nil, List.append_subset, List.cons_subset] at own
  obtain ⟨⟨⟨⟨receiver, _⟩, listed⟩, tables⟩, described⟩ := own
  obtain ⟨list, fields⟩ := referTo_fields rfl listed described
  have head := referTo_headMethods v "KindStruct" s.name [.source s.name] receiver tables rfl
  have methods := referTo_memberMethods receiver listed
  simp only [structItems, referTo_append]
  simp [receiver, list, fields, head, methods]

/-! ### Enums -/

@[simp] theorem generatedNames_discriminant (enum : Text) : generatedNames (discriminant enum) = [] := rfl

@[simp] theorem generatedNames_newDiscriminant (enum : Text) (key : Code) :
    generatedNames (newDiscriminant enum key) = generatedNames key := by
  simp [newDiscriminant]

@[simp] theorem claimedNames_enumItems (v : Viewpoint) (d name : Text) (attrs : List Attribute)
    (integer : List Item) (variants : List Text) (cases : List Code) :
    claimedNames (enumItems v d name attrs integer variants cases) =
      d :: (claimedNames (memberItems d .variants variants) ++ claimedNames (attributeItems d attrs) ++
        claimedNames integer) := by
  simp [enumItems]

theorem referTo_enumItems {d name : Text} {attrs : List Attribute} {integer : List Item}
    {variants : List Text} {cases : List Code}
    (own : claimedNames (enumItems v d name attrs integer variants cases) ⊆ names)
    (described : variants ⊆ names) (first : ReferTo names integer)
    (statements : ∀ c ∈ cases, generatedNames c ⊆ names) :
    ReferTo names (enumItems v d name attrs integer variants cases) := by
  simp only [claimedNames_enumItems, List.cons_subset, List.append_subset] at own
  obtain ⟨receiver, ⟨listed, tables⟩, _⟩ := own
  have list := referTo_memberItems listed described
  have head := referTo_headMethods v "KindEnum" name [.source name] receiver tables rfl
  have methods := referTo_memberMethods receiver listed
  have chosen : cases.flatMap generatedNames ⊆ names := by
    intro n member
    obtain ⟨c, inside, found⟩ := List.mem_flatMap.mp member
    exact statements c inside found
  simp only [enumItems, referTo_append]
  simp [receiver, list, head, methods, first, chosen]

@[simp] theorem claimedNames_variantMethods (d enum name : Text) (attrs : List Attribute) :
    claimedNames (variantMethods d enum name attrs) = [] := by
  simp [variantMethods]

theorem referTo_variantMethods (enum name : Text) {d : Text} {attrs : List Attribute}
    (receiver : d ∈ names) (index : indexName d ∈ names)
    (own : claimedNames (attributeItems d attrs) ⊆ names) :
    ReferTo names (variantMethods d enum name attrs) := by
  have table := referTo_attributeMethods receiver own
  simp [variantMethods, quoted, receiver, index, table]

@[simp] theorem claimedNames_constantItems (v : Viewpoint) (e : Enumeration) (c : Constant) :
    claimedNames (constantItems v e c) =
      v.variantName e.name c.name ::
        claimedNames (attributeItems (v.variantName e.name c.name) c.attrs) := by
  simp [constantItems]

theorem referTo_constantItems {e : Enumeration} {c : Constant}
    (own : claimedNames (constantItems v e c) ⊆ names)
    (index : indexName (v.variantName e.name c.name) ∈ names) :
    ReferTo names (constantItems v e c) := by
  rw [claimedNames_constantItems, List.cons_subset] at own
  obtain ⟨receiver, tables⟩ := own
  have methods := referTo_variantMethods e.name c.name receiver index tables
  simp [constantItems, receiver, methods]

theorem referTo_enumerationItems {e : Enumeration} (own : claimedNames (enumerationItems v e) ⊆ names) :
    ReferTo names (enumerationItems v e) := by
  simp only [enumerationItems, claimedNames_append, List.append_subset] at own
  obtain ⟨whole, parts⟩ := own
  have each := claimedNames_flatMap_subset.mp parts
  have receiver : enumerationDescriptor v e ∈ names := by
    apply whole
    rw [claimedNames_enumItems]
    exact List.mem_cons_self
  have plain : generatedNames (separated ((v.constants e).map fun c => [.source c.name])) = [] := by
    simp [generatedNames_separated, List.flatMap_map]
  simp only [enumerationItems, referTo_append, referTo_flatMap]
  constructor
  · apply referTo_enumItems whole
    · intro name member
      obtain ⟨c, inside, rfl⟩ := List.mem_map.mp member
      apply each c inside
      rw [claimedNames_constantItems]
      exact List.mem_cons_self
    · simp [receiver]
    · intro c member
      split at member
      · cases member
      · simp only [List.mem_cons, List.not_mem_nil, or_false] at member
        rcases member with rfl | rfl | rfl | rfl <;> simp [plain]
  · intro c member
    apply referTo_constantItems (each c member)
    simp only [claimedNames_enumItems, List.cons_subset, List.append_subset] at whole
    exact whole.2.1.1 (index_declared (List.mem_map_of_mem member))

@[simp] theorem generatedNames_caseTypes (c : Case) : generatedNames (caseTypes c) = [] := by
  unfold caseTypes
  split <;> rfl

/-- The fields of a case with their descriptors. -/
def Viewpoint.caseFields (v : Viewpoint) (s : Sum) (c : Case) : List NamedField :=
  v.namedFields (variantBase s.name c.name) (isExported s.name && isExported c.name) c.fields

@[simp] theorem claimedNames_caseItems (v : Viewpoint) (s : Sum) (c : Case) :
    claimedNames (caseItems v s c) =
      v.variantName s.name c.name ::
        (claimedNames (memberItems (v.variantName s.name c.name) .fields
          ((v.caseFields s c).map (·.descriptor))) ++
        claimedNames (attributeItems (v.variantName s.name c.name) c.attrs) ++
        claimedNames ((v.caseFields s c).flatMap (fieldItems v c.name [.type c.type]))) := by
  simp [caseItems, Viewpoint.caseFields]

theorem referTo_caseItems {s : Sum} {c : Case} (own : claimedNames (caseItems v s c) ⊆ names)
    (index : indexName (v.variantName s.name c.name) ∈ names) : ReferTo names (caseItems v s c) := by
  simp only [claimedNames_caseItems, List.cons_subset, List.append_subset] at own
  obtain ⟨receiver, ⟨listed, tables⟩, described⟩ := own
  obtain ⟨list, fields⟩ := referTo_fields rfl listed described
  have variant := referTo_variantMethods s.name c.name receiver index tables
  have methods := referTo_memberMethods receiver listed
  simp only [caseItems, referTo_append]
  rw [Viewpoint.caseFields] at list fields methods
  simp [receiver, index, list, fields, variant, methods]

theorem referTo_sumItems {s : Sum} (own : claimedNames (sumItems v s) ⊆ names) :
    ReferTo names (sumItems v s) := by
  simp only [sumItems, claimedNames_append, List.append_subset] at own
  obtain ⟨whole, parts⟩ := own
  have each := claimedNames_flatMap_subset.mp parts
  have index : ∀ c ∈ v.cases s, indexName (v.variantName s.name c.name) ∈ names := by
    intro c member
    simp only [claimedNames_enumItems, List.cons_subset, List.append_subset] at whole
    exact whole.2.1.1 (index_declared (List.mem_map_of_mem member))
  simp only [sumItems, referTo_append, referTo_flatMap]
  constructor
  · apply referTo_enumItems whole
    · intro name member
      obtain ⟨c, inside, rfl⟩ := List.mem_map.mp member
      apply each c inside
      rw [claimedNames_caseItems]
      exact List.mem_cons_self
    · exact referTo_nil
    · intro statement member
      split at member
      · cases member
      · simp only [List.mem_append, List.mem_singleton, List.mem_flatMap] at member
        rcases member with (rfl | ⟨c, inside, member⟩) | rfl
        · simp
        · simp only [List.mem_cons, List.not_mem_nil, or_false] at member
          rcases member with rfl | rfl
          · simp
          · simp [index c inside]
        · simp
  · intro c member
    exact referTo_caseItems (each c member) (index c member)

/-! ### Functions -/

@[simp] theorem claimedNames_paramItems (v : Viewpoint) (f : Function) (p : Parameter) (i : Nat) :
    claimedNames (paramItems v f p i) = [v.paramName f p i] := by
  simp [paramItems]

theorem referTo_paramItems {f : Function} {p : Parameter} {i : Nat} (receiver : v.paramName f p i ∈ names)
    (index : indexName (v.paramName f p i) ∈ names) : ReferTo names (paramItems v f p i) := by
  simp [paramItems, quoted, Viewpoint.qualified, receiver, index]

/-- The results refer to the struct that holds several of them. -/
theorem referTo_resultItems {f : Function} {d : Text} (receiver : d ∈ names)
    (own : claimedNames (resultItems v f d).1 ⊆ names) :
    ReferTo names (resultItems v f d).1 ∧ ReferTo names (resultItems v f d).2 := by
  unfold resultItems at own ⊢
  split at own
  · simp
  · simp [receiver]
  · have tuple : resultsName d ∈ names := by simpa using own
    simp [receiver, tuple]

theorem referTo_functionItems {f : Function} (own : claimedNames (functionItems v f) ⊆ names) :
    ReferTo names (functionItems v f) := by
  simp only [functionItems, claimedNames_append, claimedNames_cons, claimedNames_nil,
    claims_descriptor, claims_accessor, claimedNames_headMethods, claimedNames_memberMethods,
    List.append_nil, List.append_subset, List.cons_subset] at own
  obtain ⟨⟨⟨⟨⟨⟨receiver, _⟩, listed⟩, tuple⟩, tables⟩, _⟩, parts⟩ := own
  have each := claimedNames_flatMap_subset.mp parts
  simp only [claimedNames_paramItems, List.cons_subset] at each
  have list := referTo_memberItems listed fun name member => by
    obtain ⟨⟨p, i⟩, inside, rfl⟩ := List.mem_map.mp member
    exact (each (p, i) inside).1
  have params : ∀ p i, (p, i) ∈ f.params.zipIdx → ReferTo names (paramItems v f p i) := by
    intro p i member
    apply referTo_paramItems (each (p, i) member).1
    exact listed (index_declared (List.mem_map.mpr ⟨(p, i), member, rfl⟩))
  obtain ⟨results, answer⟩ := referTo_resultItems receiver tuple
  have head := referTo_headMethods v "KindFunction" f.name [.type (nameless f.signature)] receiver tables
    rfl
  have methods := referTo_memberMethods receiver listed
  simp only [functionItems, referTo_append, referTo_flatMap]
  simpa [receiver, list, results, answer, head, methods] using params

/-! ### Files -/

theorem referTo_items {d : Declared} (own : claimedNames (items v d) ⊆ names) :
    ReferTo names (items v d) := by
  cases d with
  | struct s => exact referTo_structItems own
  | sum s => exact referTo_sumItems own
  | enumeration e => exact referTo_enumerationItems own
  | function f =>
    rw [items] at own ⊢
    split
    · rename_i can
      rw [if_pos can] at own
      exact referTo_functionItems own
    · exact referTo_nil

theorem registered_declared {d : Declared} {name : Text} (found : registered v d = some name) :
    name ∈ claimedNames (items v d) := by
  cases d with
  | struct s =>
    cases found
    simp [items, structItems]
  | function f =>
    rw [registered] at found
    split at found
    · rename_i can
      cases found
      simp [items, can, functionItems]
    · cases found
  | sum s => cases found
  | enumeration e => cases found

theorem registeredEnum_declared {d : Declared} {e : Text × Text} (found : registeredEnum v d = some e) :
    e.2 ∈ claimedNames (items v d) := by
  cases d with
  | sum s =>
    cases found
    simp [items, sumItems]
  | enumeration e =>
    cases found
    simp [items, enumerationItems]
  | struct s => cases found
  | function f => cases found

theorem referTo_initItems {declarations : List Declared}
    (own : ∀ d ∈ declarations, claimedNames (items v d) ⊆ names) :
    ReferTo names (initItems v declarations) := by
  simp only [initItems]
  split
  · exact referTo_nil
  · rw [referTo_cons]
    refine ⟨?_, referTo_nil⟩
    intro name member
    rw [refers_init] at member
    rcases List.mem_append.mp member with inside | inside
    · obtain ⟨d, chosen, found⟩ := List.mem_filterMap.mp inside
      exact own d chosen (registered_declared found)
    · obtain ⟨e, listed, rfl⟩ := List.mem_map.mp inside
      obtain ⟨d, chosen, found⟩ := List.mem_filterMap.mp listed
      exact own d chosen (registeredEnum_declared found)

/-- A plan refers to nothing that it does not declare. -/
theorem referTo_plan (v : Viewpoint) (register : Bool) (declarations : List Declared) :
    ReferTo (claimedNames (plan v register declarations)) (plan v register declarations) := by
  have each : ∀ d ∈ declarations,
      claimedNames (items v d) ⊆ claimedNames (plan v register declarations) := by
    apply claimedNames_flatMap_subset.mp
    rw [plan, claimedNames_append]
    exact List.subset_append_left _ _
  rw [plan, referTo_append, referTo_flatMap, ← plan]
  constructor
  · intro d member
    exact referTo_items (each d member)
  · split
    · exact referTo_initItems each
    · exact referTo_nil

end

/-- What a generated file declares is what was claimed for it, each identifier once: they are pairwise
different. All that the file refers to as its own is among them, and none belongs to the package that the file
joins, whose files written by hand declare the names that are taken. -/
theorem identifiers_declared_once {m : Model} {o : Options} {out : Output}
    (done : generate m o = .ok out) :
    (claimedNames out.items).Perm out.declares ∧ out.declares.Nodup ∧
      (∀ name ∈ out.refers, name ∈ out.declares) ∧
      (o.into = [] → (∀ name ∈ out.declares, name ∉ m.taken) ∧
        ∀ others p, ofPackage others p = .ok m → ∀ e ∈ p.ownEntries, e.name ∉ out.declares) := by
  obtain ⟨declarations, _, planned, _, claimed⟩ := generate_eq_ok done
  obtain ⟨distinct, free⟩ := Names.claim_eq_none_iff.mp claimed
  have same := out.claims_perm_declares
  refine ⟨same, same.nodup_iff.mp distinct, ?_, ?_⟩
  · intro name referred
    rw [out.refers_eq] at referred
    obtain ⟨item, member, inside⟩ := List.mem_flatMap.mp referred
    have closed := referTo_plan (viewpoint m o) o.register declarations
    rw [← planned] at closed
    exact same.mem_iff.mp (closed item member inside)
  · intro joins
    have untaken : ∀ name ∈ out.declares, name ∉ m.taken := by
      intro name member
      simpa [Names.start, viewpoint, joins] using (free name (same.mem_iff.mpr member)).2
    refine ⟨untaken, ?_⟩
    intro others p read e member again
    apply untaken e.name again
    rw [taken_of_ofPackage read]
    exact mem_takenNames.mpr ⟨e, member, rfl⟩

/-- A package with a declaration of every sort; two of them have a hidden member. -/
def kennel : Model where
  package := ⟨"example.com/dogs", "dogs"⟩
  taken := ["Calm", "Dog", "Feed", "Mood", "Pet"]
  declarations :=
    let ref : PackageRef := ⟨"example.com/dogs", "dogs"⟩
    let dog : SourceType := .defined (some ref) "Dog" []
    let int : SourceType := .basic (.plain .int)
    let fields : List Field := [⟨"Name", .basic (.plain .string), [.flag "key"]⟩, ⟨"age", int, []⟩]
    [.struct ⟨"Dog", [.valued "table" "dogs"], dog, fields⟩,
      .sum ⟨"Pet", [], .defined (some ref) "Pet" [], [⟨"Dog", [], dog, true, fields⟩]⟩,
      .enumeration ⟨"Mood", [], .defined (some ref) "Mood" [], .plain .int, [⟨"Calm", [], 0⟩]⟩,
      .function ⟨"Feed", [], [⟨"dog", dog⟩, ⟨[], int⟩], [int, int],
        .function [⟨"dog", dog⟩, ⟨[], int⟩] [⟨[], int⟩, ⟨[], int⟩] false⟩]

theorem kennel_identifiers :
    ∃ out, generate kennel { hidden := true, register := true } = .ok out ∧
      (claimedNames out.items).Perm out.declares ∧ out.declares.Nodup ∧
      (∀ name ∈ out.refers, name ∈ out.declares) ∧
      ∀ name ∈ out.declares, name ∉ kennel.taken := by
  have succeeds : (generate kennel { hidden := true, register := true }).isOk = true := by
    decide +kernel
  cases done : generate kennel { hidden := true, register := true } with
  | error f =>
    rw [done] at succeeds
    cases succeeds
  | ok out =>
    obtain ⟨claimed, distinct, referred, free⟩ := identifiers_declared_once done
    exact ⟨out, rfl, claimed, distinct, referred, (free rfl).1⟩

end TypeAtlas.Emit
