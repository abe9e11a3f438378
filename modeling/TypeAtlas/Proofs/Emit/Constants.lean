import Mathlib.Data.List.Induction
import Mathlib.Data.List.Nodup
import TypeAtlas.Proofs.Emit.Plan

/-!
The constants of an enumeration and those that repeat a value. Of the constants that can be seen, the first of
each value is described and the others are left out, so that no value is lost and none occurs twice among the
cases that find a discriminant. What can be seen comes first: a hidden constant that stands before an exported
one of the same value takes its place where hidden members are described, and nowhere else.
-/

namespace TypeAtlas.Emit

open Source Model

/-! ### The first constant of each value -/

/-- The constants whose value no earlier one has, in their order. -/
def leaders (constants : List Constant) : List Constant :=
  (constants.zipIdx.filter fun (c, i) => (constants.take i).all (·.value != c.value)).map Prod.fst

theorem leaders_concat (constants : List Constant) (c : Constant) :
    leaders (constants ++ [c]) =
      leaders constants ++ if constants.all (·.value != c.value) then [c] else [] := by
  have before : (constants.zipIdx.filter fun (d, i) => ((constants ++ [c]).take i).all (·.value != d.value)) =
      constants.zipIdx.filter fun (d, i) => (constants.take i).all (·.value != d.value) := by
    apply List.filter_congr
    rintro ⟨d, i⟩ member
    have early : i < constants.length := List.snd_lt_of_mem_zipIdx member
    simp only [List.take_append_of_le_length (Nat.le_of_lt early)]
  rw [leaders, List.zipIdx_append, List.filter_append, before, List.map_append, leaders]
  congr 1
  simp only [List.zipIdx_singleton, Nat.zero_add, List.filter_cons, List.filter_nil, List.take_left]
  split <;> rfl

theorem firstOfEachValue_concat (constants : List Constant) (c : Constant) :
    firstOfEachValue (constants ++ [c]) =
      if (firstOfEachValue constants).any (·.value == c.value) then firstOfEachValue constants
      else firstOfEachValue constants ++ [c] := by
  rw [firstOfEachValue, List.foldl_append]
  rfl

/-- No value is lost. -/
theorem mem_values_firstOfEachValue {constants : List Constant} {value : Int} :
    value ∈ (firstOfEachValue constants).map (·.value) ↔ value ∈ constants.map (·.value) := by
  induction constants using List.reverseRecOn with
  | nil => rfl
  | append_singleton constants c ih =>
    rw [firstOfEachValue_concat, List.map_append, List.mem_append, ← ih]
    split
    · rename_i kept
      rw [iff_self_or]
      intro last
      simpa [List.mem_singleton.mp last] using kept
    · rw [List.map_append, List.mem_append]

theorem any_firstOfEachValue (constants : List Constant) (value : Int) :
    (firstOfEachValue constants).any (·.value == value) = constants.any (·.value == value) := by
  have same := @mem_values_firstOfEachValue constants value
  rw [Bool.eq_iff_iff]
  simpa using same

theorem firstOfEachValue_eq_leaders (constants : List Constant) :
    firstOfEachValue constants = leaders constants := by
  induction constants using List.reverseRecOn with
  | nil => rfl
  | append_singleton constants c ih =>
    rw [firstOfEachValue_concat, leaders_concat, any_firstOfEachValue, ih, List.all_eq_not_any_not]
    simp only [bne, Bool.not_not]
    cases constants.any (·.value == c.value) with
    | true => simp
    | false => simp

theorem values_firstOfEachValue_nodup (constants : List Constant) :
    ((firstOfEachValue constants).map (·.value)).Nodup := by
  induction constants using List.reverseRecOn with
  | nil => exact List.nodup_nil
  | append_singleton constants c ih =>
    rw [firstOfEachValue_concat]
    split
    · exact ih
    · rename_i new
      rw [List.map_append]
      refine List.nodup_append_comm.mp (List.nodup_cons.mpr ⟨?_, ih⟩)
      simpa using new

/-! ### Seen constants -/

/-- The constants that can be seen: all of them where hidden members are described, which is at home only, and
the exported ones otherwise. -/
def Viewpoint.visible (v : Viewpoint) (e : Enumeration) : List Constant :=
  if v.hidden && !v.foreign then e.constants else e.constants.filter (isExported ·.name)

theorem Viewpoint.constants_eq (v : Viewpoint) (e : Enumeration) :
    v.constants e = firstOfEachValue (v.visible e) := by
  rw [constants, visible]
  congr 1
  split
  · rename_i whole
    rw [Bool.and_comm] at whole
    simp [sees, whole]
  · rename_i part
    rw [Bool.and_comm, Bool.not_eq_true] at part
    simp [sees, part]

/-! ### What is written for them -/

/-- The descriptors that an item lists as members. -/
def Item.listed : Item → List Text
  | .members _ _ names => names
  | _ => []

/-- The identifiers that the statement of a case lists. -/
def caseNames : Code → List Text
  | .text t :: rest =>
    if t = ("case " : Text) then
      rest.filterMap fun
        | .source name => some name
        | _ => none
    else []
  | _ => []

/-- The identifiers in the cases of a method. -/
def Item.cases : Item → List Text
  | .method _ _ body => body.flatMap caseNames
  | _ => []

/-- The items have a descriptor for the enumeration and for each of the constants, in their order. The list of
members has these descriptors, and the cases that find a discriminant have these constants. -/
structure DescribesConstants (v : Viewpoint) (e : Enumeration) (constants : List Constant)
    (items : List Item) : Prop where
  descriptors : descriptors items = (enumerationDescriptor v e, v.display e.name) ::
    constants.map fun c => (v.variantName e.name c.name, v.display c.name)
  members : items.flatMap Item.listed = constants.map fun c => v.variantName e.name c.name
  cases : items.flatMap Item.cases = constants.map (·.name)

@[simp] theorem listed_descriptor (name subject : Text) (needs : Code) :
    (Item.descriptor name subject needs).listed = [] := rfl

@[simp] theorem listed_method (receiver : Text) (signature : Code) (body : List Code) :
    (Item.method receiver signature body).listed = [] := rfl

@[simp] theorem listed_accessor (d : Text) (signature value : Code) :
    (accessor d signature value).listed = [] := rfl

@[simp] theorem cases_descriptor (name subject : Text) (needs : Code) :
    (Item.descriptor name subject needs).cases = [] := rfl

@[simp] theorem cases_method (receiver : Text) (signature : Code) (body : List Code) :
    (Item.method receiver signature body).cases = body.flatMap caseNames := rfl

@[simp] theorem cases_accessor (d : Text) (signature value : Code) :
    (accessor d signature value).cases = [] := by
  have word : ("return " : Text) ≠ "case " := by decide
  simp [accessor, caseNames, word]

@[simp] theorem listed_memberItems (d : Text) (kind : MemberKind) (names : List Text) :
    (memberItems d kind names).flatMap Item.listed = names := by
  unfold memberItems
  split
  · rename_i empty
    exact (List.isEmpty_iff.mp empty).symm
  · simp [Item.listed]

@[simp] theorem cases_memberItems (d : Text) (kind : MemberKind) (names : List Text) :
    (memberItems d kind names).flatMap Item.cases = [] := by
  unfold memberItems
  split <;> simp [Item.cases]

@[simp] theorem listed_memberMethods (d : Text) (kind : MemberKind) (names : List Text) :
    (memberMethods d kind names).flatMap Item.listed = [] := by
  unfold memberMethods
  split <;> simp

@[simp] theorem cases_memberMethods (d : Text) (kind : MemberKind) (names : List Text) :
    (memberMethods d kind names).flatMap Item.cases = [] := by
  unfold memberMethods
  split <;> simp

@[simp] theorem plain_attributeItems (d : Text) (attrs : List Attribute) :
    (attributeItems d attrs).flatMap Item.listed = [] ∧ (attributeItems d attrs).flatMap Item.cases = [] := by
  unfold attributeItems
  split <;> simp [Item.listed, Item.cases]

@[simp] theorem plain_attributeMethods (d : Text) (attrs : List Attribute) :
    (attributeMethods d attrs).flatMap Item.listed = [] ∧
      (attributeMethods d attrs).flatMap Item.cases = [] := by
  unfold attributeMethods
  split <;> simp

@[simp] theorem plain_headMethods (v : Viewpoint) (d kind name : Text) (attrs : List Attribute) (type : Code) :
    (headMethods v d kind name attrs type).flatMap Item.listed = [] ∧
      (headMethods v d kind name attrs type).flatMap Item.cases = [] := by
  simp [headMethods]

theorem listed_enumItems (v : Viewpoint) (d name : Text) (attrs : List Attribute) (integer : List Item)
    (variants : List Text) (cases : List Code) :
    (enumItems v d name attrs integer variants cases).flatMap Item.listed =
      variants ++ integer.flatMap Item.listed := by
  simp [enumItems]

theorem cases_enumItems (v : Viewpoint) (d name : Text) (attrs : List Attribute) (integer : List Item)
    (variants : List Text) (cases : List Code) :
    (enumItems v d name attrs integer variants cases).flatMap Item.cases =
      integer.flatMap Item.cases ++ cases.flatMap caseNames := by
  have word : ("return " : Text) ≠ "case " := by decide
  simp [enumItems, caseNames, word]

theorem plain_constantItems (v : Viewpoint) (e : Enumeration) (c : Constant) :
    (constantItems v e c).flatMap Item.listed = [] ∧ (constantItems v e c).flatMap Item.cases = [] := by
  have words : ("v := " : Text) ≠ "case " ∧ ("return uint64(v), true" : Text) ≠ "case " ∧
      ("return " : Text) ≠ "case " := by decide
  simp [constantItems, variantMethods, caseNames, words]

theorem caseNames_separated (constants : List Constant) :
    caseNames (("case " : Code) ++ separated (constants.map fun c => [.source c.name]) ++ (":" : Code)) =
      constants.map (·.name) := by
  have names : (separated (constants.map fun c => [.source c.name])).filterMap
      (fun | .source name => some name | _ => none) = constants.map (·.name) := by
    induction constants with
    | nil => rfl
    | cons c rest ih =>
      cases rest with
      | nil => rfl
      | cons d rest => simpa [separated] using ih
  simp [caseNames, names]

theorem describesConstants (v : Viewpoint) (e : Enumeration) :
    DescribesConstants v e (v.constants e) (items v (.enumeration e)) := by
  have plain (constants : List Constant) :
      (constants.flatMap (constantItems v e)).flatMap Item.listed = [] ∧
        (constants.flatMap (constantItems v e)).flatMap Item.cases = [] := by
    simp [List.flatMap_assoc, plain_constantItems]
  constructor
  case descriptors =>
    rw [descriptors_items]
    rfl
  case members =>
    rw [items, enumerationItems, List.flatMap_append, listed_enumItems, (plain _).1]
    simp
  case cases =>
    have words : ("switch v \x7b" : Text) ≠ "case " ∧ ("return " : Text) ≠ "case " ∧
        ("\x7d" : Text) ≠ "case " := by decide
    rw [items, enumerationItems, List.flatMap_append, cases_enumItems, (plain _).2, List.append_nil]
    split
    · rename_i none
      simp [List.isEmpty_iff.mp none]
    · have listed := caseNames_separated (v.constants e)
      simp only [List.flatMap_cons, List.flatMap_nil, cases_accessor, listed]
      simp [caseNames, words]

/-- Constants that repeat a value are left out, and no value with them. What is described of an enumeration are
the visible constants whose value no earlier visible one has, in their order. So no two of them have the same
value, among the cases neither, and the value of every visible constant is that of exactly one of them. -/
theorem repeated_values_left_out (v : Viewpoint) (e : Enumeration) :
    DescribesConstants v e (leaders (v.visible e)) (items v (.enumeration e)) ∧
      ((leaders (v.visible e)).map (·.value)).Nodup ∧
      ∀ c ∈ v.visible e, ((leaders (v.visible e)).map (·.value)).count c.value = 1 := by
  have described := describesConstants v e
  rw [v.constants_eq, firstOfEachValue_eq_leaders] at described
  have distinct := values_firstOfEachValue_nodup (v.visible e)
  refine ⟨described, firstOfEachValue_eq_leaders (v.visible e) ▸ distinct, ?_⟩
  intro c seen
  rw [← firstOfEachValue_eq_leaders]
  exact List.count_eq_one_of_mem distinct
    (mem_values_firstOfEachValue.mpr (List.mem_map.mpr ⟨c, seen, rfl⟩))

/-- Moods with two names for one value, the first of them hidden, and one more name for another. -/
def moods : Enumeration where
  name := "Mood"
  attrs := []
  type := .defined (some ⟨"example.com/pets", "pets"⟩) "Mood" []
  integer := .plain .int8
  constants := [⟨"calm", [], 0⟩, ⟨"Angry", [], 1⟩, ⟨"Calm", [], 0⟩, ⟨"Cross", [], 1⟩]

/-- The package of the moods from within, with or without what is hidden, or from another package. -/
def moodView (foreign hidden : Bool) : Viewpoint :=
  ⟨⟨"example.com/pets", "pets"⟩, foreign, hidden⟩

theorem moods_described :
    ((items (moodView true false) (.enumeration moods)).flatMap Item.cases = ["Angry", "Calm"] ∧
      (items (moodView false true) (.enumeration moods)).flatMap Item.cases = ["calm", "Angry"]) ∧
    (⟨"Cross", [], 1⟩ ∈ (moodView false true).visible moods ∧
      ((leaders ((moodView false true).visible moods)).map (·.value)).count 1 = 1) := by
  obtain ⟨abroad, _, _⟩ := repeated_values_left_out (moodView true false) moods
  obtain ⟨home, _, once⟩ := repeated_values_left_out (moodView false true) moods
  have seen : ⟨"Cross", [], 1⟩ ∈ (moodView false true).visible moods := by
    simp [Viewpoint.visible, moodView, moods]
  exact ⟨⟨abroad.cases.trans (by decide), home.cases.trans (by decide)⟩, seen, once _ seen⟩

end TypeAtlas.Emit
