import Mathlib.Data.List.Perm.Basic
import TypeAtlas.Failure
import TypeAtlas.Proofs.Text.Lines

/-!
The report on a collection of faults loses nothing and repeats nothing. Its groups are collected in one
pass, into a map by kind and a list of the kinds. At every point of the pass they sort what has come in so
far, so in the end each kind has one group, the groups stand in the order in which their kinds first
occurred, and the messages of a group are those of its kind in their order.
-/

namespace TypeAtlas

/-- Entries taken out key by key are the entries with one of the keys. -/
theorem Keyed.flatMap_filter_perm {κ ν : Type} [DecidableEq κ] (entries : List (κ × ν)) {keys : List κ}
    (distinct : keys.Nodup) :
    (keys.flatMap fun k => entries.filter fun e => e.1 = k).Perm
      (entries.filter fun e => e.1 ∈ keys) := by
  induction keys with
  | nil => simp
  | cons k rest ih =>
    obtain ⟨new, distinct⟩ := List.nodup_cons.mp distinct
    have here : ((entries.filter fun e => e.1 ∈ k :: rest).filter fun e => e.1 = k) =
        entries.filter fun e => e.1 = k := by
      rw [List.filter_filter]
      refine List.filter_congr ?_
      intro e _
      by_cases same : e.1 = k <;> simp [same]
    have later : ((entries.filter fun e => e.1 ∈ k :: rest).filter fun e => !decide (e.1 = k)) =
        entries.filter fun e => e.1 ∈ rest := by
      rw [List.filter_filter]
      refine List.filter_congr ?_
      intro e _
      by_cases same : e.1 = k
      · simp [same, new]
      · simp [same]
    have parted := List.filter_append_perm (fun e => decide (e.1 = k))
      (entries.filter fun e => e.1 ∈ k :: rest)
    rw [here, later] at parted
    rw [List.flatMap_cons]
    exact ((ih distinct).append_left _).trans parted

namespace Failure

/-! ### Sorted by kind -/

/-- Messages with their kinds, sorted by kind: a group for every kind that occurs, in the order of first
occurrence, with the messages of that kind in their order. -/
structure IsGrouping (items : List (FaultKind × Text)) (groups : List (FaultKind × List Text)) :
    Prop where
  kinds : ∀ k, k ∈ groups.map Prod.fst ↔ k ∈ items.map Prod.fst
  order : (groups.map Prod.fst).Pairwise fun a b =>
    (items.map Prod.fst).idxOf a < (items.map Prod.fst).idxOf b
  messages : ∀ g ∈ groups, g.2 = (items.filter fun i => i.1 = g.1).map Prod.snd

namespace IsGrouping

variable {items : List (FaultKind × Text)} {groups : List (FaultKind × List Text)}

theorem distinct (grouping : IsGrouping items groups) : (groups.map Prod.fst).Nodup := by
  refine grouping.order.imp ?_
  rintro a _ before rfl
  exact absurd before (Nat.lt_irrefl _)

/-- All messages together are those that came in. -/
theorem perm (grouping : IsGrouping items groups) :
    (groups.flatMap Prod.snd).Perm (items.map Prod.snd) := by
  have each : groups.flatMap Prod.snd =
      ((groups.map Prod.fst).flatMap fun k => items.filter fun i => i.1 = k).map Prod.snd := by
    rw [List.map_flatMap, List.flatMap_map]
    exact List.flatMap_congr grouping.messages
  have whole : (items.filter fun i => i.1 ∈ groups.map Prod.fst) = items := by
    refine List.filter_eq_self.mpr ?_
    intro i member
    exact decide_eq_true ((grouping.kinds i.1).mpr (List.mem_map_of_mem member))
  rw [each]
  have parted := Keyed.flatMap_filter_perm items grouping.distinct
  rw [whole] at parted
  exact parted.map Prod.snd

theorem ne_nil (grouping : IsGrouping items groups) (filled : items ≠ []) : groups ≠ [] := by
  rintro rfl
  obtain ⟨i, rest, rfl⟩ := List.exists_cons_of_ne_nil filled
  cases (grouping.kinds i.1).mpr List.mem_cons_self

end IsGrouping

/-! ### One pass -/

/-- What the groups hold after a pass over the items. -/
structure Groups.Holds (g : Groups) (items : List (FaultKind × Text)) : Prop where
  kinds : ∀ k, k ∈ g.kinds ↔ k ∈ items.map Prod.fst
  order : g.kinds.Pairwise fun a b => (items.map Prod.fst).idxOf a < (items.map Prod.fst).idxOf b
  messages : ∀ k, g.messages.get? k =
    if k ∈ items.map Prod.fst then some ((items.filter fun i => i.1 = k).map Prod.snd) else none

namespace Groups.Holds

theorem empty : Holds {} [] where
  kinds k := by simp
  order := .nil
  messages k := by simp

theorem isNone_iff {g : Groups} {items : List (FaultKind × Text)} (holds : g.Holds items)
    (k : FaultKind) : (g.messages.get? k).isNone = true ↔ k ∉ items.map Prod.fst := by
  rw [holds.messages]
  split
  · rename_i seen
    simp [seen]
  · rename_i new
    simp [new]

theorem add {g : Groups} {items : List (FaultKind × Text)} (before : g.Holds items)
    (item : FaultKind × Text) : (g.add item).Holds (items ++ [item]) := by
  have seen {k : FaultKind} (member : k ∈ g.kinds) :
      ((items ++ [item]).map Prod.fst).idxOf k = (items.map Prod.fst).idxOf k := by
    rw [List.map_append, List.idxOf_append_of_mem ((before.kinds k).mp member)]
  have kept : g.kinds.Pairwise fun a b =>
      ((items ++ [item]).map Prod.fst).idxOf a < ((items ++ [item]).map Prod.fst).idxOf b := by
    refine before.order.imp_of_mem ?_
    intro a b first second lower
    rw [seen first, seen second]
    exact lower
  constructor
  · intro k
    simp only [Groups.add, before.isNone_iff, List.map_append, List.map_cons, List.map_nil,
      List.mem_append, List.mem_singleton]
    split
    · rw [List.mem_append, before.kinds, List.mem_singleton]
    · rename_i old
      rw [before.kinds]
      refine (or_iff_left_of_imp ?_).symm
      rintro rfl
      exact Classical.not_not.mp old
  · simp only [Groups.add, before.isNone_iff]
    split
    · rename_i new
      refine List.pairwise_append.mpr ⟨kept, List.pairwise_singleton .., ?_⟩
      intro a member b last
      obtain rfl := List.mem_singleton.mp last
      -- A new kind first occurs with the new item, after all the others.
      rw [seen member, List.map_append, List.idxOf_append_of_notMem new]
      exact Nat.lt_add_right _ (List.idxOf_lt_length_iff.mpr ((before.kinds a).mp member))
    · exact kept
  · intro k
    simp only [Groups.add, Keyed.get?_set, before.messages]
    by_cases same : item.1 = k
    · subst same
      by_cases old : item.1 ∈ items.map Prod.fst
      · simp [old]
      · have none : (items.filter fun i => i.1 = item.1) = [] := by
          refine List.filter_eq_nil_iff.mpr ?_
          intro i member same
          exact old (of_decide_eq_true same ▸ List.mem_map_of_mem member)
        simp [old, none]
    · have kinds : k ∈ (items ++ [item]).map Prod.fst ↔ k ∈ items.map Prod.fst := by
        rw [List.map_append, List.mem_append, List.map_singleton, List.mem_singleton]
        exact or_iff_left (Ne.symm same)
      simp only [kinds]
      simp [same]

theorem foldl {g : Groups} {items : List (FaultKind × Text)} (before : g.Holds items)
    (more : List (FaultKind × Text)) : (more.foldl Groups.add g).Holds (items ++ more) := by
  induction more generalizing g items with
  | nil => simpa using before
  | cons item rest ih => simpa using ih (before.add item)

theorem grouping {g : Groups} {items : List (FaultKind × Text)} (holds : g.Holds items) :
    IsGrouping items g.toList := by
  have kinds : g.toList.map Prod.fst = g.kinds := by
    rw [Groups.toList, List.map_map]
    exact List.map_id _
  constructor
  · rw [kinds]
    exact holds.kinds
  · rw [kinds]
    exact holds.order
  · intro group member
    obtain ⟨k, listed, rfl⟩ := List.mem_map.mp member
    rw [holds.messages, if_pos ((holds.kinds k).mp listed), Option.getD_some]

end Groups.Holds

theorem grouped_isGrouping (items : List (FaultKind × Text)) : IsGrouping items (grouped items) := by
  have holds := Groups.Holds.empty.foldl items
  rw [List.nil_append] at holds
  exact holds.grouping

/-! ### Writing the groups -/

theorem groupText_endsLine (group : FaultKind × List Text) : Text.EndsLine (groupText group) := by
  have lines : groupText group = (("\n  " ++ group.1.name ++ ":\n" : Text) ::
      group.2.map fun m => ("    - " ++ m ++ "\n" : Text)).flatten := by
    rw [List.flatten_cons, ← List.flatMap_def]
    rfl
  rw [lines]
  refine Text.EndsLine.flatten (List.cons_ne_nil _ _) ?_
  intro line member
  rcases List.mem_cons.mp member with rfl | message
  · exact Text.EndsLine.append ⟨":", rfl⟩ _
  · obtain ⟨m, _, rfl⟩ := List.mem_map.mp message
    exact ⟨_, rfl⟩

theorem labelled_eq (faults : List Fault) : labelled faults = faults.map fun f => (f.kind, f.text) := by
  induction faults with
  | nil => rfl
  | cons f rest ih => rw [labelled, List.map_cons, ih]

theorem collected_eq (found : List (Option Fault)) : collected found = found.filterMap id := by
  have appended (faults : List Fault) : found.foldl add faults = faults ++ found.filterMap id := by
    induction found generalizing faults with
    | nil => simp
    | cons f rest ih =>
      rw [List.foldl_cons, ih]
      cases f <;> simp [add]
  exact appended []

/-- The line over a report. -/
def header (subject : Text) (count : Nat) : Text :=
  subject ++ ": " ++ Text.ofNat count ++ " violation(s):\n"

/-- A report is its header and all of its groups, short of the last line break. -/
theorem collection_eq (subject : Text) {items : List (FaultKind × Text)} (filled : items ≠ []) :
    collection subject items ++ "\n" =
      header subject items.length ++ (grouped items).flatMap groupText := by
  have groups : grouped items ≠ [] := (grouped_isGrouping items).ne_nil filled
  have ends : Text.EndsLine ((grouped items).flatMap groupText) := by
    rw [List.flatMap_def]
    refine Text.EndsLine.flatten (by simpa using groups) ?_
    intro text member
    obtain ⟨group, _, rfl⟩ := List.mem_map.mp member
    exact groupText_endsLine group
  have whole : collection subject items =
      header subject items.length ++ ((grouped items).flatMap groupText).dropLast := by
    rw [collection, if_neg (by simpa using filled)]
    rfl
  rw [whole, List.append_assoc]
  exact congrArg (header subject items.length ++ ·) ends.dropLast_append

/-- A series of checks that finds anything is reported in full: the failure has the faults that were found,
in order; its text, with the line break that it lacks at the end, is a header with their number and a group
for each kind of fault, in the order in which the kinds first occurred, each with the messages of the faults
of that kind in their order; so the messages listed are those of all faults, rearranged. -/
theorem report_regroups (subject : Text) {found : List (Option Fault)} (filled : collected found ≠ []) :
    let faults := found.filterMap id
    ofFaults subject (collected found) = .error (.violations subject faults) ∧
      ∃ groups, IsGrouping (faults.map fun f => (f.kind, f.text)) groups ∧
        (Failure.violations subject faults).text ++ "\n" =
          header subject faults.length ++ groups.flatMap groupText ∧
        (groups.flatMap Prod.snd).Perm (faults.map Fault.text) := by
  intro faults
  have same : collected found = faults := collected_eq found
  rw [same] at filled ⊢
  have grouping := grouped_isGrouping (faults.map fun f => (f.kind, f.text))
  refine ⟨?_, _, grouping, ?_, ?_⟩
  · rw [ofFaults, if_neg (by simpa using filled)]
  · have items : (faults.map fun f => (f.kind, f.text)) ≠ [] := by simpa using filled
    have written := collection_eq subject items
    rw [List.length_map] at written
    rw [Failure.text, labelled_eq]
    exact written
  · have rearranged := grouping.perm
    rw [List.map_map] at rearranged
    exact rearranged

/-- Two members with a wrong index, one between them that is not aligned, and one that is in order. -/
def panelFaults : List (Option Fault) := [
  some (.indexMismatch .validate ["atlas.Panel", "Dial"] 1 0),
  some (.misaligned .validate ["atlas.Panel", "Lamp"] "int64" 4 8),
  none,
  some (.indexMismatch .validate ["atlas.Panel", "Bell"] 0 2)]

theorem panelFaults_report :
    collected panelFaults ≠ [] ∧ ∃ groups,
      IsGrouping ((panelFaults.filterMap id).map fun f => (f.kind, f.text)) groups ∧
        (Failure.violations "atlas.Panel" (panelFaults.filterMap id)).text ++ "\n" =
          header "atlas.Panel" 3 ++ groups.flatMap groupText ∧
        (groups.flatMap Prod.snd).length = 3 := by
  have filled : collected panelFaults ≠ [] := by simp [collected_eq, panelFaults]
  obtain ⟨_, groups, grouping, written, rearranged⟩ := report_regroups "atlas.Panel" filled
  exact ⟨filled, groups, grouping, written, rearranged.length_eq⟩

end Failure

end TypeAtlas
