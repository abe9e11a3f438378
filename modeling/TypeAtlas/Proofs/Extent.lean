import Mathlib.Algebra.Group.Nat.Defs
import TypeAtlas.TypeRep

/-!
Placement in exact arithmetic. Members laid out one after another keep their order, stay apart and end
inside the record they make; `InOrder` says so for any list of pieces, whoever placed them.
-/

namespace TypeAtlas

theorem roundUp_mod_eq_zero (n align : Nat) : roundUp n align % align = 0 :=
  Nat.mul_mod_left _ _

theorem le_roundUp (n : Nat) {align : Nat} (positive : 0 < align) : n ≤ roundUp n align := by
  have whole := Nat.div_add_mod (n + align - 1) align
  have rest := Nat.mod_lt (n + align - 1) positive
  rw [Nat.mul_comm] at whole
  unfold roundUp
  omega

/-- Rounding does not pass a multiple. -/
theorem roundUp_le {n limit align : Nat} (positive : 0 < align) (below : n ≤ limit)
    (multiple : limit % align = 0) : roundUp n align ≤ limit := by
  obtain ⟨q, rfl⟩ := Nat.dvd_of_mod_eq_zero multiple
  have quotient : (n + align - 1) / align < q + 1 := by
    rw [Nat.div_lt_iff_lt_mul positive, Nat.add_mul, Nat.one_mul, Nat.mul_comm q]
    omega
  calc roundUp n align
    _ ≤ q * align := Nat.mul_le_mul_right align (Nat.le_of_lt_succ quotient)
    _ = align * q := Nat.mul_comm q align

/-! ### Pieces in order -/

/-- Pieces, each an offset and a size, that follow one another without overlap from `start` on and end
at `limit` at the latest. -/
def InOrder (start limit : Nat) : List (Nat × Nat) → Prop
  | [] => start ≤ limit
  | (offset, size) :: rest => start ≤ offset ∧ InOrder (offset + size) limit rest

namespace InOrder

theorem start_le {start limit : Nat} {pieces : List (Nat × Nat)} (ordered : InOrder start limit pieces) :
    start ≤ limit := by
  induction pieces generalizing start with
  | nil => exact ordered
  | cons piece rest ih =>
    have later := ih ordered.2
    have first := ordered.1
    omega

theorem weaken {start limit limit' : Nat} {pieces : List (Nat × Nat)}
    (ordered : InOrder start limit pieces) (bound : limit ≤ limit') : InOrder start limit' pieces := by
  induction pieces generalizing start with
  | nil => exact Nat.le_trans ordered bound
  | cons piece rest ih => exact ⟨ordered.1, ih ordered.2⟩

theorem bounds {start limit offset size : Nat} {pieces : List (Nat × Nat)}
    (ordered : InOrder start limit pieces) (member : (offset, size) ∈ pieces) :
    start ≤ offset ∧ offset + size ≤ limit := by
  induction pieces generalizing start with
  | nil => cases member
  | cons piece rest ih =>
    rcases List.mem_cons.mp member with rfl | member
    · exact ⟨ordered.1, ordered.2.start_le⟩
    · have later := ih ordered.2 member
      have first := ordered.1
      exact ⟨by omega, later.2⟩

end InOrder

/-! ### Members of a record -/

namespace Extent

@[simp]
theorem length_offsetsFrom (start : Nat) (members : List Extent) :
    (offsetsFrom start members).length = members.length := by
  induction members generalizing start with
  | nil => rfl
  | cons e rest ih => simp only [offsetsFrom, List.length_cons, ih]

theorem maxAlign_pos (members : List Extent) : 0 < maxAlign members := by
  induction members with
  | nil => exact Nat.one_pos
  | cons e rest ih => exact Nat.lt_of_lt_of_le ih (Nat.le_max_right _ _)

theorem le_maxAlign {e : Extent} {members : List Extent} (member : e ∈ members) :
    e.align ≤ maxAlign members := by
  induction members with
  | nil => cases member
  | cons first rest ih =>
    rcases List.mem_cons.mp member with rfl | later
    · exact Nat.le_max_left _ _
    · exact Nat.le_trans (ih later) (Nat.le_max_right _ _)

theorem offsetsFrom_inOrder (start : Nat) {members : List Extent}
    (positive : ∀ e ∈ members, 0 < e.align) :
    InOrder start (endFrom start members)
      ((offsetsFrom start members).zip (members.map Extent.size)) := by
  induction members generalizing start with
  | nil => exact Nat.le_refl start
  | cons e rest ih =>
    exact ⟨le_roundUp start (positive e List.mem_cons_self),
      ih _ fun other member => positive other (List.mem_cons_of_mem _ member)⟩

/-- A record ends no earlier than its last member. -/
theorem endFrom_le_record (members : List Extent) : endFrom 0 members ≤ (record members).size := by
  have stop (n : Nat) (later : endFrom 0 members ≤ n) :
      endFrom 0 members ≤ roundUp n (maxAlign members) :=
    Nat.le_trans later (le_roundUp n (maxAlign_pos members))
  simp only [record]
  split
  · split
    · exact stop _ (Nat.le_succ _)
    · exact stop _ (Nat.le_refl _)
  · exact stop _ (Nat.le_refl _)

end Extent

namespace TypeRep

theorem extents_eq_map (fields : List (Member TypeRep)) :
    extents fields = fields.map fun m => m.type.extent := by
  induction fields with
  | nil => rfl
  | cons m rest ih => simp only [extents, ih, List.map_cons]

theorem align_pos : (t : TypeRep) → 0 < t.align
  | .primitive p => by cases p <;> decide
  | .named _ d => by simpa only [align, extent] using d.align_pos
  | .pointer _ | .map .. | .channel .. | .function .. | .slice _ => by simp [align, extent]
  | .array n e => by simpa only [align, extent, Extent.times] using e.align_pos
  | .struct fields => by
    simp only [align, extent, Extent.record]
    exact Extent.maxAlign_pos _

theorem size_mod_align : (t : TypeRep) → t.size % t.align = 0
  | .primitive p => by cases p <;> rfl
  | .named _ d => by simpa only [size, align, extent] using d.size_mod_align
  | .pointer _ | .map .. | .channel .. | .function .. | .slice _ => by simp [size, align, extent]
  | .array n e => by
    have element := e.size_mod_align
    simp only [size, align, extent, Extent.times] at element ⊢
    rw [Nat.mul_mod, element, Nat.mul_zero, Nat.zero_mod]
  | .struct fields => by
    simp only [size, align, extent, Extent.record]
    exact roundUp_mod_eq_zero _ _

mutual

/-- Addresses are multiples of a small power of two. -/
theorem exists_align_eq_two_pow : (t : TypeRep) → ∃ b ≤ 3, t.align = 2 ^ b
  | .primitive p => by cases p <;> decide
  | .named _ d => by simpa only [align, extent] using d.exists_align_eq_two_pow
  | .pointer _ | .map .. | .channel .. | .function .. | .slice _ => ⟨3, by decide, rfl⟩
  | .array n e => by simpa only [align, extent, Extent.times] using e.exists_align_eq_two_pow
  | .struct fields => by
    simpa only [align, extent, Extent.record] using exists_maxAlign_eq_two_pow fields

theorem exists_maxAlign_eq_two_pow : (fields : List (Member TypeRep)) →
    ∃ b ≤ 3, Extent.maxAlign (extents fields) = 2 ^ b
  | [] => ⟨0, by decide, rfl⟩
  | ⟨_, t, _⟩ :: rest => by
    obtain ⟨b, small, first⟩ := t.exists_align_eq_two_pow
    obtain ⟨c, small', others⟩ := exists_maxAlign_eq_two_pow rest
    rw [align] at first
    refine ⟨max b c, by omega, ?_⟩
    rw [extents, Extent.maxAlign, first, others]
    rcases Nat.le_total b c with below | above
    · rw [Nat.max_eq_right below, Nat.max_eq_right (Nat.pow_le_pow_right (by decide) below)]
    · rw [Nat.max_eq_left above, Nat.max_eq_left (Nat.pow_le_pow_right (by decide) above)]

end

@[simp]
theorem length_offsets (fields : List (Member TypeRep)) : (offsets fields).length = fields.length := by
  simp [offsets, extents_eq_map]

/-- The fields of a struct follow one another without overlap inside it. -/
theorem placedFields_inOrder (fields : List (Member TypeRep)) :
    InOrder 0 (TypeRep.struct fields).size
      ((placedFields fields).map fun x => (x.2, x.1.type.size)) := by
  have positive : ∀ e ∈ extents fields, 0 < e.align := by
    intro e member
    rw [extents_eq_map] at member
    obtain ⟨m, _, rfl⟩ := List.mem_map.mp member
    exact m.type.align_pos
  have pieces : (placedFields fields).map (fun x => (x.2, x.1.type.size)) =
      (offsets fields).zip ((extents fields).map Extent.size) := by
    apply List.ext_getElem
    · simp [placedFields, extents_eq_map]
    · intro i _ _
      simp [placedFields, extents_eq_map, size]
  rw [pieces]
  apply (Extent.offsetsFrom_inOrder 0 positive).weaken
  simpa only [size, extent] using Extent.endFrom_le_record (extents fields)

theorem placedField_inside {fields : List (Member TypeRep)} {m : Member TypeRep} {o : Nat}
    (member : (m, o) ∈ placedFields fields) : o + m.type.size ≤ (TypeRep.struct fields).size :=
  ((placedFields_inOrder fields).bounds (List.mem_map.mpr ⟨_, member, rfl⟩)).2

theorem exists_placedField {fields : List (Member TypeRep)} {m : Member TypeRep} (found : m ∈ fields) :
    ∃ o, (m, o) ∈ placedFields fields := by
  have members : (placedFields fields).map Prod.fst = fields :=
    List.map_fst_zip (Nat.le_of_eq (length_offsets fields).symm)
  rw [← members] at found
  obtain ⟨⟨_, o⟩, member, rfl⟩ := List.mem_map.mp found
  exact ⟨o, member⟩

/-- The type behind its names takes the same place. -/
theorem extent_underlying : (t : TypeRep) → t.underlying.extent = t.extent
  | .named _ d => by simpa only [underlying, extent] using d.extent_underlying
  | .primitive _ | .pointer _ | .map .. | .channel .. | .function .. | .slice _ | .array .. | .struct _ =>
    rfl

theorem size_underlying (t : TypeRep) : t.underlying.size = t.size := by
  simp only [size, extent_underlying]

end TypeRep

end TypeAtlas
