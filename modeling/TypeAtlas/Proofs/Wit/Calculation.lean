import TypeAtlas.Proofs.Wit.Agreement

/-!
The calculator against the canonical layout. A layout whose exact size is a number of 32 bits is computed
without a sum wrapping, and what the calculator remembers for a label is the layout of the definition
with that label. The sizes are the canonical ones throughout. So are the alignments, with one exception:
33 to 64 flags are placed like a number of 64 bits, although they are two words of 32.
-/

namespace TypeAtlas

/-! ### Members inside the whole -/

namespace Extent

theorem le_endFrom (start : Nat) {members : List Extent} (positive : ∀ e ∈ members, 0 < e.align) :
    start ≤ endFrom start members :=
  (offsetsFrom_inOrder start positive).start_le

theorem size_le_endFrom (start : Nat) {members : List Extent} (positive : ∀ e ∈ members, 0 < e.align)
    {e : Extent} (member : e ∈ members) : e.size ≤ endFrom start members := by
  induction members generalizing start with
  | nil => cases member
  | cons first rest ih =>
    have others : ∀ e ∈ rest, 0 < e.align := fun e later => positive e (List.mem_cons_of_mem _ later)
    rcases List.mem_cons.mp member with rfl | later
    · exact Nat.le_trans (Nat.le_add_left _ _) (le_endFrom _ others)
    · exact ih _ others later

theorem endFrom_le_packed (members : List Extent) : endFrom 0 members ≤ (packed members).size :=
  le_roundUp _ (maxAlign_pos members)

theorem size_le_maxSize {payloads : List Extent} {e : Extent} (member : e ∈ payloads) :
    e.size ≤ maxSize payloads := by
  induction payloads with
  | nil => cases member
  | cons first rest ih =>
    rcases List.mem_cons.mp member with rfl | later
    · exact Nat.le_max_left _ _
    · exact Nat.le_trans (ih later) (Nat.le_max_right _ _)

theorem size_le_tagged (discriminant : Nat) {payloads : List Extent} {e : Extent}
    (member : e ∈ payloads) : e.size ≤ (tagged discriminant payloads).size := by
  have positive : 0 < max discriminant (maxAlign payloads) :=
    Nat.lt_of_lt_of_le (maxAlign_pos payloads) (Nat.le_max_right _ _)
  have inside := le_roundUp (roundUp discriminant (max discriminant (maxAlign payloads)) +
    maxSize payloads) positive
  have largest := size_le_maxSize member
  simp only [tagged]
  omega

end Extent

/-! ### Rows and rooms that fit -/

/-- A row is laid out exactly as soon as its exact size is a number of 32 bits. -/
theorem Placement.row_of_fits {members : List Placement}
    (alignments : ∀ p ∈ members, IsAlignment p.align)
    (fits : (Extent.packed (members.map extent)).size < 2 ^ 32) :
    (row members).extent = Extent.packed (members.map extent) ∧
      (row members).offsets.map UInt32.toNat = Extent.offsetsFrom 0 (members.map extent) := by
  have last : Extent.endFrom 0 (members.map extent) < 2 ^ 32 :=
    Nat.lt_of_le_of_lt (Extent.endFrom_le_packed _) fits
  have ordered := Row.inOrder_of_exact 0 alignments last
  obtain ⟨offsets, stop, _⟩ := Row.exact_of_inOrder 0 alignments last ordered
  have alignment : IsAlignment (Row.alignAfter 1 members) :=
    Row.alignAfter_isAlignment (.inl rfl) alignments
  have align : (Row.alignAfter 1 members).toNat = Extent.maxAlign (members.map extent) := by
    rw [Row.alignAfter_toNat 1 members (by decide)]
    exact Nat.max_eq_right (Extent.maxAlign_pos _)
  have size := alignTo_exact_of_lt alignment (Row.stopAfter 0 members) (by rw [stop, align]; exact fits)
  rw [stop, align] at size
  refine ⟨?_, offsets⟩
  simp only [Placement.extent, Extent.packed, Extent.mk.injEq]
  exact ⟨size, align⟩

namespace Room

theorem foldl_fit_isAlignment {payloads : List Placement} {r : Room} (start : IsAlignment r.align)
    (alignments : ∀ p ∈ payloads, IsAlignment p.align) :
    IsAlignment (payloads.foldl fit r).align := by
  induction payloads generalizing r with
  | nil => exact start
  | cons p rest ih =>
    rw [List.forall_mem_cons] at alignments
    exact ih (r := r.fit p) (start.max alignments.1) alignments.2

theorem foldl_fit_toNat (payloads : List Placement) (r : Room) (positive : 1 ≤ r.align.toNat) :
    (payloads.foldl fit r).size.toNat =
        max r.size.toNat (Extent.maxSize (payloads.map Placement.extent)) ∧
      (payloads.foldl fit r).align.toNat =
        max r.align.toNat (Extent.maxAlign (payloads.map Placement.extent)) := by
  induction payloads generalizing r with
  | nil => exact ⟨(Nat.max_zero _).symm, (Nat.max_eq_left positive).symm⟩
  | cons p rest ih =>
    have larger : 1 ≤ (r.fit p).align.toNat := by
      rw [fit, toNat_max]
      exact Nat.le_trans positive (Nat.le_max_left _ _)
    obtain ⟨size, align⟩ := ih (r.fit p) larger
    rw [List.foldl_cons, size, align, fit, toNat_max, toNat_max, Nat.max_assoc, Nat.max_assoc]
    exact ⟨rfl, rfl⟩

/-- So is a discriminant with its payloads. -/
theorem finish_of_fits {payloads : List Placement} (alignments : ∀ p ∈ payloads, IsAlignment p.align)
    {discriminant : UInt32} (tag : IsAlignment discriminant)
    (fits : (Extent.tagged discriminant.toNat (payloads.map Placement.extent)).size < 2 ^ 32) :
    ((payloads.foldl fit (start discriminant)).finish discriminant).extent =
      Extent.tagged discriminant.toNat (payloads.map Placement.extent) := by
  obtain ⟨size, align⟩ := foldl_fit_toNat payloads (start discriminant) tag.range.1
  have alignment := foldl_fit_isAlignment (r := start discriminant) tag alignments
  generalize payloads.foldl fit (start discriminant) = room at size align alignment
  replace size : room.size.toNat = Extent.maxSize (payloads.map Placement.extent) :=
    size.trans (Nat.zero_max _)
  simp only [start] at align
  simp only [Extent.tagged, ← align, ← size] at fits ⊢
  have first := alignTo_exact_of_room alignment discriminant (by have := tag.range; omega)
  have end_lt : roundUp discriminant.toNat room.align.toNat + room.size.toNat < 2 ^ 32 :=
    Nat.lt_of_le_of_lt (le_roundUp _ alignment.range.1) fits
  have sum : (alignTo discriminant room.align + room.size).toNat =
      roundUp discriminant.toNat room.align.toNat + room.size.toNat := by
    rw [UInt32.toNat_add, first, Nat.mod_eq_of_lt end_lt]
  have whole := alignTo_exact_of_lt alignment (alignTo discriminant room.align + room.size)
    (by rw [sum]; exact fits)
  simp only [finish, Placement.extent, Extent.mk.injEq, and_true]
  rw [whole, sum]

end Room

/-! ### Flags in the place of a number -/

namespace WitType

mutual

/-- The type with a number of 64 bits in the place of 33 to 64 flags. The elements of a list lie elsewhere
and stay as they are. -/
def widen : WitType → WitType
  | .record label fields => .record label (widenFields fields)
  | .tuple label members => .tuple label (widenMembers members)
  | .variant label cases => .variant label (widenCases cases)
  | .option label payload => .option label payload.widen
  | .result label ok error => .result label (widenPayload ok) (widenPayload error)
  | .flags label count => if 32 < count ∧ count ≤ 64 then .primitive .u64 else .flags label count
  | .alias label target => .alias label target.widen
  | w => w

def widenFields : List (WitField WitType) → List (WitField WitType)
  | [] => []
  | ⟨name, w⟩ :: rest => ⟨name, w.widen⟩ :: widenFields rest

def widenMembers : List WitType → List WitType
  | [] => []
  | w :: rest => w.widen :: widenMembers rest

def widenCases : List (Option WitType) → List (Option WitType)
  | [] => []
  | c :: rest => widenPayload c :: widenCases rest

def widenPayload : Option WitType → Option WitType
  | none => none
  | some w => some w.widen

end

mutual

/-- Nowhere in the type, lists apart, are there 33 to 64 flags. -/
def isNarrow : WitType → Bool
  | .record _ fields => areNarrowFields fields
  | .tuple _ members => areNarrow members
  | .variant _ cases => areNarrowCases cases
  | .option _ payload => payload.isNarrow
  | .result _ ok error => isNarrowPayload ok && isNarrowPayload error
  | .flags _ count => decide (count ≤ 32 ∨ 64 < count)
  | .alias _ target => target.isNarrow
  | _ => true

def areNarrowFields : List (WitField WitType) → Bool
  | [] => true
  | ⟨_, w⟩ :: rest => w.isNarrow && areNarrowFields rest

def areNarrow : List WitType → Bool
  | [] => true
  | w :: rest => w.isNarrow && areNarrow rest

def areNarrowCases : List (Option WitType) → Bool
  | [] => true
  | c :: rest => isNarrowPayload c && areNarrowCases rest

def isNarrowPayload : Option WitType → Bool
  | none => true
  | some w => w.isNarrow

end

mutual

theorem widen_of_isNarrow : (w : WitType) → w.isNarrow = true → w.widen = w
  | .absent, _ | .primitive _, _ | .enum .., _ | .list .., _ | .handle _, _ => rfl
  | .record _ fields, narrow => by rw [widen, widenFields_of_narrow fields narrow]
  | .tuple _ members, narrow => by rw [widen, widenMembers_of_narrow members narrow]
  | .variant _ cases, narrow => by rw [widen, widenCases_of_narrow cases narrow]
  | .option _ payload, narrow => by rw [widen, widen_of_isNarrow payload narrow]
  | .result _ ok error, narrow => by
    rw [isNarrow, Bool.and_eq_true] at narrow
    rw [widen, widenPayload_of_narrow ok narrow.1, widenPayload_of_narrow error narrow.2]
  | .flags _ count, narrow => by
    rw [isNarrow, decide_eq_true_eq] at narrow
    rw [widen, if_neg (by omega)]
  | .alias _ target, narrow => by rw [widen, widen_of_isNarrow target narrow]

theorem widenFields_of_narrow : (fields : List (WitField WitType)) → areNarrowFields fields = true →
    widenFields fields = fields
  | [], _ => rfl
  | ⟨_, w⟩ :: rest, narrow => by
    rw [areNarrowFields, Bool.and_eq_true] at narrow
    rw [widenFields, widen_of_isNarrow w narrow.1, widenFields_of_narrow rest narrow.2]

theorem widenMembers_of_narrow : (members : List WitType) → areNarrow members = true →
    widenMembers members = members
  | [], _ => rfl
  | w :: rest, narrow => by
    rw [areNarrow, Bool.and_eq_true] at narrow
    rw [widenMembers, widen_of_isNarrow w narrow.1, widenMembers_of_narrow rest narrow.2]

theorem widenCases_of_narrow : (cases : List (Option WitType)) → areNarrowCases cases = true →
    widenCases cases = cases
  | [], _ => rfl
  | c :: rest, narrow => by
    rw [areNarrowCases, Bool.and_eq_true] at narrow
    rw [widenCases, widenPayload_of_narrow c narrow.1, widenCases_of_narrow rest narrow.2]

theorem widenPayload_of_narrow : (payload : Option WitType) → isNarrowPayload payload = true →
    widenPayload payload = payload
  | none, _ => rfl
  | some w, narrow => by rw [widenPayload, widen_of_isNarrow w narrow]

end

/-! ### Layouts that fit -/

theorem extent_align_pos (w : WitType) : 0 < w.extent.align := by
  cases w with
  | absent | handle _ | list _ _ => simp [extent]
  | primitive p => cases p <;> decide
  | record _ _ | tuple _ _ =>
    simp only [extent, Extent.packed]
    exact Extent.maxAlign_pos _
  | variant _ cases =>
    simp only [extent]
    split
    · exact Nat.one_pos
    · exact Nat.lt_of_lt_of_le (Extent.maxAlign_pos _) (Nat.le_max_right _ _)
  | enum _ cases =>
    simp only [extent, Extent.caseBytes]
    repeat' split
    all_goals decide
  | option _ _ | result _ _ _ =>
    simp only [extent, Extent.tagged]
    exact Nat.lt_of_lt_of_le (Extent.maxAlign_pos _) (Nat.le_max_right _ _)
  | flags _ count =>
    simp only [extent, Extent.flags]
    repeat' split
    all_goals exact Nat.succ_pos _
  | «alias» _ target =>
    rw [extent]
    exact target.extent_align_pos
termination_by sizeOf w

theorem parts_extent_lt {ws : List WitType} {limit : Nat}
    (fits : (Extent.packed (ws.map extent)).size < limit) : ∀ w ∈ ws, w.extent.size < limit := by
  intro w member
  have positive : ∀ e ∈ ws.map extent, 0 < e.align := by
    intro e found
    obtain ⟨w, _, rfl⟩ := List.mem_map.mp found
    exact w.extent_align_pos
  have inside := Extent.size_le_endFrom 0 positive (List.mem_map_of_mem member)
  exact Nat.lt_of_le_of_lt (Nat.le_trans inside (Extent.endFrom_le_packed _)) fits

theorem discriminantSize_toNat (cases : Nat) :
    (discriminantSize cases).toNat = Extent.caseBytes cases := by
  have small : ((cases : Int) ≤ 256) = (cases ≤ 256) := by
    rw [eq_iff_iff]
    omega
  have medium : ((cases : Int) ≤ 65536) = (cases ≤ 65536) := by
    rw [eq_iff_iff]
    omega
  simp only [discriminantSize, Extent.caseBytes, small, medium]
  repeat' split
  all_goals rfl

theorem flags_extent {count : Nat} (narrow : count ≤ 32 ∨ 64 < count)
    (fits : (Extent.flags count).size < 2 ^ 32) : (Placement.flags count).extent = Extent.flags count := by
  unfold Extent.flags at fits ⊢
  unfold Placement.flags
  by_cases none : count = 0
  · simp only [none, if_true]
    rfl
  by_cases one : count ≤ 8
  · simp only [none, one, if_true, if_false]
    rfl
  by_cases two : count ≤ 16
  · simp only [none, one, two, if_true, if_false]
    rfl
  simp only [none, one, two, if_false] at fits ⊢
  by_cases word : count ≤ 32
  · have single : (count + 31) / 32 = 1 := by omega
    simp only [word, if_true, single]
    rfl
  · have long : ¬ count ≤ 64 := by omega
    have small : (count + 31) / 32 < 2 ^ 32 := by omega
    simp only [word, long, if_false, Placement.extent, Extent.mk.injEq]
    refine ⟨?_, rfl⟩
    rw [UInt32.toNat_mul, UInt32.toNat_ofNat_of_lt' small]
    show (count + 31) / 32 * 4 % 2 ^ 32 = _
    rw [Nat.mod_eq_of_lt (by omega), Nat.mul_comm]

theorem flags_extent_of_wide {count : Nat} (wide : 32 < count ∧ count ≤ 64) :
    (Placement.flags count).extent = ⟨8, 8⟩ := by
  unfold Placement.flags
  rw [if_neg (by omega), if_neg (by omega), if_neg (by omega), if_neg (by omega), if_pos wide.2]
  rfl

/-! ### Widening the parts -/

theorem widenFields_eq_map (fields : List (WitField WitType)) :
    widenFields fields = fields.map fun f => ⟨f.name, f.type.widen⟩ := by
  induction fields with
  | nil => rfl
  | cons f rest ih => simp only [widenFields, ih, List.map_cons]

theorem widenMembers_eq_map (members : List WitType) : widenMembers members = members.map widen := by
  induction members with
  | nil => rfl
  | cons w rest ih => simp only [widenMembers, ih, List.map_cons]

theorem widenPayload_eq_map (payload : Option WitType) : widenPayload payload = payload.map widen := by
  cases payload <;> rfl

theorem widenCases_eq_map (cases : List (Option WitType)) :
    widenCases cases = cases.map (Option.map widen) := by
  induction cases with
  | nil => rfl
  | cons c rest ih => simp only [widenCases, ih, List.map_cons, widenPayload_eq_map]

theorem IsRow.parts_widen {w : WitType} (row : w.IsRow) : w.widen.parts = w.parts.map widen := by
  rcases row with ⟨label, fields, rfl⟩ | ⟨label, members, rfl⟩
  · simp [widen, parts, widenFields_eq_map]
  · simp [widen, parts, widenMembers_eq_map]

theorem IsRow.widen {w : WitType} (row : w.IsRow) : w.widen.IsRow := by
  rcases row with ⟨label, fields, rfl⟩ | ⟨label, members, rfl⟩
  · exact .inl ⟨_, _, rfl⟩
  · exact .inr ⟨_, _, rfl⟩

/-- The bytes of the discriminant, for a type that has one. -/
def tag? : WitType → Option UInt32
  | .variant _ cases => if cases.isEmpty then none else some (discriminantSize cases.length)
  | .option .. | .result .. => some 1
  | _ => none

def payloads : WitType → List WitType
  | .variant _ cases => cases.filterMap id
  | .option _ payload => [payload]
  | .result _ ok error => ok.toList ++ error.toList
  | _ => []

theorem payloads_widen (w : WitType) : w.widen.payloads = w.payloads.map widen := by
  cases w with
  | variant label cases =>
    simp only [widen, payloads, widenCases_eq_map, List.filterMap_map, List.map_filterMap]
    rfl
  | result label ok error => cases ok <;> cases error <;> rfl
  | flags label count =>
    simp only [widen]
    split <;> rfl
  | _ => rfl

theorem tag?_widen (w : WitType) : w.widen.tag? = w.tag? := by
  cases w with
  | variant label cases => simp [widen, tag?, widenCases_eq_map]
  | flags label count =>
    simp only [widen]
    split <;> rfl
  | _ => rfl

theorem fitCase_eq (payload : Option WitType) (r : Room) :
    fitCase payload r = (payload.toList.map layout).foldl Room.fit r := by
  cases payload <;> rfl

theorem fitCases_eq (cases : List (Option WitType)) (r : Room) :
    fitCases cases r = ((cases.filterMap id).map layout).foldl Room.fit r := by
  induction cases generalizing r with
  | nil => rfl
  | cons c rest ih =>
    rw [fitCases, ih, fitCase_eq]
    cases c <;> rfl

theorem caseExtents_eq (cases : List (Option WitType)) :
    caseExtents cases = (cases.filterMap id).map extent := by
  induction cases with
  | nil => rfl
  | cons c rest ih =>
    rw [caseExtents, ih]
    cases c <;> rfl

theorem layout_of_tag {w : WitType} {tag : UInt32} (tagged : w.tag? = some tag) :
    IsAlignment tag ∧ w.layout = ((w.payloads.map layout).foldl Room.fit (.start tag)).finish tag := by
  cases w with
  | variant label cases =>
    rw [tag?] at tagged
    split at tagged
    · cases tagged
    · rename_i some
      cases tagged
      rw [layout, if_neg some, fitCases_eq]
      exact ⟨discriminantSize_isAlignment _, rfl⟩
  | option label payload =>
    cases tagged
    exact ⟨.inl rfl, rfl⟩
  | result label ok error =>
    cases tagged
    rw [layout, fitCase_eq, fitCase_eq, ← List.foldl_append, ← List.map_append]
    exact ⟨.inl rfl, rfl⟩
  | _ => cases tagged

theorem extent_of_tag {w : WitType} {tag : UInt32} (tagged : w.tag? = some tag) :
    w.extent = .tagged tag.toNat (w.payloads.map extent) := by
  cases w with
  | variant label cases =>
    rw [tag?] at tagged
    split at tagged
    · cases tagged
    · rename_i some
      cases tagged
      rw [extent, if_neg some, caseExtents_eq, discriminantSize_toNat]
      rfl
  | option label payload =>
    cases tagged
    rfl
  | result label ok error =>
    cases tagged
    cases ok <;> cases error <;> rfl
  | _ => cases tagged

theorem sizeOf_payload {w w' : WitType} (member : w' ∈ w.payloads) : sizeOf w' < sizeOf w := by
  cases w with
  | variant label cases =>
    have found : some w' ∈ cases := by simpa [payloads] using member
    have smaller := List.sizeOf_lt_of_mem found
    simp only [Option.some.sizeOf_spec, variant.sizeOf_spec] at smaller ⊢
    omega
  | option label payload =>
    obtain rfl := List.mem_singleton.mp member
    simp only [option.sizeOf_spec]
    omega
  | result label ok error =>
    simp only [payloads, List.mem_append, Option.mem_toList] at member
    rcases member with rfl | rfl
    · simp only [result.sizeOf_spec, Option.some.sizeOf_spec]
      omega
    · simp only [result.sizeOf_spec, Option.some.sizeOf_spec]
      omega
  | _ => cases member

/-! ### Layouts that fit -/

theorem IsRow.extents_exact {w : WitType} (row : w.IsRow) (fits : w.widen.extent.size < 2 ^ 32)
    (members : ∀ part ∈ w.parts, part.widen.extent.size < 2 ^ 32 →
      part.layout.extent = part.widen.extent) :
    (w.parts.map WitType.layout).map Placement.extent = w.widen.parts.map WitType.extent := by
  rw [row.widen.extent, row.parts_widen] at fits
  rw [row.parts_widen, List.map_map, List.map_map]
  apply List.map_congr_left
  intro part member
  exact members part member (parts_extent_lt fits _ (List.mem_map_of_mem member))

theorem IsRow.exact {w : WitType} (row : w.IsRow) (fits : w.widen.extent.size < 2 ^ 32)
    (members : ∀ part ∈ w.parts, part.widen.extent.size < 2 ^ 32 →
      part.layout.extent = part.widen.extent) :
    w.layout.extent = w.widen.extent ∧ w.laidOffsets = w.widen.exactOffsets := by
  have extents := row.extents_exact fits members
  rw [row.widen.extent, ← extents] at fits
  obtain ⟨extent, offsets⟩ := Placement.row_of_fits w.parts_isAlignment fits
  rw [extents] at extent offsets
  constructor
  · rw [row.layout.2, extent, row.widen.extent]
  · rw [laidOffsets, row.layout.1, offsets, exactOffsets]

theorem exact_of_tag {w : WitType} {tag : UInt32} (tagged : w.tag? = some tag)
    (fits : w.widen.extent.size < 2 ^ 32)
    (members : ∀ payload ∈ w.payloads, payload.widen.extent.size < 2 ^ 32 →
      payload.layout.extent = payload.widen.extent) :
    w.layout.extent = w.widen.extent := by
  obtain ⟨alignment, layout⟩ := layout_of_tag tagged
  have widened := extent_of_tag (w.tag?_widen.trans tagged)
  rw [payloads_widen] at widened
  rw [widened] at fits ⊢
  have extents : (w.payloads.map WitType.layout).map Placement.extent =
      (w.payloads.map WitType.widen).map WitType.extent := by
    rw [List.map_map, List.map_map]
    apply List.map_congr_left
    intro payload member
    have inside := Extent.size_le_tagged tag.toNat
      (List.mem_map_of_mem (f := WitType.extent) (List.mem_map_of_mem (f := WitType.widen) member))
    exact members payload member (Nat.lt_of_le_of_lt inside fits)
  have alignments : ∀ p ∈ w.payloads.map WitType.layout, IsAlignment p.align := by
    intro p found
    obtain ⟨payload, _, rfl⟩ := List.mem_map.mp found
    exact payload.layout_isAlignment
  rw [← extents] at fits ⊢
  rw [layout]
  exact Room.finish_of_fits alignments alignment fits

/-- Size and alignment are exact as soon as the exact size is a number of 32 bits. -/
theorem layout_exact (w : WitType) (fits : w.widen.extent.size < 2 ^ 32) :
    w.layout.extent = w.widen.extent := by
  have row (isRow : w.IsRow) : w.layout.extent = w.widen.extent := by
    refine (isRow.exact fits ?_).1
    intro part member fits
    have smaller := sizeOf_part member
    exact layout_exact part fits
  have room (tag : UInt32) (tagged : w.tag? = some tag) : w.layout.extent = w.widen.extent := by
    refine exact_of_tag tagged fits ?_
    intro payload member fits
    have smaller := sizeOf_payload member
    exact layout_exact payload fits
  cases w with
  | absent | handle _ | list _ _ => rfl
  | primitive p => cases p <;> rfl
  | record label fields => exact row (.inl ⟨_, _, rfl⟩)
  | tuple label members => exact row (.inr ⟨_, _, rfl⟩)
  | variant label cases =>
    cases empty : cases.isEmpty with
    | true =>
      obtain rfl := List.isEmpty_iff.mp empty
      rfl
    | false => exact room (discriminantSize cases.length) (by rw [tag?, empty]; rfl)
  | enum label cases =>
    simp only [layout, Placement.enum, Placement.extent, discriminantSize_toNat]
    rfl
  | option label payload => exact room 1 rfl
  | result label ok error => exact room 1 rfl
  | flags label count =>
    rw [widen] at fits ⊢
    split at fits
    · rename_i wide
      rw [if_pos wide, layout, flags_extent_of_wide wide]
      rfl
    · rename_i narrow
      rw [if_neg narrow]
      exact flags_extent (by omega) fits
  | «alias» label target =>
    simp only [widen, layout, extent] at fits ⊢
    exact layout_exact target fits
termination_by sizeOf w

/-- The type behind its aliases. -/
def underlying : WitType → WitType
  | .alias _ target => target.underlying
  | w => w

theorem laidOffsets_exact : (w : WitType) → w.widen.extent.size < 2 ^ 32 →
    w.laidOffsets = w.widen.underlying.exactOffsets
  | .record label fields, fits =>
    (IsRow.exact (.inl ⟨label, fields, rfl⟩) fits fun part _ => part.layout_exact).2
  | .tuple label members, fits =>
    (IsRow.exact (.inr ⟨label, members, rfl⟩) fits fun part _ => part.layout_exact).2
  | .alias _ target, fits => by
    simp only [widen, extent] at fits
    simpa only [laidOffsets, layout, widen, underlying] using laidOffsets_exact target fits
  | .variant _ cases, _ => by
    rw [laidOffsets, layout]
    split <;> rfl
  | .flags _ count, _ => by
    have none : (Placement.flags count).offsets = [] := by
      unfold Placement.flags
      repeat' split
      all_goals rfl
    rw [laidOffsets, layout, none, widen]
    split <;> rfl
  | .primitive p, _ => by cases p <;> rfl
  | .absent, _ | .handle _, _ | .enum .., _ | .option .., _ | .result .., _ | .list .., _ => rfl

end WitType

/-! ### Offsets by name -/

namespace Placement

theorem foldl_setOffset {pairs acc : List (Text × UInt32)}
    (distinct : ((acc ++ pairs).map Prod.fst).Nodup) :
    pairs.foldl (fun acc e => setOffset acc e.1 e.2) acc = acc ++ pairs := by
  induction pairs generalizing acc with
  | nil => rw [List.foldl_nil, List.append_nil]
  | cons e rest ih =>
    have fresh : acc.any (·.1 == e.1) = false := by
      rw [List.any_eq_false]
      intro e' member same
      rw [List.map_append, List.nodup_append] at distinct
      exact distinct.2.2 e'.1 (List.mem_map_of_mem member) e.1 List.mem_cons_self (eq_of_beq same)
    have first : setOffset acc e.1 e.2 = acc ++ [e] := by
      simp [setOffset, fresh]
    rw [List.foldl_cons, first, ih (by rwa [List.append_assoc]), List.append_assoc]
    rfl

theorem fieldOffsets_withNames {p : Placement} {names : List Text} (distinct : names.Nodup)
    (length : names.length = p.offsets.length) :
    (p.withNames names).fieldOffsets = some (names.zip p.offsets) := by
  have keys : (([] ++ names.zip p.offsets).map Prod.fst).Nodup := by
    rw [List.nil_append, List.map_fst_zip (Nat.le_of_eq length)]
    exact distinct
  rw [withNames, foldl_setOffset keys, List.nil_append]

end Placement

theorem WitType.fieldOffsets_layout : (w : WitType) → {label : Label} →
    {fields : List (WitField WitType)} → w.underlying = .record label fields →
    (fields.map (·.name)).Nodup →
    w.layout.fieldOffsets = some ((fields.map (·.name)).zip w.layout.offsets)
  | .alias _ target, _, _, shape, distinct => by
    rw [layout]
    exact target.fieldOffsets_layout shape distinct
  | .record _ fields, _, _, shape, distinct => by
    cases shape
    rw [layout_record]
    exact Placement.fieldOffsets_withNames distinct (by simp [Placement.row])
  | .absent, _, _, shape, _ | .primitive _, _, _, shape, _ | .tuple .., _, _, shape, _
  | .variant .., _, _, shape, _ | .enum .., _, _, shape, _ | .option .., _, _, shape, _
  | .result .., _, _, shape, _ | .list .., _, _, shape, _ | .flags .., _, _, shape, _
  | .handle _, _, _, shape, _ => by cases shape

/-! ### What the calculator remembers -/

namespace WitType

mutual

/-- Labels name definitions: `definition` gives for the label of each definition in the type, lists apart,
that definition. So two uses of one label are uses of one definition. -/
def LabelledBy (definition : Label → WitType) : WitType → Prop
  | .absent | .primitive _ => True
  | .record label fields =>
    definition label = .record label fields ∧ FieldsLabelledBy definition fields
  | .tuple label members =>
    definition label = .tuple label members ∧ MembersLabelledBy definition members
  | .variant label cases => definition label = .variant label cases ∧ CasesLabelledBy definition cases
  | .enum label cases => definition label = .enum label cases
  | .option label payload => definition label = .option label payload ∧ payload.LabelledBy definition
  | .result label ok error =>
    definition label = .result label ok error ∧ PayloadLabelledBy definition ok ∧
      PayloadLabelledBy definition error
  | .list label element => definition label = .list label element
  | .flags label count => definition label = .flags label count
  | .alias label target => definition label = .alias label target ∧ target.LabelledBy definition
  | .handle label => definition label = .handle label

def FieldsLabelledBy (definition : Label → WitType) : List (WitField WitType) → Prop
  | [] => True
  | ⟨_, w⟩ :: rest => w.LabelledBy definition ∧ FieldsLabelledBy definition rest

def MembersLabelledBy (definition : Label → WitType) : List WitType → Prop
  | [] => True
  | w :: rest => w.LabelledBy definition ∧ MembersLabelledBy definition rest

def CasesLabelledBy (definition : Label → WitType) : List (Option WitType) → Prop
  | [] => True
  | c :: rest => PayloadLabelledBy definition c ∧ CasesLabelledBy definition rest

def PayloadLabelledBy (definition : Label → WitType) : Option WitType → Prop
  | none => True
  | some w => w.LabelledBy definition

end

end WitType

namespace Calculator

variable {definition : Label → WitType}

/-- What is remembered for a label is the layout of its definition. -/
def Remembers (definition : Label → WitType) (c : Calculator) : Prop :=
  ∀ label p, c.lookup label = some p → p = (definition label).layout

/-- The result is `x`, and what is remembered stays right. -/
def Gives (definition : Label → WitType) {α : Type} (x : α) (answer : α × Calculator) : Prop :=
  answer.1 = x ∧ Remembers definition answer.2

theorem Remembers.remember {c : Calculator} (remembers : Remembers definition c) {label : Label}
    {w : WitType} (named : definition label = w) {compute : Calculator → Placement × Calculator}
    (computed : Gives definition w.layout (compute c)) :
    Gives definition w.layout (c.remember label compute) := by
  unfold Calculator.remember
  split
  · rename_i p found
    refine ⟨?_, remembers⟩
    rw [remembers label p found, named]
  · refine ⟨computed.1, ?_⟩
    intro label' p found
    rw [List.lookup_cons] at found
    split at found
    · rename_i same
      cases found
      rw [eq_of_beq same, named, computed.1]
    · exact computed.2 label' p found

mutual

theorem calculate_gives : (w : WitType) → w.LabelledBy definition → (c : Calculator) →
    Remembers definition c → Gives definition w.layout (calculate w c)
  | .absent, _, c, remembers | .primitive _, _, c, remembers => ⟨rfl, remembers⟩
  | .record label fields, labelled, c, remembers => by
    rw [WitType.LabelledBy] at labelled
    refine remembers.remember labelled.1 ?_
    obtain ⟨row, after⟩ := placeFields_gives fields labelled.2 .start c remembers
    refine ⟨?_, after⟩
    rw [WitType.layout, ← row]
  | .tuple label members, labelled, c, remembers => by
    rw [WitType.LabelledBy] at labelled
    refine remembers.remember labelled.1 ?_
    obtain ⟨row, after⟩ := placeMembers_gives members labelled.2 .start c remembers
    refine ⟨?_, after⟩
    rw [WitType.layout, ← row]
  | .variant label cases, labelled, c, remembers => by
    rw [WitType.LabelledBy] at labelled
    refine remembers.remember labelled.1 ?_
    rw [WitType.layout]
    obtain ⟨room, after⟩ :=
      fitCases_gives cases labelled.2 (.start (discriminantSize cases.length)) c remembers
    cases cases.isEmpty with
    | true => exact ⟨rfl, remembers⟩
    | false =>
      refine ⟨?_, after⟩
      simp only [Bool.false_eq_true, if_false, room]
  | .enum label cases, labelled, c, remembers => by
    rw [WitType.LabelledBy] at labelled
    exact remembers.remember labelled ⟨rfl, remembers⟩
  | .option label payload, labelled, c, remembers => by
    rw [WitType.LabelledBy] at labelled
    refine remembers.remember labelled.1 ?_
    obtain ⟨placement, after⟩ := calculate_gives payload labelled.2 c remembers
    refine ⟨?_, after⟩
    rw [WitType.layout, ← placement]
  | .result label ok error, labelled, c, remembers => by
    rw [WitType.LabelledBy] at labelled
    refine remembers.remember labelled.1 ?_
    obtain ⟨first, between⟩ := fitCase_gives ok labelled.2.1 (.start 1) c remembers
    obtain ⟨second, after⟩ := fitCase_gives error labelled.2.2 (fitCase ok (.start 1) c).1 _ between
    refine ⟨?_, after⟩
    rw [WitType.layout, ← first, ← second]
  | .list label element, labelled, c, remembers => by
    rw [WitType.LabelledBy] at labelled
    exact remembers.remember labelled ⟨rfl, remembers⟩
  | .flags label count, labelled, c, remembers => by
    rw [WitType.LabelledBy] at labelled
    exact remembers.remember labelled ⟨rfl, remembers⟩
  | .alias label target, labelled, c, remembers => by
    rw [WitType.LabelledBy] at labelled
    exact remembers.remember labelled.1 (calculate_gives target labelled.2 c remembers)
  | .handle label, labelled, c, remembers => by
    rw [WitType.LabelledBy] at labelled
    exact remembers.remember labelled ⟨rfl, remembers⟩

theorem placeFields_gives : (fields : List (WitField WitType)) →
    WitType.FieldsLabelledBy definition fields → (r : Row) → (c : Calculator) →
    Remembers definition c →
    Gives definition (WitType.placeFields fields r) (placeFields fields r c)
  | [], _, _, _, remembers => ⟨rfl, remembers⟩
  | ⟨_, w⟩ :: rest, labelled, r, c, remembers => by
    rw [WitType.FieldsLabelledBy] at labelled
    obtain ⟨first, after⟩ := calculate_gives w labelled.1 c remembers
    rw [WitType.placeFields, ← first]
    exact placeFields_gives rest labelled.2 _ _ after

theorem placeMembers_gives : (members : List WitType) →
    WitType.MembersLabelledBy definition members → (r : Row) → (c : Calculator) →
    Remembers definition c →
    Gives definition (WitType.placeMembers members r) (placeMembers members r c)
  | [], _, _, _, remembers => ⟨rfl, remembers⟩
  | w :: rest, labelled, r, c, remembers => by
    rw [WitType.MembersLabelledBy] at labelled
    obtain ⟨first, after⟩ := calculate_gives w labelled.1 c remembers
    rw [WitType.placeMembers, ← first]
    exact placeMembers_gives rest labelled.2 _ _ after

theorem fitCases_gives : (cases : List (Option WitType)) →
    WitType.CasesLabelledBy definition cases → (r : Room) → (c : Calculator) →
    Remembers definition c → Gives definition (WitType.fitCases cases r) (fitCases cases r c)
  | [], _, _, _, remembers => ⟨rfl, remembers⟩
  | first :: rest, labelled, r, c, remembers => by
    rw [WitType.CasesLabelledBy] at labelled
    obtain ⟨room, after⟩ := fitCase_gives first labelled.1 r c remembers
    rw [WitType.fitCases, ← room]
    exact fitCases_gives rest labelled.2 _ _ after

theorem fitCase_gives : (payload : Option WitType) →
    WitType.PayloadLabelledBy definition payload → (r : Room) → (c : Calculator) →
    Remembers definition c → Gives definition (WitType.fitCase payload r) (fitCase payload r c)
  | none, _, _, _, remembers => ⟨rfl, remembers⟩
  | some w, labelled, r, c, remembers => by
    rw [WitType.PayloadLabelledBy] at labelled
    obtain ⟨placement, after⟩ := calculate_gives w labelled c remembers
    refine ⟨?_, after⟩
    rw [WitType.fitCase, ← placement]
    rfl

end

/-- A calculator that remembers nothing computes the layout. -/
theorem calculate_eq_layout {w : WitType} (labelled : w.LabelledBy definition) :
    (calculate w []).1 = w.layout :=
  (calculate_gives w labelled [] fun _ _ found => nomatch found).1

end Calculator

/-! ### The canonical layout -/

/-- Size, alignment and the offsets of the members are those of the type in exact arithmetic. -/
structure Placement.IsCanonical (p : Placement) (w : WitType) : Prop where
  extent : p.extent = w.extent
  offsets : p.offsets.map UInt32.toNat = w.underlying.exactOffsets

namespace Calculator

/-- For every type whose exact layout fits into 32 bits the calculator gives the canonical layout, with a
number of 64 bits in the place of 33 to 64 flags. So it gives the canonical layout of every type without
such flags, and of a type with them exactly if the numbers change neither its size and alignment nor the
offsets of its members. That depends on what stands around the flags: a number of 64 bits before them hides
the difference, one of 32 bits shows it. For flags alone it holds exactly if there are not 33 to 64 of them.
The fields of a record have the same offsets by name. -/
theorem calculate_canonical (definition : Label → WitType) (w : WitType)
    (labelled : w.LabelledBy definition) :
    (w.widen.extent.size < 2 ^ 32 → (calculate w []).1.IsCanonical w.widen) ∧
      (w.isNarrow = true → w.extent.size < 2 ^ 32 → (calculate w []).1.IsCanonical w) ∧
      (w.widen.extent.size < 2 ^ 32 →
        ((calculate w []).1.IsCanonical w ↔ w.widen.extent = w.extent ∧
          w.widen.underlying.exactOffsets = w.underlying.exactOffsets)) ∧
      (∀ label count, w = .flags label count → w.extent.size < 2 ^ 32 →
        ((calculate w []).1.IsCanonical w ↔ count ≤ 32 ∨ 64 < count)) ∧
      ∀ label fields, w.underlying = .record label fields → (fields.map (·.name)).Nodup →
        (calculate w []).1.fieldOffsets = some ((fields.map (·.name)).zip (calculate w []).1.offsets) := by
  rw [calculate_eq_layout labelled]
  have canonical (fits : w.widen.extent.size < 2 ^ 32) : w.layout.IsCanonical w.widen :=
    ⟨w.layout_exact fits, w.laidOffsets_exact fits⟩
  have narrowly (narrow : w.isNarrow = true) (fits : w.extent.size < 2 ^ 32) :
      w.layout.IsCanonical w := by
    rw [w.widen_of_isNarrow narrow] at canonical
    exact canonical fits
  refine ⟨canonical, narrowly, ?_, ?_, fun _ _ record distinct => w.fieldOffsets_layout record distinct⟩
  · intro fits
    obtain ⟨extent, offsets⟩ := canonical fits
    exact ⟨fun given => ⟨extent.symm.trans given.extent, offsets.symm.trans given.offsets⟩,
      fun same => ⟨extent.trans same.1, offsets.trans same.2⟩⟩
  rintro label count rfl fits
  constructor
  · intro given
    by_cases wide : 32 < count ∧ count ≤ 64
    · have align := congrArg Extent.align given.extent
      rw [WitType.layout, WitType.flags_extent_of_wide wide, WitType.extent, Extent.flags,
        if_neg (by omega), if_neg (by omega), if_neg (by omega)] at align
      cases align
    · omega
  · intro narrow
    exact narrowly (by rw [WitType.isNarrow, decide_eq_true_eq]; exact narrow) fits

/-- Behind a number of 64 bits the flags take the place of another such number. -/
example :
    let w : WitType := .record [] [⟨"id", .primitive .u64⟩, ⟨"marks", .flags [1] 33⟩]
    w.widen.extent = w.extent ∧ w.widen.underlying.exactOffsets = w.underlying.exactOffsets := by decide

/-- A number followed by 33 flags. -/
def flaggedType : WitType :=
  .record [] [⟨"id", .primitive .u32⟩, ⟨"marks", .flags [1] 33⟩]

/-- The flags belong at offset 4 of twelve bytes, and come to lie at offset 8 of sixteen. -/
theorem flaggedType_not_canonical :
    (calculate flaggedType []).1.offsets = [0, 8] ∧ (calculate flaggedType []).1.size = 16 ∧
      flaggedType.exactOffsets = [0, 4] ∧ flaggedType.extent = ⟨12, 4⟩ ∧
      (calculate flaggedType []).1.IsCanonical flaggedType.widen ∧
      ¬ (calculate (.flags [1] 33) []).1.IsCanonical (.flags [1] 33) := by
  let definition : Label → WitType := fun label => if label = [] then flaggedType else .flags [1] 33
  have whole := calculate_canonical definition flaggedType ⟨rfl, trivial, rfl, trivial⟩
  have part := calculate_canonical definition (.flags [1] 33) rfl
  refine ⟨rfl, rfl, rfl, rfl, whole.1 (by decide), ?_⟩
  rw [part.2.2.2.1 [1] 33 rfl (by decide)]
  decide

end Calculator

end TypeAtlas
