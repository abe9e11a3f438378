import Mathlib.Algebra.Group.Nat.Defs
import TypeAtlas.Proofs.Extent
import TypeAtlas.Wit.Layout

/-!
Layouts of interface types in exact arithmetic, and when the layout in words of 32 bits equals them.
Rounding by a mask gives the next multiple of a power of two or, past the last one, zero. So a row of
members is exact as soon as its members turn out to follow one another: a sum that wrapped would have
put one of them before its predecessor.
-/

namespace TypeAtlas

/-! ### Rounding by a mask -/

/-- The alignments that interface types have. -/
def IsAlignment (align : UInt32) : Prop :=
  align = 1 ∨ align = 2 ∨ align = 4 ∨ align = 8

theorem toNat_max (a b : UInt32) : (max a b).toNat = max a.toNat b.toNat := by
  simp only [Max.max]
  by_cases order : a ≤ b
  · simp [order, UInt32.le_iff_toNat_le.mp order]
  · have reverse : ¬ a.toNat ≤ b.toNat := fun h => order (UInt32.le_iff_toNat_le.mpr h)
    simp [order, reverse]

theorem IsAlignment.max {a b : UInt32} (first : IsAlignment a) (second : IsAlignment b) :
    IsAlignment (max a b) := by
  simp only [Max.max]
  split
  · exact second
  · exact first

theorem IsAlignment.range {a : UInt32} (alignment : IsAlignment a) : 0 < a.toNat ∧ a.toNat ≤ 8 := by
  rcases alignment with rfl | rfl | rfl | rfl <;> decide

theorem IsAlignment.dvd_of_le {a b : UInt32} (first : IsAlignment a) (second : IsAlignment b)
    (le : a.toNat ≤ b.toNat) : a.toNat ∣ b.toNat := by
  rcases first with rfl | rfl | rfl | rfl <;> rcases second with rfl | rfl | rfl | rfl <;>
    revert le <;> decide

theorem toNat_and_not_mask (x mask : UInt32) {k : Nat} (width : k ≤ 32) (low : mask.toNat = 2 ^ k - 1) :
    (x &&& ~~~mask).toNat = x.toNat / 2 ^ k * 2 ^ k := by
  have positive := Nat.two_pow_pos k
  have room : 2 ^ k - 1 < 2 ^ 32 := by
    have := Nat.pow_le_pow_right (n := 2) (by decide) width
    omega
  have complement : UInt32.size - 1 - mask.toNat = 2 ^ 32 - (2 ^ k - 1 + 1) := by
    rw [low]
    show 2 ^ 32 - 1 - (2 ^ k - 1) = _
    omega
  rw [UInt32.toNat_and, UInt32.toNat_not, complement]
  apply Nat.eq_of_testBit_eq
  intro i
  rw [Nat.testBit_and, Nat.testBit_two_pow_sub_succ room, Nat.testBit_two_pow_sub_one,
    Nat.testBit_mul_two_pow, Nat.testBit_div_two_pow]
  by_cases high : k ≤ i
  · have same : i - k + k = i := Nat.sub_add_cancel high
    rw [same]
    by_cases inside : i < 32
    · simp [high, inside, Nat.not_lt.mpr high]
    · have clear : x.toNat.testBit i = false :=
        Nat.testBit_lt_two_pow (Nat.lt_of_lt_of_le x.toNat_lt
          (Nat.pow_le_pow_right (by decide) (Nat.not_lt.mp inside)))
      simp [clear]
  · simp [high, Nat.not_le.mp high]

theorem alignTo_two_pow {align : UInt32} {k : Nat} (width : k ≤ 31) (power : align.toNat = 2 ^ k)
    (offset : UInt32) :
    (alignTo offset align).toNat =
      if offset.toNat + align.toNat ≤ 2 ^ 32 then roundUp offset.toNat align.toNat else 0 := by
  have range := offset.toNat_lt
  have positive := Nat.two_pow_pos k
  have small : 2 ^ k ≤ 2 ^ 31 := Nat.pow_le_pow_right (by decide) width
  have one : (1 : UInt32).toNat = 1 := rfl
  have mask : (align - 1).toNat = 2 ^ k - 1 := by
    rw [UInt32.toNat_sub_of_le _ _ (UInt32.le_iff_toNat_le.mpr (by rw [power]; exact positive)),
      power, one]
  have sum : (offset + align - 1).toNat = (offset.toNat + align.toNat - 1) % 2 ^ 32 := by
    rw [UInt32.toNat_sub, UInt32.toNat_add, one, power]
    omega
  have rounded : ((offset + align - 1) &&& ~~~(align - 1)).toNat =
      (offset.toNat + align.toNat - 1) % 2 ^ 32 / 2 ^ k * 2 ^ k := by
    rw [toNat_and_not_mask _ _ (by omega) mask, sum]
  simp only [alignTo]
  split
  · rename_i single
    have unit : align.toNat = 1 := by
      have := UInt32.le_iff_toNat_le.mp single
      omega
    rw [unit, if_pos (by omega)]
    simp [roundUp]
  · rw [rounded, power]
    split
    · rw [Nat.mod_eq_of_lt (by omega), roundUp]
    · have wrapped : (offset.toNat + 2 ^ k - 1) % 2 ^ 32 < 2 ^ k := by omega
      rw [Nat.div_eq_of_lt wrapped, Nat.zero_mul]

/-- Rounding is exact while the next multiple has an address, and gives zero after that. -/
theorem alignTo_toNat {align : UInt32} (alignment : IsAlignment align) (offset : UInt32) :
    (alignTo offset align).toNat =
      if offset.toNat + align.toNat ≤ 2 ^ 32 then roundUp offset.toNat align.toNat else 0 := by
  rcases alignment with rfl | rfl | rfl | rfl
  · exact alignTo_two_pow (k := 0) (by decide) rfl offset
  · exact alignTo_two_pow (k := 1) (by decide) rfl offset
  · exact alignTo_two_pow (k := 2) (by decide) rfl offset
  · exact alignTo_two_pow (k := 3) (by decide) rfl offset

theorem alignTo_exact_of_le {align offset : UInt32} (alignment : IsAlignment align)
    (forward : offset.toNat ≤ (alignTo offset align).toNat) :
    (alignTo offset align).toNat = roundUp offset.toNat align.toNat := by
  have value := alignTo_toNat alignment offset
  have range := alignment.range
  split at value
  · exact value
  · omega

theorem alignTo_exact_of_room {align : UInt32} (alignment : IsAlignment align) (offset : UInt32)
    (room : offset.toNat + 8 ≤ 2 ^ 32) :
    (alignTo offset align).toNat = roundUp offset.toNat align.toNat := by
  have range := alignment.range
  rw [alignTo_toNat alignment, if_pos (by omega)]

/-- A multiple of the alignment that is an address leaves room for the rounding. -/
theorem alignTo_exact_of_lt {align : UInt32} (alignment : IsAlignment align) (offset : UInt32)
    (fits : roundUp offset.toNat align.toNat < 2 ^ 32) :
    (alignTo offset align).toNat = roundUp offset.toNat align.toNat := by
  have above := le_roundUp offset.toNat alignment.range.1
  have multiple := roundUp_mod_eq_zero offset.toNat align.toNat
  rw [alignTo_toNat alignment, if_pos]
  rcases alignment with rfl | rfl | rfl | rfl <;> simp at multiple fits above ⊢ <;> omega

/-- Rounding gives a multiple with another one after it, or the last one with none. -/
theorem alignTo_multiple {align : UInt32} (alignment : IsAlignment align) (offset : UInt32) :
    (alignTo offset align).toNat % align.toNat = 0 ∧
      (alignTo offset align).toNat + align.toNat ≤ 2 ^ 32 := by
  have word := (alignTo offset align).toNat_lt
  have multiple : (alignTo offset align).toNat % align.toNat = 0 := by
    rw [alignTo_toNat alignment]
    split
    · exact roundUp_mod_eq_zero _ _
    · exact Nat.zero_mod _
  refine ⟨multiple, ?_⟩
  rcases alignment with rfl | rfl | rfl | rfl <;> simp at multiple word ⊢ <;> omega

/-! ### Rows of members -/

/-- Size and alignment as numbers. -/
def Placement.extent (p : Placement) : Extent :=
  ⟨p.size.toNat, p.align.toNat⟩

@[simp]
theorem Placement.extent_size (p : Placement) : p.extent.size = p.size.toNat :=
  rfl

@[simp]
theorem Placement.extent_align (p : Placement) : p.extent.align = p.align.toNat :=
  rfl

namespace Row

/-- The offsets of members placed after a row that ends at `stop`. -/
def offsetsAfter (stop : UInt32) : List Placement → List UInt32
  | [] => []
  | p :: rest => alignTo stop p.align :: offsetsAfter (alignTo stop p.align + p.size) rest

def stopAfter (stop : UInt32) : List Placement → UInt32
  | [] => stop
  | p :: rest => stopAfter (alignTo stop p.align + p.size) rest

def alignAfter (align : UInt32) : List Placement → UInt32
  | [] => align
  | p :: rest => alignAfter (max align p.align) rest

/-- The members with their offsets, as pieces in exact arithmetic. -/
def piecesAfter (stop : UInt32) (members : List Placement) : List (Nat × Nat) :=
  ((offsetsAfter stop members).map UInt32.toNat).zip (members.map fun p => p.size.toNat)

theorem foldl_place (members : List Placement) (r : Row) :
    members.foldl place r =
      ⟨stopAfter r.stop members, alignAfter r.align members,
        (offsetsAfter r.stop members).reverse ++ r.offsets⟩ := by
  induction members generalizing r with
  | nil => rfl
  | cons p rest ih =>
    rw [List.foldl_cons, ih]
    simp [place, stopAfter, alignAfter, offsetsAfter]

@[simp]
theorem length_offsetsAfter (stop : UInt32) (members : List Placement) :
    (offsetsAfter stop members).length = members.length := by
  induction members generalizing stop with
  | nil => rfl
  | cons p rest ih => simp only [offsetsAfter, List.length_cons, ih]

theorem alignAfter_isAlignment {align : UInt32} {members : List Placement} (start : IsAlignment align)
    (alignments : ∀ p ∈ members, IsAlignment p.align) : IsAlignment (alignAfter align members) := by
  induction members generalizing align with
  | nil => exact start
  | cons p rest ih =>
    exact ih (start.max (alignments p List.mem_cons_self))
      fun q member => alignments q (List.mem_cons_of_mem _ member)

theorem alignAfter_toNat (align : UInt32) (members : List Placement) (positive : 1 ≤ align.toNat) :
    (alignAfter align members).toNat =
      max align.toNat (Extent.maxAlign (members.map Placement.extent)) := by
  induction members generalizing align with
  | nil => exact (Nat.max_eq_left positive).symm
  | cons p rest ih =>
    have larger : 1 ≤ (max align p.align).toNat := by
      rw [toNat_max]
      exact Nat.le_trans positive (Nat.le_max_left _ _)
    rw [alignAfter, ih _ larger, toNat_max, Nat.max_assoc]
    rfl

/-- Members that follow one another were placed without a sum wrapping. -/
theorem exact_of_inOrder (stop : UInt32) {members : List Placement} {limit : Nat}
    (alignments : ∀ p ∈ members, IsAlignment p.align) (fits : limit < 2 ^ 32)
    (ordered : InOrder stop.toNat limit (piecesAfter stop members)) :
    (offsetsAfter stop members).map UInt32.toNat =
        Extent.offsetsFrom stop.toNat (members.map Placement.extent) ∧
      (stopAfter stop members).toNat = Extent.endFrom stop.toNat (members.map Placement.extent) ∧
      (stopAfter stop members).toNat ≤ limit := by
  induction members generalizing stop with
  | nil => exact ⟨rfl, rfl, ordered⟩
  | cons p rest ih =>
    obtain ⟨forward, later⟩ := ordered
    have offset := alignTo_exact_of_le (alignments p List.mem_cons_self) forward
    have inside : (alignTo stop p.align).toNat + p.size.toNat ≤ limit := later.start_le
    have sum : (alignTo stop p.align + p.size).toNat = (alignTo stop p.align).toNat + p.size.toNat := by
      rw [UInt32.toNat_add, Nat.mod_eq_of_lt (by omega)]
    have next := ih (alignTo stop p.align + p.size)
      (fun q member => alignments q (List.mem_cons_of_mem _ member)) (by rw [sum]; exact later)
    rw [sum, offset] at next
    obtain ⟨offsets, stopped, bounded⟩ := next
    refine ⟨?_, stopped, bounded⟩
    simp only [offsetsAfter, List.map_cons, Extent.offsetsFrom, offset, offsets]
    rfl

/-- They even follow one another up to the end of the last of them. -/
theorem inOrder_stopAfter (stop : UInt32) {members : List Placement} {limit : Nat}
    (alignments : ∀ p ∈ members, IsAlignment p.align) (fits : limit < 2 ^ 32)
    (ordered : InOrder stop.toNat limit (piecesAfter stop members)) :
    InOrder stop.toNat (stopAfter stop members).toNat (piecesAfter stop members) := by
  obtain ⟨offsets, stopped, _⟩ := exact_of_inOrder stop alignments fits ordered
  have positive : ∀ e ∈ members.map Placement.extent, 0 < e.align := by
    intro e member
    obtain ⟨p, found, rfl⟩ := List.mem_map.mp member
    exact (alignments p found).range.1
  have exact := Extent.offsetsFrom_inOrder stop.toNat positive
  rw [← offsets, ← stopped, List.map_map] at exact
  exact exact

theorem align_dvd_alignAfter {align : UInt32} {members : List Placement} (start : IsAlignment align)
    (alignments : ∀ p ∈ members, IsAlignment p.align) :
    ∀ p ∈ members, p.align.toNat ∣ (alignAfter align members).toNat := by
  intro p member
  apply (alignments p member).dvd_of_le (alignAfter_isAlignment start alignments)
  rw [alignAfter_toNat align members start.range.1]
  have among : p.extent ∈ members.map Placement.extent := List.mem_map_of_mem member
  exact Nat.le_trans (Extent.le_maxAlign among) (Nat.le_max_right _ _)

/-- Members whose ends stay below a common multiple of their alignments follow one another, if it leaves
room for one more rounding. Members without bytes are carried along. -/
theorem inOrder_of_bounded (stop : UInt32) {members : List Placement} {limit : Nat}
    (alignments : ∀ p ∈ members, IsAlignment p.align)
    (multiple : ∀ p ∈ members, limit % p.align.toNat = 0)
    (room : ∀ p ∈ members, limit + p.align.toNat ≤ 2 ^ 32) (start : stop.toNat ≤ limit)
    (bounded : ∀ offset size, (offset, size) ∈ piecesAfter stop members → 0 < size →
      offset + size ≤ limit) :
    InOrder stop.toNat limit (piecesAfter stop members) := by
  induction members generalizing stop with
  | nil => exact start
  | cons p rest ih =>
    have alignment := alignments p List.mem_cons_self
    have leaves := room p List.mem_cons_self
    have offset : (alignTo stop p.align).toNat = roundUp stop.toNat p.align.toNat := by
      rw [alignTo_toNat alignment, if_pos (by omega)]
    have forward := le_roundUp stop.toNat alignment.range.1
    have before := roundUp_le alignment.range.1 start (multiple p List.mem_cons_self)
    have inside : (alignTo stop p.align).toNat + p.size.toNat ≤ limit := by
      rcases Nat.eq_zero_or_pos p.size.toNat with empty | positive
      · omega
      · exact bounded _ _ List.mem_cons_self positive
    have positive := alignment.range.1
    have sum : (alignTo stop p.align + p.size).toNat = (alignTo stop p.align).toNat + p.size.toNat := by
      rw [UInt32.toNat_add, Nat.mod_eq_of_lt (by omega)]
    have later := ih (alignTo stop p.align + p.size)
      (fun q member => alignments q (List.mem_cons_of_mem _ member))
      (fun q member => multiple q (List.mem_cons_of_mem _ member))
      (fun q member => room q (List.mem_cons_of_mem _ member)) (by omega)
      (fun o n member => bounded o n (List.mem_cons_of_mem _ member))
    rw [sum] at later
    exact ⟨by omega, later⟩

/-- Members that have their place in exact arithmetic follow one another. -/
theorem inOrder_of_exact (stop : UInt32) {members : List Placement}
    (alignments : ∀ p ∈ members, IsAlignment p.align)
    (fits : Extent.endFrom stop.toNat (members.map Placement.extent) < 2 ^ 32) :
    InOrder stop.toNat (Extent.endFrom stop.toNat (members.map Placement.extent))
      (piecesAfter stop members) := by
  induction members generalizing stop with
  | nil => exact Nat.le_refl _
  | cons p rest ih =>
    have alignment := alignments p List.mem_cons_self
    have others : ∀ e ∈ rest.map Placement.extent, 0 < e.align := by
      intro e member
      obtain ⟨q, found, rfl⟩ := List.mem_map.mp member
      exact (alignments q (List.mem_cons_of_mem _ found)).range.1
    simp only [List.map_cons, Extent.endFrom, Placement.extent_align, Placement.extent_size] at fits ⊢
    have inside := (Extent.offsetsFrom_inOrder
      (roundUp stop.toNat p.align.toNat + p.size.toNat) others).start_le
    have offset := alignTo_exact_of_lt alignment stop (by omega)
    have sum : (alignTo stop p.align + p.size).toNat =
        roundUp stop.toNat p.align.toNat + p.size.toNat := by
      rw [UInt32.toNat_add, offset, Nat.mod_eq_of_lt (by omega)]
    have later := ih (alignTo stop p.align + p.size)
      (fun q member => alignments q (List.mem_cons_of_mem _ member)) (by rw [sum]; exact fits)
    rw [sum] at later
    refine ⟨?_, ?_⟩
    · rw [offset]
      exact le_roundUp _ alignment.range.1
    · rw [offset]
      exact later

end Row

/-! ### Layouts of types -/

/-- Members laid out as a row. -/
def Placement.row (members : List Placement) : Placement where
  size := alignTo (Row.stopAfter 0 members) (Row.alignAfter 1 members)
  align := Row.alignAfter 1 members
  offsets := Row.offsetsAfter 0 members

theorem Row.finish_foldl_place (members : List Placement) :
    (members.foldl Row.place Row.start).finish = Placement.row members := by
  rw [foldl_place]
  simp [Row.finish, Row.start, Placement.row]

namespace WitType

theorem placeFields_eq (fields : List (WitField WitType)) (r : Row) :
    placeFields fields r = (fields.map fun f => f.type.layout).foldl Row.place r := by
  induction fields generalizing r with
  | nil => rfl
  | cons f rest ih => simp only [placeFields, ih, List.map_cons, List.foldl_cons]

theorem placeMembers_eq (members : List WitType) (r : Row) :
    placeMembers members r = (members.map layout).foldl Row.place r := by
  induction members generalizing r with
  | nil => rfl
  | cons w rest ih => simp only [placeMembers, ih, List.map_cons, List.foldl_cons]

theorem layout_record (label : Label) (fields : List (WitField WitType)) :
    (record label fields).layout =
      (Placement.row (fields.map fun f => f.type.layout)).withNames (fields.map (·.name)) := by
  rw [layout, placeFields_eq, Row.finish_foldl_place]

theorem layout_tuple (label : Label) (members : List WitType) :
    (tuple label members).layout = Placement.row (members.map layout) := by
  rw [layout, placeMembers_eq, Row.finish_foldl_place]

theorem discriminantSize_isAlignment (cases : Int) : IsAlignment (discriminantSize cases) := by
  unfold discriminantSize
  split
  · exact .inl rfl
  · split
    · exact .inr (.inl rfl)
    · exact .inr (.inr (.inl rfl))

theorem flags_isAlignment (count : Nat) : IsAlignment (Placement.flags count).align := by
  unfold Placement.flags
  repeat' split
  all_goals simp [IsAlignment, Placement.empty]

mutual

/-- Every layout is aligned to a power of two that masks can round to. -/
theorem layout_isAlignment : (w : WitType) → IsAlignment w.layout.align
  | .absent | .handle _ | .list .. => by simp [layout, IsAlignment, Placement.empty, Placement.span]
  | .primitive p => by cases p <;> simp [layout, IsAlignment, WitPrimitive.placement]
  | .record _ fields => by
    rw [layout]
    exact placeFields_isAlignment fields .start (.inl rfl)
  | .tuple _ members => by
    rw [layout]
    exact placeMembers_isAlignment members .start (.inl rfl)
  | .variant _ cases => by
    rw [layout]
    split
    · exact .inl rfl
    · exact fitCases_isAlignment cases _ (discriminantSize_isAlignment _)
  | .enum _ cases => discriminantSize_isAlignment cases
  | .option _ payload => by
    rw [layout]
    exact IsAlignment.max (.inl rfl) (layout_isAlignment payload)
  | .result _ ok error => by
    rw [layout]
    exact fitCase_isAlignment error _ (fitCase_isAlignment ok _ (.inl rfl))
  | .flags _ count => by
    rw [layout]
    exact flags_isAlignment count
  | .alias _ target => by
    rw [layout]
    exact layout_isAlignment target

theorem placeFields_isAlignment : (fields : List (WitField WitType)) → (r : Row) →
    IsAlignment r.align → IsAlignment (placeFields fields r).align
  | [], _, start => start
  | ⟨_, w⟩ :: rest, r, start =>
    placeFields_isAlignment rest (r.place w.layout) (start.max (layout_isAlignment w))

theorem placeMembers_isAlignment : (members : List WitType) → (r : Row) →
    IsAlignment r.align → IsAlignment (placeMembers members r).align
  | [], _, start => start
  | w :: rest, r, start =>
    placeMembers_isAlignment rest (r.place w.layout) (start.max (layout_isAlignment w))

theorem fitCases_isAlignment : (cases : List (Option WitType)) → (r : Room) →
    IsAlignment r.align → IsAlignment (fitCases cases r).align
  | [], _, start => start
  | c :: rest, r, start => fitCases_isAlignment rest (fitCase c r) (fitCase_isAlignment c r start)

theorem fitCase_isAlignment : (payload : Option WitType) → (r : Room) →
    IsAlignment r.align → IsAlignment (fitCase payload r).align
  | none, _, start => start
  | some w, _, start => start.max (layout_isAlignment w)

end

/-- The members of a record or a tuple. -/
def parts : WitType → List WitType
  | .record _ fields => fields.map (·.type)
  | .tuple _ members => members
  | _ => []

theorem parts_isAlignment (w : WitType) : ∀ p ∈ w.parts.map layout, IsAlignment p.align := by
  intro p member
  obtain ⟨part, _, rfl⟩ := List.mem_map.mp member
  exact part.layout_isAlignment

end WitType

/-! ### Exact layouts -/

namespace Extent

/-- Members one after another, padded to the largest alignment. -/
def packed (members : List Extent) : Extent :=
  ⟨roundUp (endFrom 0 members) (maxAlign members), maxAlign members⟩

def maxSize : List Extent → Nat
  | [] => 0
  | e :: rest => max e.size (maxSize rest)

/-- A discriminant followed by room for the largest payload. -/
def tagged (discriminant : Nat) (payloads : List Extent) : Extent :=
  let align := max discriminant (maxAlign payloads)
  ⟨roundUp (roundUp discriminant align + maxSize payloads) align, align⟩

/-- The bytes of a discriminant of so many cases. -/
def caseBytes (cases : Nat) : Nat :=
  if cases ≤ 256 then 1 else if cases ≤ 65536 then 2 else 4

/-- One bit for each flag, in bytes up to sixteen flags and in words of four bytes from there on. -/
def flags (count : Nat) : Extent :=
  if count = 0 then ⟨0, 1⟩
  else if count ≤ 8 then ⟨1, 1⟩
  else if count ≤ 16 then ⟨2, 2⟩
  else ⟨4 * ((count + 31) / 32), 4⟩

end Extent

def WitPrimitive.extent : WitPrimitive → Extent
  | .bool | .s8 | .u8 => ⟨1, 1⟩
  | .s16 | .u16 => ⟨2, 2⟩
  | .s32 | .u32 | .f32 | .char => ⟨4, 4⟩
  | .s64 | .u64 | .f64 => ⟨8, 8⟩
  | .string => ⟨8, 4⟩

namespace WitType

mutual

/-- The size and alignment of a type in exact arithmetic. -/
def extent : WitType → Extent
  | .absent | .handle _ => ⟨0, 1⟩
  | .primitive p => p.extent
  | .record _ fields => .packed (fieldExtents fields)
  | .tuple _ members => .packed (memberExtents members)
  | .variant _ cases =>
    if cases.isEmpty then ⟨0, 1⟩ else .tagged (Extent.caseBytes cases.length) (caseExtents cases)
  | .enum _ cases => ⟨Extent.caseBytes cases, Extent.caseBytes cases⟩
  | .option _ payload => .tagged 1 [payload.extent]
  | .result _ ok error => .tagged 1 (payloadExtents ok ++ payloadExtents error)
  | .list .. => ⟨8, 4⟩
  | .flags _ count => .flags count
  | .alias _ target => target.extent

def fieldExtents : List (WitField WitType) → List Extent
  | [] => []
  | ⟨_, w⟩ :: rest => w.extent :: fieldExtents rest

def memberExtents : List WitType → List Extent
  | [] => []
  | w :: rest => w.extent :: memberExtents rest

def caseExtents : List (Option WitType) → List Extent
  | [] => []
  | c :: rest => payloadExtents c ++ caseExtents rest

def payloadExtents : Option WitType → List Extent
  | none => []
  | some w => [w.extent]

end

/-- The offsets of the members in exact arithmetic. -/
def exactOffsets (w : WitType) : List Nat :=
  Extent.offsetsFrom 0 (w.parts.map extent)

theorem fieldExtents_eq_map (fields : List (WitField WitType)) :
    fieldExtents fields = fields.map fun f => f.type.extent := by
  induction fields with
  | nil => rfl
  | cons f rest ih => simp only [fieldExtents, ih, List.map_cons]

theorem memberExtents_eq_map (members : List WitType) : memberExtents members = members.map extent := by
  induction members with
  | nil => rfl
  | cons w rest ih => simp only [memberExtents, ih, List.map_cons]

end WitType

/-- A row whose members follow one another up to its size is laid out exactly. -/
theorem Placement.row_exact {members : List Placement}
    (alignments : ∀ p ∈ members, IsAlignment p.align)
    (ordered : InOrder 0 (row members).size.toNat (Row.piecesAfter 0 members)) :
    (row members).offsets.map UInt32.toNat = Extent.offsetsFrom 0 (members.map extent) ∧
      (row members).extent = Extent.packed (members.map extent) := by
  obtain ⟨offsets, stop, covered⟩ := Row.exact_of_inOrder 0 alignments (row members).size.toNat_lt ordered
  have alignment : IsAlignment (Row.alignAfter 1 members) :=
    Row.alignAfter_isAlignment (.inl rfl) alignments
  have align : (Row.alignAfter 1 members).toNat = Extent.maxAlign (members.map extent) := by
    rw [Row.alignAfter_toNat 1 members (by decide)]
    exact Nat.max_eq_right (Extent.maxAlign_pos _)
  have size := alignTo_exact_of_le alignment covered
  rw [stop, align] at size
  refine ⟨offsets, ?_⟩
  simp only [Placement.extent, Extent.packed, Extent.mk.injEq]
  exact ⟨size, align⟩

/-- Members with bytes that end inside the size of their row follow one another: had a sum wrapped, the
member before it would reach past the end. -/
theorem Placement.row_inOrder {members : List Placement}
    (alignments : ∀ p ∈ members, IsAlignment p.align)
    (bounded : ∀ offset size, (offset, size) ∈ Row.piecesAfter 0 members → 0 < size →
      offset + size ≤ (row members).size.toNat) :
    InOrder 0 (row members).size.toNat (Row.piecesAfter 0 members) := by
  have alignment : IsAlignment (Row.alignAfter 1 members) :=
    Row.alignAfter_isAlignment (.inl rfl) alignments
  have divides := Row.align_dvd_alignAfter (.inl rfl) alignments
  have whole := alignTo_multiple alignment (Row.stopAfter 0 members)
  apply Row.inOrder_of_bounded 0 alignments
  · intro p member
    exact Nat.mod_eq_zero_of_dvd (Nat.dvd_trans (divides p member) (Nat.dvd_of_mod_eq_zero whole.1))
  · intro p member
    have := Nat.le_of_dvd alignment.range.1 (divides p member)
    exact Nat.le_trans (Nat.add_le_add_left this _) whole.2
  · exact Nat.zero_le _
  · exact bounded

end TypeAtlas
