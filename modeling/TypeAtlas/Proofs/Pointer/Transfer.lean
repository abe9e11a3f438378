import TypeAtlas.Proofs.Pointer.Copying

/-!
Copies of elements from one pointer to another. A copy is made exactly if a word counts its bytes and both
regions have them, and then the bytes arrive as they were before, whether or not the two ranges overlap and
whether they are copied as elements or as bytes.

The copy that refuses ranges with bytes in common compares offsets. This is the same as comparing addresses
as long as both regions begin at one place. Regions that begin at different places may overlap all the
same, and that goes unnoticed.
-/

namespace TypeAtlas

/-- Memory after the `n` bytes at `source` have gone to `target`. -/
structure Memory.Moved (before after : Memory) (source target : UInt64) (n : Nat) : Prop where
  arrived : ∀ i < n, after.byte (target + UInt64.ofNat i) = before.byte (source + UInt64.ofNat i)
  elsewhere : ∀ a, ¬ Reaches target n a → after.byte a = before.byte a

/-- All bytes are read before the first is written, so that overlapping ranges do no harm. -/
theorem Memory.moved_write_read (m : Memory) (source target : UInt64) {n : Nat} (small : n ≤ 2 ^ 64) :
    m.Moved (m.write target (m.read source n)) source target n := by
  constructor
  case arrived =>
    intro i position
    have distance : (target + UInt64.ofNat i - target).toNat = i := by
      rw [UInt64.add_comm, UInt64.add_sub_cancel, UInt64.toNat_ofNat_of_lt' (show i < 2 ^ 64 by omega)]
    rw [byte_write, distance, getElem?_read position, Option.getD_some]
  case elsewhere =>
    intro a outside
    exact byte_write_of_not_reaches (by rwa [length_read])

/-! ### Ranges with bytes in common -/

/-- Some of the `n` bytes at one address are among the `n` bytes at the other. -/
def Overlap (source target : UInt64) (n : Nat) : Prop :=
  ∃ a, Reaches source n a ∧ Reaches target n a

theorem not_overlap_zero (source target : UInt64) : ¬ Overlap source target 0 := by
  rintro ⟨a, reached, _⟩
  exact Nat.not_lt_zero _ reached

/-- Bytes at an offset that do not wrap around are an interval, counted from the start of the region. -/
theorem reaches_offset_iff {base offset a : UInt64} {n : Nat} (fits : offset.toNat + n ≤ 2 ^ 64) :
    Reaches (base + offset) n a ↔
      offset.toNat ≤ (a - base).toNat ∧ (a - base).toNat < offset.toNat + n := by
  have distance : a - (base + offset) = a - base - offset := by grind
  have range := (a - base).toNat_lt
  rw [Reaches, distance, UInt64.toNat_sub]
  omega

/-- Two intervals of one length overlap if each begins before the other ends. -/
theorem overlap_offsets_iff {base first second : UInt64} {n : Nat} (fits : first.toNat + n ≤ 2 ^ 64)
    (fits' : second.toNat + n ≤ 2 ^ 64) :
    Overlap (base + first) (base + second) n ↔
      first.toNat < second.toNat + n ∧ second.toNat < first.toNat + n := by
  simp only [Overlap, reaches_offset_iff fits, reaches_offset_iff fits']
  constructor
  · rintro ⟨a, first, second⟩
    omega
  · rintro ⟨_, _⟩
    -- The later of the two starts belongs to both.
    rcases Nat.le_total first.toNat second.toNat with earlier | later
    · refine ⟨second + base, ?_⟩
      rw [UInt64.add_sub_cancel]
      omega
    · refine ⟨first + base, ?_⟩
      rw [UInt64.add_sub_cancel]
      omega

namespace Pointer

variable {e : Element} {p target : Pointer e} {m : Memory} {count : Int64}

/-! ### Copies -/

theorem copyTo_eq_true_iff : (p.copyTo m target count).2 = true ↔ p.CanCopy target count := by
  rcases copyTo_cases p target count with ⟨allowed, done⟩ | ⟨forbidden, refused⟩
  · simp only [done, allowed]
  · simp only [refused, Bool.false_eq_true, forbidden]

theorem bytesOf_lt_of_canCopy (allowed : p.CanCopy target count) : e.bytesOf count < 2 ^ 64 := by
  rcases allowed with rfl | ⟨_, small, _⟩
  · rw [Element.bytesOf_zero]
    decide
  · exact small

/-- A copy is made exactly if it is in order. Then the bytes of the elements go to their target and
nothing else changes, and otherwise nothing changes at all. Where elements may be copied one by one, this
does what copying their bytes does. -/
theorem copyTo_moves (m : Memory) (p target : Pointer e) (count : Int64) :
    ((p.copyTo m target count).2 = true ↔ p.CanCopy target count) ∧
      ((p.copyTo m target count).2 = true →
        m.Moved (p.copyTo m target count).1 p.address target.address (e.bytesOf count)) ∧
      ((p.copyTo m target count).2 = false → (p.copyTo m target count).1 = m) ∧
      (p.hasElements count = true → target.hasElements count = true →
        ∃ n, e.span count = some n ∧ p.hasBytes n = true ∧ target.hasBytes n = true ∧
          p.copyElements m target count.toUInt64.toNat = p.copyBytes m target n.toNat) := by
  refine ⟨copyTo_eq_true_iff, ?_, ?_, copyElements_eq_copyBytes m⟩
  all_goals rcases copyTo_cases p target count with ⟨allowed, done⟩ | ⟨_, refused⟩
  · rw [done]
    intro _
    exact m.moved_write_read _ _ (Nat.le_of_lt (bytesOf_lt_of_canCopy allowed))
  · rw [refused]
    nofun
  · rw [done]
    nofun
  · rw [refused]
    intro _
    rfl

/-! ### Copies between ranges that must not overlap -/

/-- Inside regions that begin at one place, offsets tell whether ranges overlap. -/
theorem overlaps_iff {n : UInt64} (same : p.region.origin = target.region.origin)
    (enclosed : p.Encloses n.toNat) (enclosed' : target.Encloses n.toNat) :
    p.overlaps target n = true ↔ Overlap p.address target.address n.toNat := by
  have start : target.region.start = p.region.start := by rw [Region.start, Region.start, same]
  have inside := enclosed.inside
  have inside' := enclosed'.inside
  have size := p.region.size.toNat_lt
  have size' := target.region.size.toNat_lt
  rw [address, address, start, overlap_offsets_iff (by omega) (by omega), overlaps, Bool.and_eq_true,
    decide_eq_true_eq, decide_eq_true_eq, UInt64.lt_iff_toNat_lt, UInt64.lt_iff_toNat_lt,
    UInt64.toNat_add, UInt64.toNat_add, Nat.mod_eq_of_lt (by omega), Nat.mod_eq_of_lt (by omega)]

theorem sameRegion_iff (located : ∃ base, p.region.origin = .address base) :
    p.sameRegion target = true ↔ p.region.origin = target.region.origin := by
  obtain ⟨base, origin⟩ := located
  simp [sameRegion, hasRegion, origin]

/-- The ranges of `count` elements have no bytes in common, as far as their offsets can tell: only offsets
into regions that begin at one place are compared. -/
def LooksApart (p target : Pointer e) (count : Int64) : Prop :=
  p.region.origin = target.region.origin → ¬ Overlap p.address target.address (e.bytesOf count)

/-- A copy that is in order is made if its ranges look apart; all others are refused. -/
theorem copyToNonoverlapping_outcome (m : Memory) (p target : Pointer e) (count : Int64) :
    (p.CanCopy target count ∧ p.LooksApart target count) ∧
        p.copyToNonoverlapping m target count = p.copyTo m target count ∨
      ¬ (p.CanCopy target count ∧ p.LooksApart target count) ∧
        p.copyToNonoverlapping m target count = (m, false) := by
  by_cases allowed : p.CanCopy target count
  case neg =>
    refine .inr ⟨fun both => allowed both.1, ?_⟩
    rcases copyTo_cases p target count with ⟨possible, _⟩ | ⟨_, refused⟩
    · exact absurd possible allowed
    · rcases copyToNonoverlapping_cases p target count with early | copied
      · exact early m
      · rw [copied, refused]
  by_cases positive : 0 < count
  case neg =>
    -- There is nothing to copy, and no bytes are no bytes in common.
    obtain rfl : count = 0 := allowed.resolve_right fun some => positive some.1
    refine .inl ⟨⟨allowed, ?_⟩, rfl⟩
    rw [LooksApart, Element.bytesOf_zero]
    exact fun _ => not_overlap_zero _ _
  obtain ⟨_, small, enclosed, enclosed'⟩ :=
    allowed.resolve_left fun zero => Int64.lt_irrefl (zero ▸ positive)
  have region : p.sameRegion target = true ↔ p.region.origin = target.region.origin :=
    sameRegion_iff enclosed.located
  rw [copyToNonoverlapping, Element.span_of_lt (Int64.le_of_lt positive) small,
    decide_eq_true positive, Bool.true_and]
  simp only [region]
  by_cases same : p.region.origin = target.region.origin
  case neg =>
    rw [if_neg same]
    exact .inl ⟨⟨allowed, fun here => absurd here same⟩, rfl⟩
  have bytes : (UInt64.ofNat (e.bytesOf count)).toNat = e.bytesOf count := UInt64.toNat_ofNat_of_lt' small
  have shared := overlaps_iff (n := UInt64.ofNat (e.bytesOf count)) same (by rwa [bytes]) (by rwa [bytes])
  rw [bytes] at shared
  rw [if_pos same]
  split
  · rename_i overlaps
    exact .inr ⟨fun both => both.2 same (shared.mp overlaps), rfl⟩
  · rename_i separate
    exact .inl ⟨⟨allowed, fun _ overlap => separate (shared.mpr overlap)⟩, rfl⟩

theorem copyToNonoverlapping_eq_true_iff :
    (p.copyToNonoverlapping m target count).2 = true ↔ p.CanCopy target count ∧ p.LooksApart target count := by
  rcases copyToNonoverlapping_outcome m p target count with ⟨both, copied⟩ | ⟨either, refused⟩
  · simp only [copied, copyTo_eq_true_iff, both, and_self]
  · simp only [refused, Bool.false_eq_true, either]

/-- The ranges have bytes in common, but their regions begin at different places. -/
structure Overlooked (p target : Pointer e) (count : Int64) : Prop where
  different : p.region.origin ≠ target.region.origin
  shared : Overlap p.address target.address (e.bytesOf count)

/-- What is asked of a copy between ranges that must not overlap: it is made if the plain copy would be and
the ranges have no bytes in common, and otherwise it changes nothing. -/
structure KeepsApart (m : Memory) (p target : Pointer e) (count : Int64) : Prop where
  accepted : (p.copyToNonoverlapping m target count).2 = true ↔
    (p.copyTo m target count).2 = true ∧ ¬ Overlap p.address target.address (e.bytesOf count)
  refused : (p.copyToNonoverlapping m target count).2 = false →
    (p.copyToNonoverlapping m target count).1 = m

/-- Only overlaps between regions that begin at different places are overlooked, and what is copied then is
what the plain copy copies. A copy that is refused changes nothing. -/
theorem keepsApart_iff_not_overlooked (m : Memory) (p target : Pointer e) (count : Int64) :
    (KeepsApart m p target count ↔ ¬ ((p.copyTo m target count).2 = true ∧ p.Overlooked target count)) ∧
      ((p.copyToNonoverlapping m target count).2 = true →
        p.copyToNonoverlapping m target count = p.copyTo m target count) ∧
      ((p.copyToNonoverlapping m target count).2 = false →
        (p.copyToNonoverlapping m target count).1 = m) := by
  have unchanged : (p.copyToNonoverlapping m target count).2 = false →
      (p.copyToNonoverlapping m target count).1 = m := by
    rcases copyToNonoverlapping_outcome m p target count with ⟨⟨allowed, _⟩, copied⟩ | ⟨_, refused⟩
    · intro report
      rw [copied, copyTo_eq_true_iff.mpr allowed] at report
      cases report
    · intro _
      rw [refused]
  refine ⟨⟨?_, ?_⟩, ?_, unchanged⟩
  · rintro keeps ⟨copies, overlooked⟩
    have looks : p.LooksApart target count := fun same => absurd same overlooked.different
    have accepted : (p.copyToNonoverlapping m target count).2 = true :=
      copyToNonoverlapping_eq_true_iff.mpr ⟨copyTo_eq_true_iff.mp copies, looks⟩
    exact (keeps.accepted.mp accepted).2 overlooked.shared
  · intro noticed
    refine ⟨?_, unchanged⟩
    rw [copyToNonoverlapping_eq_true_iff, ← copyTo_eq_true_iff (m := m)]
    apply and_congr_right
    intro copies
    constructor
    · intro looks overlap
      exact noticed ⟨copies, fun same => looks same overlap, overlap⟩
    · intro separate _
      exact separate
  · intro report
    rcases copyToNonoverlapping_outcome m p target count with ⟨_, copied⟩ | ⟨_, refused⟩
    · exact copied
    · rw [refused] at report
      cases report

/-- Eight bytes. -/
def leftWindow : Pointer .byte :=
  .ofSlice (some 64) 8

/-- Eight bytes of which four are also seen through the other window. -/
def rightWindow : Pointer .byte :=
  .ofSlice (some 68) 8

/-- Each byte is the last one of its address. -/
def ruler : Memory :=
  ⟨UInt64.toUInt8⟩

theorem windows_overlap_unnoticed :
    leftWindow.Overlooked rightWindow 8 ∧ ¬ KeepsApart ruler leftWindow rightWindow 8 ∧
      (leftWindow.copyToNonoverlapping ruler rightWindow 8).1.byte 68 = 64 := by
  have copies : (leftWindow.copyTo ruler rightWindow 8).2 = true := by decide
  have overlooked : leftWindow.Overlooked rightWindow 8 :=
    ⟨by decide, 70, by unfold Reaches; decide, by unfold Reaches; decide⟩
  obtain ⟨apart, copied, _⟩ := keepsApart_iff_not_overlooked ruler leftWindow rightWindow 8
  refine ⟨overlooked, fun keeps => apart.mp keeps ⟨copies, overlooked⟩, ?_⟩
  rw [copied (by decide)]
  decide

end Pointer

end TypeAtlas
