import TypeAtlas.Proofs.Pointer.Checked

/-!
How far moves lead. Each move has a displacement in bytes, an integer without bounds; for a move to an
address it is what is missing to that address. Counts of elements and of bytes, signed and unsigned, all
meet in one equation: any number of moves adds the sum of their displacements to the offset, modulo the
word, and keeps the region. What can be said about the order of moves, about moves that cancel and about
the way back follows from it.
-/

namespace TypeAtlas

/-! ### Integers as words -/

namespace Word

theorem toNat_ofInt (d : Int) : ((UInt64.ofInt d).toNat : Int) = d % 2 ^ 64 := by
  rw [UInt64.ofInt, UInt64.toNat_ofNat']
  omega

theorem ofInt_toNat (w : UInt64) : UInt64.ofInt w.toNat = w := by
  apply UInt64.toNat_inj.mp
  have word := toNat_ofInt w.toNat
  have range := w.toNat_lt
  omega

theorem ofInt_toInt (i : Int64) : UInt64.ofInt i.toInt = i.toUInt64 := by
  apply UInt64.toNat_inj.mp
  have word := toNat_ofInt i.toInt
  rw [← toNat_toUInt64] at word
  exact Int.ofNat.inj word

end Word

/-! ### Displacements -/

namespace Move

/-- The bytes that a move leads on from the address `here`, in exact arithmetic. -/
def displacement (e : Element) (here : UInt64) : Move → Int
  | .offset count | .wrappingOffset count => e.distance count
  | .add count | .wrappingAdd count => count.toNat * e.size.toNat
  | .sub count | .wrappingSub count => -(count.toNat * e.size.toNat)
  | .byteAdd n => n.toNat
  | .byteSub n => -n.toNat
  | .withAddress addr => addr.toNat - here.toNat

/-- The sum of the displacements of moves that begin at `here`. Each of them begins where those before it
have led, which is known up to multiples of the word. -/
def total (e : Element) (here : UInt64) : List Move → Int
  | [] => 0
  | m :: rest =>
    let d := m.displacement e here
    d + total e (here + UInt64.ofInt d) rest

/-- The move leads equally far from everywhere. -/
def isRelative : Move → Bool
  | .withAddress _ => false
  | _ => true

theorem displacement_of_isRelative {m : Move} (relative : m.isRelative = true) (e : Element)
    (here there : UInt64) : m.displacement e here = m.displacement e there := by
  cases m with
  | withAddress _ => cases relative
  | offset _ | add _ | sub _ | byteAdd _ | byteSub _ | wrappingOffset _ | wrappingAdd _ | wrappingSub _ =>
    rfl

end Move

namespace Pointer

variable {e : Element}

/-! ### Moves add up -/

theorem byteAdd_byteAdd (p : Pointer e) (n k : UInt64) : (p.byteAdd n).byteAdd k = p.byteAdd (n + k) := by
  simp only [byteAdd, UInt64.add_assoc]

theorem byteAdd_zero (p : Pointer e) : p.byteAdd 0 = p := by
  simp only [byteAdd, UInt64.add_zero]

theorem byteSub_eq (p : Pointer e) (n : UInt64) : p.byteSub n = p.byteAdd (-n) := by
  simp only [byteSub, byteAdd, UInt64.sub_eq_add_neg]

theorem address_byteAdd (p : Pointer e) (n : UInt64) : (p.byteAdd n).address = p.address + n := by
  simp only [address, byteAdd, UInt64.add_assoc]

/-- Every move adds its displacement. -/
theorem move_eq (p : Pointer e) (m : Move) :
    p.move m = p.byteAdd (UInt64.ofInt (m.displacement e p.address)) := by
  cases m with
  | offset count | wrappingOffset count =>
    simp only [move, offsetBy, Move.displacement, Element.distance, UInt64.ofInt_mul, Word.ofInt_toInt,
      Word.ofInt_toNat]
  | add count | wrappingAdd count =>
    simp only [move, add, Move.displacement, UInt64.ofInt_mul, Word.ofInt_toNat]
  | sub count | wrappingSub count =>
    simp only [move, sub, byteSub_eq, Move.displacement, UInt64.ofInt_neg, UInt64.ofInt_mul,
      Word.ofInt_toNat]
  | byteAdd n => simp only [move, Move.displacement, Word.ofInt_toNat]
  | byteSub n => simp only [move, byteSub_eq, Move.displacement, UInt64.ofInt_neg, Word.ofInt_toNat]
  | withAddress addr =>
    simp only [move, withAddress, Move.displacement, Int.sub_eq_add_neg, UInt64.ofInt_add, UInt64.ofInt_neg,
      Word.ofInt_toNat, UInt64.sub_eq_add_neg]

/-- Any number of moves adds the sum of their displacements. -/
theorem moves_eq (p : Pointer e) (ms : List Move) :
    p.moves ms = p.byteAdd (UInt64.ofInt (Move.total e p.address ms)) := by
  induction ms generalizing p with
  | nil => exact p.byteAdd_zero.symm
  | cons m rest ih =>
    have first : p.moves (m :: rest) = (p.move m).moves rest := rfl
    rw [first, ih, move_eq, byteAdd_byteAdd, address_byteAdd, Move.total, UInt64.ofInt_add]

theorem toNat_offset_byteAdd (p : Pointer e) (d : Int) :
    ((p.byteAdd (UInt64.ofInt d)).offset.toNat : Int) = (p.offset.toNat + d) % 2 ^ 64 := by
  have word := Word.toNat_ofInt d
  rw [byteAdd, UInt64.toNat_add]
  omega

theorem move_comm {m m' : Move} (relative : m.isRelative = true) (relative' : m'.isRelative = true)
    (p : Pointer e) : (p.move m).move m' = (p.move m').move m := by
  rw [move_eq (p.move m), move_eq (p.move m'), m.displacement_of_isRelative relative e _ p.address,
    m'.displacement_of_isRelative relative' e _ p.address, move_eq, move_eq, byteAdd_byteAdd,
    byteAdd_byteAdd, UInt64.add_comm]

/-! ### There and back -/

theorem address_withAddress (p : Pointer e) (addr : UInt64) : (p.withAddress addr).address = addr := by
  rw [withAddress, address_byteAdd, UInt64.add_comm, UInt64.sub_add_cancel]

/-- The way back is as long as a signed word says, if one can say it. -/
theorem toInt_byteOffsetFrom (p : Pointer e) {d : Int}
    (counted : Int64.minValue.toInt ≤ d ∧ d ≤ Int64.maxValue.toInt) :
    ((p.byteAdd (UInt64.ofInt d)).byteOffsetFrom p).toInt = d := by
  rw [Int64.toInt_minValue, Int64.toInt_maxValue] at counted
  rw [byteOffsetFrom, address_byteAdd, UInt64.add_comm, UInt64.add_sub_cancel, Word.toInt_toInt64,
    Word.toNat_ofInt]
  exact (Int.emod_bmod d (2 ^ 64)).trans (Int.bmod_eq_of_le (by omega) (by omega))

/-! ### What moves do -/

/-- How moves act on a pointer, wherever its offset is and whatever its region. -/
structure ActedOn (p : Pointer e) : Prop where
  region : ∀ ms, (p.moves ms).region = p.region
  offset : ∀ ms,
    ((p.moves ms).offset.toNat : Int) = (p.offset.toNat + Move.total e p.address ms) % 2 ^ 64
  -- Moves that do not name an address may be made in any order.
  reordered : ∀ ms ms' : List Move, ms.Perm ms' → (∀ m ∈ ms, m.isRelative = true) → p.moves ms = p.moves ms'
  -- Moves that cancel lead back to the pointer itself.
  restored : ∀ ms, 2 ^ 64 ∣ Move.total e p.address ms → p.moves ms = p
  addressed : ∀ addr, (p.withAddress addr).address = addr
  -- The distance back is the one that was asked for, in bytes and in elements.
  measured : ∀ count : Int64,
    Int64.minValue.toInt ≤ e.distance count ∧ e.distance count ≤ Int64.maxValue.toInt →
      ((p.offsetBy count).byteOffsetFrom p).toInt = count.toInt * e.size.toNat ∧
        (e.size ≠ 0 → e.size ≤ Int64.maxValue.toUInt64 → (p.offsetBy count).offsetFrom p = .ok count)

theorem moves_act_exactly (p : Pointer e) : p.ActedOn := by
  constructor
  case region =>
    intro ms
    rw [moves_eq]
    rfl
  case offset =>
    intro ms
    rw [moves_eq, toNat_offset_byteAdd]
  case reordered =>
    intro ms ms' perm relative
    apply perm.foldl_eq'
    intro m member m' member' q
    exact move_comm (relative m member) (relative m' member') q
  case restored =>
    intro ms cancels
    have word := Word.toNat_ofInt (Move.total e p.address ms)
    have zero : UInt64.ofInt (Move.total e p.address ms) = 0 := by
      apply UInt64.toNat_inj.mp
      rw [Int.emod_eq_zero_of_dvd cancels] at word
      exact Int.ofNat.inj word
    rw [moves_eq, zero, byteAdd_zero]
  case addressed => exact p.address_withAddress
  case measured =>
    intro count counted
    have moved : p.offsetBy count = p.byteAdd (UInt64.ofInt (e.distance count)) := p.move_eq (.offset count)
    have bytes : ((p.offsetBy count).byteOffsetFrom p).toInt = e.distance count := by
      rw [moved, toInt_byteOffsetFrom p counted]
    refine ⟨bytes, ?_⟩
    intro nonzero bounded
    exact offsetFrom_of_bytes bytes (Nat.lt_succ_of_le (UInt64.le_iff_toNat_le.mp bounded)) nonzero

-- Down past the first address and on to the old one: the moves cancel, once around all addresses.
example : Move.total ⟨8, 8⟩ 16 [.offset (-3), .withAddress 16] = -2 ^ 64 ∧
    (symbolic 0 8 : Pointer ⟨8, 8⟩).moves [.byteAdd 16, .offset (-3), .withAddress 16, .sub 2] =
      symbolic 0 8 := by
  decide

end Pointer

end TypeAtlas
