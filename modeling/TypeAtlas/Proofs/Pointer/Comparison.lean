import Mathlib.Logic.Function.Basic
import TypeAtlas.Proofs.Pointer.Displacement

/-!
Comparing pointers before all of them have an address. A placement says where the regions without an
address come to lie; under it every pointer has one. What a comparison is sure of is exactly what holds
under all placements: pointers of one region are as far apart as their offsets wherever the region lies,
and of other regions one can be placed so that the pointers meet or so that they miss each other. The laws
of the comparisons, and that moving both pointers alike changes no answer, follow from this alone.
-/

namespace TypeAtlas

theorem Word.ofInt_eq_of_dvd {a b : Int} (alike : 2 ^ 64 ∣ a - b) : UInt64.ofInt a = UInt64.ofInt b := by
  have first := toNat_ofInt a
  have second := toNat_ofInt b
  apply UInt64.toNat_inj.mp
  omega

/-- Relative moves lead equally far from wherever they begin. -/
theorem Move.total_of_isRelative {ms : List Move} (relative : ∀ m ∈ ms, m.isRelative = true) {e : Element}
    (here there : UInt64) : total e here ms = total e there ms := by
  induction ms generalizing here there with
  | nil => rfl
  | cons m rest ih =>
    obtain ⟨first, later⟩ := List.forall_mem_cons.mp relative
    simp only [total]
    rw [displacement_of_isRelative first e here there,
      ih later (here + UInt64.ofInt (m.displacement e there)) (there + UInt64.ofInt (m.displacement e there))]

/-! ### Placements -/

namespace Region

variable {place : Nat → UInt64} {r r' : Region}

/-- The address of the first byte, where `place` gives one to the regions without. -/
def startUnder (place : Nat → UInt64) (r : Region) : UInt64 :=
  match r.origin with
  | .symbol id => place id
  | _ => r.start

theorem startUnder_congr (same : r.origin = r'.origin) : r.startUnder place = r'.startUnder place := by
  simp only [startUnder, start, same]

theorem startUnder_of_isSymbolic_false (real : r.isSymbolic = false) : r.startUnder place = r.start := by
  unfold isSymbolic at real
  unfold startUnder
  split
  · rename_i symbol
    simp [symbol] at real
  · rfl

/-- Placing one region leaves the others where they are. -/
theorem startUnder_update {id : Nat} (other : r.origin ≠ .symbol id) (addr : UInt64) :
    r.startUnder (Function.update place id addr) = r.startUnder place := by
  unfold startUnder
  split
  · rename_i id' symbol
    apply Function.update_of_ne
    rintro rfl
    exact other symbol
  · rfl

end Region

namespace Pointer

variable {e : Element} {p q : Pointer e} {place : Nat → UInt64}

def addressUnder (place : Nat → UInt64) (p : Pointer e) : UInt64 :=
  p.region.startUnder place + p.offset

theorem addressUnder_byteAdd (n : UInt64) :
    (p.byteAdd n).addressUnder place = p.addressUnder place + n := by
  simp only [addressUnder, byteAdd, UInt64.add_assoc]

theorem addressUnder_of_isSymbolic_false (real : p.isSymbolic = false) :
    p.addressUnder place = p.address := by
  rw [addressUnder, Region.startUnder_of_isSymbolic_false real, address]

/-- Wherever their region lies, pointers of one region meet only at one offset. -/
theorem addressUnder_inj (same : p.region.origin = q.region.origin) :
    p.addressUnder place = q.addressUnder place ↔ p.offset = q.offset := by
  rw [addressUnder, addressUnder, Region.startUnder_congr same, UInt64.add_right_inj]

/-- A region without an address can be placed at any distance from a pointer of another region. -/
theorem exists_addressUnder_eq (symbolic : p.isSymbolic = true)
    (apart : p.region.origin ≠ q.region.origin) (gap : UInt64) :
    ∃ place, p.addressUnder place = q.addressUnder place + gap := by
  cases origin : p.region.origin with
  | none | address _ => simp [isSymbolic, Region.isSymbolic, origin] at symbolic
  | symbol id =>
    let elsewhere := q.addressUnder fun _ => 0
    have other : q.region.origin ≠ .symbol id := fun same => apart (origin.trans same.symm)
    refine ⟨Function.update (fun _ => 0) id (elsewhere + gap - p.offset), ?_⟩
    have start : q.addressUnder (Function.update (fun _ => 0) id (elsewhere + gap - p.offset)) = elsewhere := by
      rw [addressUnder, Region.startUnder_update other]
      rfl
    rw [start, addressUnder, Region.startUnder, origin]
    simp only [Function.update_self, UInt64.sub_add_cancel]

/-- Of two regions, one without an address, nothing is certain: their pointers may meet and may not. -/
theorem exists_addressUnder_eq_and_ne (symbolic : (p.isSymbolic || q.isSymbolic) = true)
    (apart : p.region.origin ≠ q.region.origin) :
    (∃ place, p.addressUnder place = q.addressUnder place) ∧
      ∃ place, p.addressUnder place ≠ q.addressUnder place := by
  have next (a : UInt64) : a + 1 ≠ a := by simp
  rcases Bool.or_eq_true_iff.mp symbolic with symbolic | symbolic
  · obtain ⟨place, meet⟩ := exists_addressUnder_eq symbolic apart 0
    obtain ⟨place', miss⟩ := exists_addressUnder_eq symbolic apart 1
    rw [UInt64.add_zero] at meet
    exact ⟨⟨place, meet⟩, place', miss ▸ next _⟩
  · obtain ⟨place, meet⟩ := exists_addressUnder_eq symbolic apart.symm 0
    obtain ⟨place', miss⟩ := exists_addressUnder_eq symbolic apart.symm 1
    rw [UInt64.add_zero] at meet
    exact ⟨⟨place, meet.symm⟩, place', miss ▸ (next _).symm⟩

/-! ### What is certain -/

/-- One comparison or the other is made on the offsets of one region, on addresses, or not at all. -/
theorem compare_cases (p q : Pointer e) :
    (p.region.origin = q.region.origin ∧ (p.surelyEqual q = true ↔ p.offset = q.offset) ∧
        (p.surelyDifferent q = true ↔ p.offset ≠ q.offset)) ∨
      (p.isSymbolic = false ∧ q.isSymbolic = false ∧ (p.surelyEqual q = true ↔ p.address = q.address) ∧
        (p.surelyDifferent q = true ↔ p.address ≠ q.address)) ∨
      ((p.isSymbolic || q.isSymbolic) = true ∧ p.region.origin ≠ q.region.origin ∧
        p.surelyEqual q = false ∧ p.surelyDifferent q = false) := by
  unfold surelyEqual surelyDifferent
  by_cases symbolic : (p.isSymbolic || q.isSymbolic) = true
  · by_cases same : p.region.origin = q.region.origin
    · exact .inl ⟨same, by simp [symbolic, same]⟩
    · exact .inr (.inr ⟨symbolic, same, by simp [symbolic, same]⟩)
  · obtain ⟨first, second⟩ := Bool.or_eq_false_iff.mp (Bool.eq_false_iff.mpr symbolic)
    exact .inr (.inl ⟨first, second, by simp [first, second]⟩)

theorem surelyEqual_iff :
    p.surelyEqual q = true ↔ ∀ place, p.addressUnder place = q.addressUnder place := by
  rcases compare_cases p q with ⟨same, equal, _⟩ | ⟨first, second, equal, _⟩ | ⟨symbolic, apart, equal, _⟩
  · simp only [equal, addressUnder_inj same, forall_const]
  · simp only [equal, addressUnder_of_isSymbolic_false first, addressUnder_of_isSymbolic_false second,
      forall_const]
  · obtain ⟨_, place, miss⟩ := exists_addressUnder_eq_and_ne symbolic apart
    simp only [equal, Bool.false_eq_true, false_iff]
    exact fun always => miss (always place)

theorem surelyDifferent_iff :
    p.surelyDifferent q = true ↔ ∀ place, p.addressUnder place ≠ q.addressUnder place := by
  rcases compare_cases p q with ⟨same, _, different⟩ | ⟨first, second, _, different⟩ |
    ⟨symbolic, apart, _, different⟩
  · simp only [different, ne_eq, addressUnder_inj same, forall_const]
  · simp only [different, ne_eq, addressUnder_of_isSymbolic_false first,
      addressUnder_of_isSymbolic_false second, forall_const]
  · obtain ⟨⟨place, meet⟩, _⟩ := exists_addressUnder_eq_and_ne symbolic apart
    simp only [different, Bool.false_eq_true, false_iff]
    exact fun never => never place meet

/-! ### Moving both pointers -/

theorem addressUnder_moves (p : Pointer e) (ms : List Move) :
    (p.moves ms).addressUnder place =
      p.addressUnder place + UInt64.ofInt (Move.total e p.address ms) := by
  rw [moves_eq, addressUnder_byteAdd]

/-- Pointers that are moved equally far, up to multiples of the word, compare as before. -/
theorem compare_moves {ms ms' : List Move}
    (alike : 2 ^ 64 ∣ Move.total e p.address ms - Move.total e q.address ms') :
    (p.moves ms).surelyEqual (q.moves ms') = p.surelyEqual q ∧
      (p.moves ms).surelyDifferent (q.moves ms') = p.surelyDifferent q := by
  have word := Word.ofInt_eq_of_dvd alike
  constructor
  · rw [Bool.eq_iff_iff, surelyEqual_iff, surelyEqual_iff]
    simp only [addressUnder_moves, word, UInt64.add_left_inj]
  · rw [Bool.eq_iff_iff, surelyDifferent_iff, surelyDifferent_iff]
    simp only [addressUnder_moves, word, ne_eq, UInt64.add_left_inj]

/-! ### The comparisons -/

/-- What the comparisons of pointers to one type say, and the laws that they keep. -/
structure CertainComparisons (e : Element) : Prop where
  equal : ∀ p q : Pointer e,
    p.surelyEqual q = true ↔ ∀ place, p.addressUnder place = q.addressUnder place
  different : ∀ p q : Pointer e,
    p.surelyDifferent q = true ↔ ∀ place, p.addressUnder place ≠ q.addressUnder place
  equivalence : Equivalence fun p q : Pointer e => p.surelyEqual q = true
  symmetric : ∀ p q : Pointer e, p.surelyDifferent q = q.surelyDifferent p
  exclusive : ∀ p q : Pointer e, (p.surelyEqual q && p.surelyDifferent q) = false
  -- Both pointers are moved equally far, each on its own way; so are they by the same relative moves.
  moved : ∀ (p q : Pointer e) (ms ms' : List Move),
    2 ^ 64 ∣ Move.total e p.address ms - Move.total e q.address ms' →
      (p.moves ms).surelyEqual (q.moves ms') = p.surelyEqual q ∧
        (p.moves ms).surelyDifferent (q.moves ms') = p.surelyDifferent q
  movedTogether : ∀ (p q : Pointer e) (ms : List Move), (∀ m ∈ ms, m.isRelative = true) →
    (p.moves ms).surelyEqual (q.moves ms) = p.surelyEqual q ∧
      (p.moves ms).surelyDifferent (q.moves ms) = p.surelyDifferent q

/-- A comparison is sure of exactly what holds wherever the regions without an address come to lie. To be
surely equal is an equivalence, to be surely different is symmetric, no two pointers are both, and moving
two pointers equally far changes neither answer. -/
theorem comparisons_certain (e : Element) : CertainComparisons e := by
  constructor
  case equal => exact fun p q => surelyEqual_iff
  case different => exact fun p q => surelyDifferent_iff
  case equivalence =>
    simp only [surelyEqual_iff]
    exact ⟨fun p place => rfl, fun same place => (same place).symm,
      fun first second place => (first place).trans (second place)⟩
  case symmetric =>
    intro p q
    rw [Bool.eq_iff_iff, surelyDifferent_iff, surelyDifferent_iff]
    exact forall_congr' fun place => ne_comm
  case exclusive =>
    intro p q
    rw [Bool.eq_false_iff, ne_eq, Bool.and_eq_true, surelyEqual_iff, surelyDifferent_iff]
    -- There is a placement to hold both against.
    exact fun both => both.2 (fun _ => 0) (both.1 fun _ => 0)
  case moved => exact fun p q ms ms' alike => compare_moves alike
  case movedTogether =>
    intro p q ms relative
    apply compare_moves
    rw [Move.total_of_isRelative relative p.address q.address, Int.sub_self]
    exact Int.dvd_zero _

-- Nothing is certain of a pointer with an address and one without, at whatever offsets.
example : (ofAddress 16 : Pointer ⟨8, 8⟩).surelyEqual (symbolic 0 8) = false ∧
    (ofAddress 16 : Pointer ⟨8, 8⟩).surelyDifferent (symbolic 0 8) = false ∧
    (symbolic 0 8 : Pointer ⟨8, 8⟩).surelyDifferent ((symbolic 0 8).add 1) = true := by
  decide

end Pointer

end TypeAtlas
