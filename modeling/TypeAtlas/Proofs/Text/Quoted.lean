import Mathlib.Algebra.Group.Nat.Defs
import TypeAtlas.Proofs.Runes
import TypeAtlas.Text.Quoted

/-!
Quoted text reads back as what was quoted, whatever its bytes. Between the quotes every rune stands either
as itself or behind a backslash, in a form from which its bytes are read whatever follows; so reading takes
the runes off one by one, and stops at the closing quote.
-/

namespace TypeAtlas.Text

/-! ### Numbers -/

theorem digitValue?_digit : ∀ d < 16, digitValue? 16 (digit d) = some d := by
  decide

/-- Digits are no marks. -/
theorem digit_ne_mark : ∀ d < 16, digit d ≠ quoteMark ∧ digit d ≠ backslash := by
  decide

/-- The last digit of a number is read when the others have been. -/
theorem takeNumber?_succ (base count acc : Nat) (t : Text) :
    takeNumber? base (count + 1) acc t =
      (takeNumber? base count acc t).bind fun (n, rest) => takeNumber? base 1 n rest := by
  induction count generalizing acc t with
  | zero => rfl
  | succ count ih =>
    cases t with
    | nil => rfl
    | cons b rest =>
      rw [takeNumber?, takeNumber?]
      cases digitValue? base b with
      | none => rfl
      | some d => exact ih _ rest

/-- The digits written for a number are read as its value. -/
theorem takeNumber?_padded (width acc n : Nat) (more : Text) :
    takeNumber? 16 width acc (padded 16 width n ++ more) = some (acc * 16 ^ width + n % 16 ^ width, more) := by
  induction width generalizing n more with
  | zero => rw [padded, takeNumber?, Nat.pow_zero, Nat.mod_one, Nat.mul_one]; rfl
  | succ width ih =>
    have value : (acc * 16 ^ width + n / 16 % 16 ^ width) * 16 + n % 16 =
        acc * 16 ^ (width + 1) + n % 16 ^ (width + 1) := by
      rw [Nat.pow_succ, Nat.mul_comm (16 ^ width) 16, Nat.mod_mul, Nat.mul_left_comm acc 16]
      omega
    have last := digitValue?_digit (n % 16) (Nat.mod_lt n (by decide))
    rw [takeNumber?_succ, padded, List.append_assoc, ih, ← value]
    simp [takeNumber?, last]

/-- A number that fits is read back. -/
theorem takeNumber?_of_lt {width n : Nat} (fits : n < 16 ^ width) (more : Text) :
    takeNumber? 16 width 0 (padded 16 width n ++ more) = some (n, more) := by
  rw [takeNumber?_padded, Nat.zero_mul, Nat.zero_add, Nat.mod_eq_of_lt fits]

theorem plain_of_mem_padded {width n : Nat} {b : UInt8} (member : b ∈ padded 16 width n) :
    b ≠ quoteMark ∧ b ≠ backslash := by
  obtain ⟨d, small, rfl⟩ := digit_of_mem_padded (by decide) member
  exact digit_ne_mark d small

/-! ### Escapes -/

/-- How a rune may stand between quotes. -/
inductive Stands : Rune → Text → Prop where
  | itself {code : Nat} {bytes : Text} (character : IsCharacter code bytes) (mark : code ≠ 0x22)
      (slash : code ≠ 0x5C) (line : code ≠ 0x0A) : Stands ⟨code, bytes⟩ bytes
  | escaped {r : Rune} {c : UInt8} {tail : Text}
      (reads : ∀ more, unescape? (c :: tail ++ more) = some (r.bytes, more))
      (plain : ∀ b ∈ tail, b ≠ quoteMark ∧ b ≠ backslash) : Stands r (backslash :: c :: tail)

theorem unescape?_letter {code : Nat} {letter : UInt8} (listed : letterEscapes.lookup code = some letter)
    (more : Text) : unescape? (letter :: more) = some ([UInt8.ofNat code], more) := by
  have unique : ∀ e ∈ letterEscapes, letterEscapes.find? (·.2 == e.2) = some e := by decide
  obtain ⟨before, after, split, _⟩ := List.lookup_eq_some_iff.mp listed
  have found := unique (code, letter) (by rw [split]; simp)
  rw [unescape?, found]

theorem unescape?_byte {n : Nat} (fits : n < 16 ^ 2) (more : Text) :
    unescape? (0x78 :: padded 16 2 n ++ more) = some ([UInt8.ofNat n], more) := by
  have noLetter : letterEscapes.find? (·.2 == 0x78) = none := by decide
  have read := takeNumber?_of_lt fits more
  rw [List.cons_append, unescape?, noLetter]
  simp [read]

/-- Four or eight digits stand for the character whose code point they write. -/
theorem unescape?_code {c : UInt8} {width n : Nat} (form : c = 0x75 ∧ width = 4 ∨ c = 0x55 ∧ width = 8)
    (scalar : isScalar n = true) (fits : n < 16 ^ width) (more : Text) :
    unescape? (c :: padded 16 width n ++ more) = some (encode n, more) := by
  have noLetter : letterEscapes.find? (·.2 == c) = none := by
    rcases form with ⟨rfl, -⟩ | ⟨rfl, -⟩ <;> decide
  have read := takeNumber?_of_lt fits more
  rw [List.cons_append, unescape?, noLetter]
  rcases form with ⟨rfl, rfl⟩ | ⟨rfl, rfl⟩
  · simp [read, scalar]
  · simp [read, scalar]

theorem unescape?_mark {c : UInt8} (mark : c = quoteMark ∨ c = backslash) (more : Text) :
    unescape? (c :: more) = some ([c], more) := by
  have noLetter : letterEscapes.find? (·.2 == c) = none := by
    rcases mark with rfl | rfl <;> decide
  rw [unescape?, noLetter]
  rcases mark with rfl | rfl <;> rfl

theorem letterEscapes_ascii : ∀ e ∈ letterEscapes, e.1 < 0x80 := by
  decide

/-- What is written for a character stands for its bytes. -/
theorem stands_character {shown : Nat → Bool} (hidden : shown 0x0A = false) {code : Nat} {bytes : Text}
    (character : IsCharacter code bytes) : Stands ⟨code, bytes⟩ (escapeUnless shown ⟨code, bytes⟩) := by
  have form : encode code = bytes := character.encode
  have single (ascii : code < 0x80) : bytes = [UInt8.ofNat code] := by
    obtain ⟨b, rfl, rfl⟩ := character.of_ascii_code ascii
    rw [UInt8.ofNat_toNat]
  have whole : (code == replacement && bytes.length == 1) = false := by
    by_cases same : code = replacement
    · rw [← form, same]
      decide
    · simp [same]
  rw [escapeUnless, if_neg (by rw [whole]; decide)]
  split
  · rename_i mark
    obtain rfl | rfl : code = 0x22 ∨ code = 0x5C := by simpa using mark
    · rw [single (by decide)]
      exact .escaped (unescape?_mark (.inl rfl)) (fun _ none => nomatch none)
    · rw [single (by decide)]
      exact .escaped (unescape?_mark (.inr rfl)) (fun _ none => nomatch none)
  rename_i unmarked
  obtain ⟨mark, slash⟩ : code ≠ 0x22 ∧ code ≠ 0x5C := by simpa using unmarked
  split
  · rename_i plain
    refine .itself character mark slash ?_
    rintro rfl
    rw [hidden] at plain
    cases plain
  split
  · rename_i letter listed
    obtain ⟨before, after, split, _⟩ := List.lookup_eq_some_iff.mp listed
    have ascii : code < 0x80 := letterEscapes_ascii (code, letter) (by rw [split]; simp)
    rw [single ascii]
    exact .escaped (unescape?_letter listed) (fun _ none => nomatch none)
  have scalar := character.isScalar
  split
  · rename_i control
    have control : code < 0x20 ∨ code = 0x7F := by simpa using control
    have ascii : code < 0x80 := by omega
    rw [single ascii]
    exact .escaped (unescape?_byte (show code < 256 by omega)) fun _ => plain_of_mem_padded
  split
  · rename_i short
    rw [← form]
    exact .escaped (unescape?_code (.inl ⟨rfl, rfl⟩) scalar short) fun _ => plain_of_mem_padded
  · rw [← form]
    have last := (isScalar_iff.mp scalar).1
    have long : code < 16 ^ 8 := by omega
    exact .escaped (unescape?_code (.inr ⟨rfl, rfl⟩) scalar long) fun _ => plain_of_mem_padded

/-- What is written for a byte outside UTF-8 stands for it. -/
theorem stands_stray (shown : Nat → Bool) (b : UInt8) :
    Stands ⟨replacement, [b]⟩ (escapeUnless shown ⟨replacement, [b]⟩) := by
  have form : escapeUnless shown ⟨replacement, [b]⟩ = backslash :: 0x78 :: padded 16 2 b.toNat := by
    simp [escapeUnless]
  rw [form]
  refine .escaped (fun more => ?_) fun _ => plain_of_mem_padded
  rw [unescape?_byte b.toNat_lt, UInt8.ofNat_toNat]

theorem stands_of_mem_runes {shown : Nat → Bool} (hidden : shown 0x0A = false) {t : Text} {r : Rune}
    (member : r ∈ t.runes) : Stands r (escapeUnless shown r) := by
  rcases cases_of_mem_runes member with character | ⟨b, rfl⟩
  · exact stands_character hidden character
  · exact stands_stray shown b

/-! ### Reading back -/

namespace Stands

variable {r : Rune} {t : Text}

theorem ne_nil (stands : Stands r t) : t ≠ [] := by
  cases stands with
  | itself character _ _ _ =>
    obtain ⟨b, rest, rfl, _⟩ := character.shape
    exact List.cons_ne_nil b rest
  | escaped _ _ => exact List.cons_ne_nil _ _

/-- One step of reading takes off what stands for one rune. -/
theorem unquoteBody? (stands : Stands r t) (fuel : Nat) (more : Text) :
    Text.unquoteBody? (fuel + 1) (t ++ more) = (Text.unquoteBody? fuel more).map (r.bytes ++ ·) := by
  cases stands with
  | @itself code _ character mark slash line =>
    -- No byte of another character is a quotation mark, a backslash or a line feed.
    have differs (c : UInt8) (ascii : c.toNat < 0x80) (other : code ≠ c.toNat) {b : UInt8} (member : b ∈ t) :
        ¬ (b == c) = true := by
      rw [beq_iff_eq]
      rintro rfl
      exact other (character.of_ascii_mem member ascii).2
    have read := character.front? more
    have form := character.encode
    obtain ⟨b, rest, rfl, _⟩ := character.shape
    have first : b ∈ b :: rest := List.mem_cons_self
    have rune : frontRune b (rest ++ more) = ⟨code, b :: rest⟩ := by
      rw [List.cons_append] at read
      rw [frontRune, read]
      simp
    have dropped : (b :: (rest ++ more)).drop (b :: rest).length = more := by simp
    rw [List.cons_append, Text.unquoteBody?, if_neg (differs quoteMark (by decide) mark first),
      if_neg (differs 0x0A (by decide) line first), if_neg (differs backslash (by decide) slash first), rune,
      Option.map_eq_bind]
    simp only [form, dropped]
    rfl
  | @escaped r c tail reads plain =>
    rw [List.cons_append, Text.unquoteBody?, if_neg (by decide), if_neg (by decide), if_pos (by decide), reads,
      Option.map_eq_bind]
    rfl

end Stands

theorem length_le_length_flatMap {rs : List Rune} {form : Rune → Text} (stands : ∀ r ∈ rs, Stands r (form r)) :
    rs.length ≤ (rs.flatMap form).length := by
  induction rs with
  | nil => exact Nat.le_refl 0
  | cons r rest ih =>
    obtain ⟨first, others⟩ := List.forall_mem_cons.mp stands
    have longer := List.length_pos_iff.mpr first.ne_nil
    have shorter := ih others
    rw [List.flatMap_cons, List.length_append, List.length_cons]
    omega

theorem unquoteBody?_flatMap {rs : List Rune} {form : Rune → Text} (stands : ∀ r ∈ rs, Stands r (form r))
    {fuel : Nat} (enough : rs.length < fuel) :
    unquoteBody? fuel (rs.flatMap form ++ [quoteMark]) = some (ofRunes rs) := by
  induction rs generalizing fuel with
  | nil =>
    obtain ⟨fuel, rfl⟩ := Nat.exists_eq_succ_of_ne_zero (Nat.ne_of_gt enough)
    rfl
  | cons r rest ih =>
    obtain ⟨first, others⟩ := List.forall_mem_cons.mp stands
    obtain ⟨fuel, rfl⟩ := Nat.exists_eq_succ_of_ne_zero (Nat.ne_of_gt (Nat.zero_lt_of_lt enough))
    rw [List.flatMap_cons, List.append_assoc, first.unquoteBody?, ih others (Nat.lt_of_succ_lt_succ enough)]
    rfl

/-- A text written between quotes is read back, if a line feed is written as an escape. -/
theorem unquote?_enclosed {shown : Nat → Bool} (hidden : shown 0x0A = false) (t : Text) :
    unquote? (quoteMark :: t.runes.flatMap (escapeUnless shown) ++ [quoteMark]) = some t := by
  have stands : ∀ r ∈ t.runes, Stands r (escapeUnless shown r) := fun r => stands_of_mem_runes hidden
  have short := length_le_length_flatMap stands
  rw [List.cons_append, unquote?, if_pos (beq_self_eq_true _), unquoteBody?_flatMap stands, ofRunes_runes]
  rw [List.length_append]
  omega

theorem unquote?_quote (t : Text) : unquote? (quote t) = some t :=
  @unquote?_enclosed isGraphic rfl t

end TypeAtlas.Text
