import TypeAtlas.Text

/-!
Reading texts that are put together. A text is a run of well-formed characters and stray bytes, and a
character is read in the same way whatever follows. So a text is read in two parts wherever the second
one does not begin with a continuation byte, as none does that begins with a byte of ASCII.
-/

namespace TypeAtlas.Text

/-! ### Characters -/

/-- A code point and its well-formed bytes. -/
inductive IsCharacter : Nat → Text → Prop where
  | one {a : UInt8} (lead : a.toNat < 0x80) : IsCharacter a.toNat [a]
  | two {a b : UInt8} (low : 0xC0 ≤ a.toNat) (high : a.toNat < 0xE0) (second : isContinuation b = true)
      (long : 0x80 ≤ (a.toNat - 0xC0) * 64 + payload b) :
      IsCharacter ((a.toNat - 0xC0) * 64 + payload b) [a, b]
  | three {a b c : UInt8} (low : 0xE0 ≤ a.toNat) (high : a.toNat < 0xF0)
      (second : isContinuation b = true) (third : isContinuation c = true)
      (long : 0x800 ≤ ((a.toNat - 0xE0) * 64 + payload b) * 64 + payload c)
      (scalar : isSurrogate (((a.toNat - 0xE0) * 64 + payload b) * 64 + payload c) = false) :
      IsCharacter (((a.toNat - 0xE0) * 64 + payload b) * 64 + payload c) [a, b, c]
  | four {a b c d : UInt8} (low : 0xF0 ≤ a.toNat) (high : a.toNat < 0xF8)
      (second : isContinuation b = true) (third : isContinuation c = true)
      (fourth : isContinuation d = true)
      (long : 0x10000 ≤ (((a.toNat - 0xF0) * 64 + payload b) * 64 + payload c) * 64 + payload d)
      (last : (((a.toNat - 0xF0) * 64 + payload b) * 64 + payload c) * 64 + payload d ≤ 0x10FFFF) :
      IsCharacter ((((a.toNat - 0xF0) * 64 + payload b) * 64 + payload c) * 64 + payload d) [a, b, c, d]

theorem isContinuation_iff {b : UInt8} :
    isContinuation b = true ↔ 0x80 ≤ b.toNat ∧ b.toNat < 0xC0 := by
  rw [isContinuation, beq_iff_eq]
  omega

theorem toNat_of_isContinuation {b : UInt8} (continues : isContinuation b = true) :
    b.toNat = 0x80 + payload b ∧ payload b < 0x40 := by
  have range := isContinuation_iff.mp continues
  rw [payload]
  omega

theorem isSurrogate_eq_false_iff {c : Nat} : isSurrogate c = false ↔ c < 0xD800 ∨ 0xDFFF < c := by
  rw [isSurrogate, Bool.and_eq_false_iff, decide_eq_false_iff_not, decide_eq_false_iff_not]
  omega

theorem isScalar_iff {c : Nat} : isScalar c = true ↔ c ≤ 0x10FFFF ∧ (c < 0xD800 ∨ 0xDFFF < c) := by
  rw [isScalar, Bool.and_eq_true, decide_eq_true_eq, Bool.not_eq_true', isSurrogate_eq_false_iff]

theorem ofNat_of_toNat_eq {b : UInt8} {n : Nat} (same : b.toNat = n) : UInt8.ofNat n = b := by
  rw [← same, UInt8.ofNat_toNat]

namespace IsCharacter

variable {code : Nat} {bytes : Text}

/-- A character at the front is found, whatever follows. -/
theorem front? (character : IsCharacter code bytes) (more : Text) :
    Text.front? (bytes ++ more) = some (code, bytes.length) := by
  cases character with
  | one lead => simp [Text.front?, lead]
  | @two a b low high second long =>
    have above : ¬ a.toNat < 0x80 ∧ ¬ a.toNat < 0xC0 := by omega
    simp [Text.front?, above, high, second, long]
  | @three a b c low high second third long scalar =>
    have above : ¬ a.toNat < 0x80 ∧ ¬ a.toNat < 0xC0 ∧ ¬ a.toNat < 0xE0 := by omega
    simp [Text.front?, above, high, second, third, long, scalar]
  | @four a b c d low high second third fourth long last =>
    have above : ¬ a.toNat < 0x80 ∧ ¬ a.toNat < 0xC0 ∧ ¬ a.toNat < 0xE0 ∧ ¬ a.toNat < 0xF0 := by omega
    simp [Text.front?, above, high, second, third, fourth, long, last]

/-- The first byte of a character is no continuation byte, and the others are. -/
theorem shape (character : IsCharacter code bytes) :
    ∃ b rest, bytes = b :: rest ∧ isContinuation b = false ∧ ∀ c ∈ rest, isContinuation c = true := by
  cases character with
  | one lead => exact ⟨_, _, rfl, by grind [isContinuation_iff], by simp⟩
  | two low high second long => exact ⟨_, _, rfl, by grind [isContinuation_iff], by simp [second]⟩
  | three low high second third long scalar =>
    exact ⟨_, _, rfl, by grind [isContinuation_iff], by simp [second, third]⟩
  | four low high second third fourth long last =>
    exact ⟨_, _, rfl, by grind [isContinuation_iff], by simp [second, third, fourth]⟩

/-- A byte of ASCII is a character of its own. -/
theorem of_ascii_mem (character : IsCharacter code bytes) {b : UInt8} (member : b ∈ bytes)
    (ascii : b.toNat < 0x80) : bytes = [b] ∧ code = b.toNat := by
  have outside {c : UInt8} (continues : isContinuation c = true) : b ≠ c := by
    rintro rfl
    have := isContinuation_iff.mp continues
    omega
  cases character with
  | one lead =>
    obtain rfl := List.mem_singleton.mp member
    exact ⟨rfl, rfl⟩
  | @two a b' low high second long =>
    have first : b ≠ a := by
      rintro rfl
      omega
    simp [first, outside second] at member
  | @three a b' c low high second third long scalar =>
    have first : b ≠ a := by
      rintro rfl
      omega
    simp [first, outside second, outside third] at member
  | @four a b' c d low high second third fourth long last =>
    have first : b ≠ a := by
      rintro rfl
      omega
    simp [first, outside second, outside third, outside fourth] at member

/-- A code of ASCII is the code of one byte. -/
theorem of_ascii_code (character : IsCharacter code bytes) (ascii : code < 0x80) :
    ∃ b : UInt8, bytes = [b] ∧ code = b.toNat := by
  cases character with
  | one lead => exact ⟨_, rfl, rfl⟩
  | two _ _ _ long | three _ _ _ _ long | four _ _ _ _ _ long => omega

theorem isScalar (character : IsCharacter code bytes) : Text.isScalar code = true := by
  rw [isScalar_iff]
  cases character with
  | one lead => omega
  | two low high second long =>
    have := toNat_of_isContinuation second
    omega
  | three low high second third long scalar =>
    have := toNat_of_isContinuation second
    have := toNat_of_isContinuation third
    exact ⟨by omega, isSurrogate_eq_false_iff.mp scalar⟩
  | four low high second third fourth long last => omega

/-- The bytes are the UTF-8 form of the code point. -/
theorem encode (character : IsCharacter code bytes) : Text.encode code = bytes := by
  have scalar := character.isScalar
  simp only [Text.encode, scalar, if_true]
  cases character with
  | one lead => rw [if_pos lead, UInt8.ofNat_toNat]
  | @two a b low high second long =>
    have tail := toNat_of_isContinuation second
    rw [if_neg (Nat.not_lt.mpr long), if_pos (by omega), ofNat_of_toNat_eq (b := a) (by omega),
      ofNat_of_toNat_eq (b := b) (by omega)]
  | @three a b c low high second third long scalar =>
    have tail := toNat_of_isContinuation second
    have tail' := toNat_of_isContinuation third
    rw [if_neg (by omega), if_neg (by omega), if_pos (by omega), ofNat_of_toNat_eq (b := a) (by omega),
      ofNat_of_toNat_eq (b := b) (by omega), ofNat_of_toNat_eq (b := c) (by omega)]
  | @four a b c d low high second third fourth long last =>
    have tail := toNat_of_isContinuation second
    have tail' := toNat_of_isContinuation third
    have tail'' := toNat_of_isContinuation fourth
    rw [if_neg (by omega), if_neg (by omega), if_neg (by omega), ofNat_of_toNat_eq (b := a) (by omega),
      ofNat_of_toNat_eq (b := b) (by omega), ofNat_of_toNat_eq (b := c) (by omega),
      ofNat_of_toNat_eq (b := d) (by omega)]

end IsCharacter

theorem exists_character {t : Text} {code width : Nat} (read : front? t = some (code, width)) :
    ∃ bytes more, t = bytes ++ more ∧ bytes.length = width ∧ IsCharacter code bytes := by
  cases t with
  | nil => cases read
  | cons a rest =>
    simp only [front?] at read
    split at read
    · rename_i lead
      cases read
      exact ⟨[a], rest, rfl, rfl, .one lead⟩
    split at read
    · cases read
    rename_i above
    split at read
    · rename_i high
      split at read
      · rename_i b more
        split at read
        · rename_i wellFormed
          cases read
          simp only [Bool.and_eq_true, decide_eq_true_eq] at wellFormed
          exact ⟨[a, b], more, rfl, rfl, .two (Nat.not_lt.mp above) high wellFormed.1 wellFormed.2⟩
        · cases read
      · cases read
    rename_i above
    split at read
    · rename_i high
      split at read
      · rename_i b c more
        split at read
        · rename_i wellFormed
          cases read
          simp only [Bool.and_eq_true, Bool.not_eq_true', decide_eq_true_eq] at wellFormed
          obtain ⟨⟨⟨second, third⟩, long⟩, scalar⟩ := wellFormed
          exact ⟨[a, b, c], more, rfl, rfl, .three (Nat.not_lt.mp above) high second third long scalar⟩
        · cases read
      · cases read
    rename_i above
    split at read
    · rename_i high
      split at read
      · rename_i b c d more
        split at read
        · rename_i wellFormed
          cases read
          simp only [Bool.and_eq_true, decide_eq_true_eq] at wellFormed
          obtain ⟨⟨⟨⟨second, third⟩, fourth⟩, long⟩, last⟩ := wellFormed
          exact ⟨[a, b, c, d], more, rfl, rfl,
            .four (Nat.not_lt.mp above) high second third fourth long last⟩
        · cases read
      · cases read
    · cases read

/-- A well-formed character at the front stays one when more follows. -/
theorem front?_append {t : Text} {found : Nat × Nat} (read : front? t = some found) (more : Text) :
    front? (t ++ more) = some found := by
  obtain ⟨code, width⟩ := found
  obtain ⟨bytes, rest, rfl, rfl, character⟩ := exists_character read
  rw [List.append_assoc]
  exact character.front? _

/-- The second of two texts may be read for itself. -/
def IsBoundary (more : Text) : Prop :=
  ∀ b, more.head? = some b → isContinuation b = false

theorem isBoundary_of_ascii {b : UInt8} (ascii : b.toNat < 0x80) (more : Text) : IsBoundary (b :: more) := by
  intro c first
  cases first
  grind [isContinuation_iff]

/-- An unfinished character is not finished at a boundary. -/
theorem front?_append_boundary (a : UInt8) (rest : Text) {more : Text} (boundary : IsBoundary more) :
    front? (a :: rest ++ more) = front? (a :: rest) := by
  cases read : front? (a :: rest) with
  | some found => exact front?_append read more
  | none =>
    cases longer : front? (a :: rest ++ more) with
    | none => rfl
    | some found =>
      obtain ⟨bytes, after, split, _, character⟩ := exists_character longer
      obtain ⟨b, tail, rfl, _, continues⟩ := character.shape
      rcases List.append_eq_append_iff.mp split with ⟨m, reaches, rfl⟩ | ⟨m, whole, rfl⟩
      · cases m with
        | nil =>
          rw [List.append_nil] at reaches
          rw [← reaches, ← List.append_nil (b :: tail), character.front?] at read
          cases read
        | cons c m =>
          -- The character would go on with the byte at the boundary.
          obtain ⟨rfl, rfl⟩ := List.cons.inj reaches
          have next := continues c (List.mem_append_right _ List.mem_cons_self)
          rw [boundary c rfl] at next
          cases next
      · rw [whole, character.front?] at read
        cases read

/-! ### Runes -/

theorem runesFrom_eq (skip : Nat) (t : Text) : runesFrom skip t = runes (t.drop skip) := by
  induction t generalizing skip with
  | nil => cases skip <;> rfl
  | cons b rest ih =>
    cases skip with
    | zero => rfl
    | succ skip => exact ih skip

theorem IsCharacter.runes_append {code : Nat} {bytes : Text} (character : IsCharacter code bytes)
    (more : Text) : runes (bytes ++ more) = ⟨code, bytes⟩ :: runes more := by
  have read := character.front? more
  obtain ⟨b, rest, rfl, _⟩ := character.shape
  rw [List.cons_append] at read
  rw [List.cons_append, runes, runesFrom, frontRune, read, runesFrom_eq]
  simp

theorem runes_stray {b : UInt8} {rest : Text} (unread : front? (b :: rest) = none) :
    runes (b :: rest) = ⟨replacement, [b]⟩ :: runes rest := by
  rw [runes, runesFrom, frontRune, unread]
  rfl

/-- Reading a text rune by rune. -/
@[elab_as_elim]
theorem runes_induction {motive : Text → Prop} (nil : motive [])
    (character : ∀ {code bytes} more, IsCharacter code bytes → motive more → motive (bytes ++ more))
    (stray : ∀ b rest, front? (b :: rest) = none → motive rest → motive (b :: rest)) (t : Text) :
    motive t := by
  induction size : t.length using Nat.strongRecOn generalizing t with
  | ind n ih =>
    cases t with
    | nil => exact nil
    | cons b rest =>
      cases read : front? (b :: rest) with
      | none => exact stray b rest read (ih rest.length (by simp [← size]) rest rfl)
      | some found =>
        obtain ⟨bytes, more, split, _, isCharacter⟩ := exists_character read
        obtain ⟨a, tail, rfl, _⟩ := isCharacter.shape
        rw [split] at size ⊢
        refine character more isCharacter (ih more.length ?_ more rfl)
        rw [← size, List.length_append, List.length_cons]
        omega

theorem ofRunes_runes (t : Text) : ofRunes t.runes = t := by
  induction t using runes_induction with
  | nil => rfl
  | character more isCharacter ih =>
    rw [isCharacter.runes_append, ofRunes, List.flatMap_cons]
    exact congrArg _ ih
  | stray b rest unread ih =>
    rw [runes_stray unread, ofRunes, List.flatMap_cons]
    exact congrArg _ ih

/-- A rune is a character, or a byte that belongs to none. -/
theorem cases_of_mem_runes {t : Text} {r : Rune} (member : r ∈ t.runes) :
    IsCharacter r.code r.bytes ∨ ∃ b, r = ⟨replacement, [b]⟩ := by
  induction t using runes_induction with
  | nil => cases member
  | character more isCharacter ih =>
    rw [isCharacter.runes_append] at member
    rcases List.mem_cons.mp member with rfl | later
    · exact .inl isCharacter
    · exact ih later
  | stray b rest unread ih =>
    rw [runes_stray unread] at member
    rcases List.mem_cons.mp member with rfl | later
    · exact .inr ⟨b, rfl⟩
    · exact ih later

/-- What is read from a boundary on does not depend on what stands before it. -/
theorem runes_append (t : Text) {more : Text} (boundary : IsBoundary more) :
    runes (t ++ more) = runes t ++ runes more := by
  induction t using runes_induction with
  | nil => rfl
  | character rest isCharacter ih =>
    rw [List.append_assoc, isCharacter.runes_append, isCharacter.runes_append, ih, List.cons_append]
  | stray b rest unread ih =>
    have unread' : front? (b :: (rest ++ more)) = none :=
      (front?_append_boundary b rest boundary).trans unread
    rw [List.cons_append, runes_stray unread', runes_stray unread, ih, List.cons_append]

/-- Characters are read as themselves, whatever follows them. -/
theorem runes_ofRunes_append {rs : List Rune} (each : ∀ r ∈ rs, IsCharacter r.code r.bytes) (more : Text) :
    runes (ofRunes rs ++ more) = rs ++ runes more := by
  induction rs with
  | nil => rfl
  | cons r rest ih =>
    obtain ⟨first, others⟩ := List.forall_mem_cons.mp each
    rw [ofRunes, List.flatMap_cons, List.append_assoc, first.runes_append, List.cons_append]
    exact congrArg _ (ih others)

theorem codes_append_ascii (t : Text) {b : UInt8} (ascii : b.toNat < 0x80) (more : Text) :
    codes (t ++ b :: more) = codes t ++ codes (b :: more) := by
  rw [codes, runes_append t (isBoundary_of_ascii ascii more), List.map_append]
  rfl

theorem codes_cons_ascii {b : UInt8} (ascii : b.toNat < 0x80) (rest : Text) :
    codes (b :: rest) = b.toNat :: codes rest := by
  have read := (IsCharacter.one ascii).runes_append rest
  rw [List.singleton_append] at read
  rw [codes, read]
  rfl

theorem codes_of_ascii {t : Text} (ascii : ∀ b ∈ t, b.toNat < 0x80) : codes t = t.map UInt8.toNat := by
  induction t with
  | nil => rfl
  | cons b rest ih =>
    obtain ⟨first, others⟩ := List.forall_mem_cons.mp ascii
    rw [codes_cons_ascii first, ih others, List.map_cons]

/-! ### Numerals -/

theorem digit_toNat {n : Nat} (small : n < 10) : (digit n).toNat = 0x30 + n := by
  rw [digit, if_pos small, UInt8.toNat_ofNat_of_lt']
  show 0x30 + n < 256
  omega

theorem length_padded (base width n : Nat) : (padded base width n).length = width := by
  induction width generalizing n with
  | zero => rfl
  | succ width ih => simp [padded, ih]

theorem digit_of_mem_padded {base width n : Nat} (positive : 0 < base) {b : UInt8}
    (member : b ∈ padded base width n) : ∃ d < base, b = digit d := by
  induction width generalizing n with
  | zero => cases member
  | succ width ih =>
    rcases List.mem_append.mp member with before | last
    · exact ih before
    · exact ⟨n % base, Nat.mod_lt n positive, List.mem_singleton.mp last⟩

/-- Numerals are made of decimal digits. -/
theorem mem_ofNat {n : Nat} {b : UInt8} (member : b ∈ ofNat n) : 0x30 ≤ b.toNat ∧ b.toNat ≤ 0x39 := by
  obtain ⟨d, small, rfl⟩ := digit_of_mem_padded (by decide) member
  rw [digit_toNat small]
  omega

theorem ofNat_ne_nil (n : Nat) : ofNat n ≠ [] := by
  rw [← List.length_pos_iff, ofNat, numeral, length_padded]
  cases n.log2.succ with
  | zero => exact Nat.one_pos
  | succ fuel =>
    rw [numeralWidth]
    split
    · exact Nat.one_pos
    · exact Nat.succ_pos _

end TypeAtlas.Text
