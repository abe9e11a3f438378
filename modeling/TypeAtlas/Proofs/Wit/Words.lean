import Mathlib.Data.List.Basic
import TypeAtlas.Proofs.Runes
import TypeAtlas.Wit.Kebab

/-!
Names in kebab case, for the names of ASCII letters, digits and underscores. What is written are the words
of the name in lower case, with one hyphen between two of them. In a label every word starts with a letter;
a word of a name starts with a digit where the digit follows an underscore.
-/

namespace TypeAtlas

namespace Text

theorem join_eq_intercalate (sep : Text) (texts : List Text) : join sep texts = sep.intercalate texts := by
  induction texts with
  | nil => rfl
  | cons t rest ih =>
    cases rest with
    | nil => exact List.intercalate_singleton.symm
    | cons t' rest =>
      rw [join, ih, List.intercalate_cons_cons]
      exact List.cons_ne_nil _ _

theorem ofCodes_append (cs ds : List Nat) : ofCodes (cs ++ ds) = ofCodes cs ++ ofCodes ds :=
  List.flatMap_append

theorem ofCodes_intercalate (sep : List Nat) (codes : List (List Nat)) :
    ofCodes (sep.intercalate codes) = join (ofCodes sep) (codes.map ofCodes) := by
  rw [join_eq_intercalate]
  induction codes with
  | nil => rfl
  | cons cs rest ih =>
    cases rest with
    | nil => simp
    | cons ds rest =>
      rw [List.intercalate_cons_cons, ofCodes_append, ofCodes_append, ih]
      simp only [List.map_cons, List.intercalate_cons_cons]

theorem ofCodes_of_ascii {codes : List Nat} (ascii : ∀ c ∈ codes, c < 0x80) :
    ofCodes codes = codes.map UInt8.ofNat := by
  induction codes with
  | nil => rfl
  | cons c rest ih =>
    obtain ⟨first, others⟩ := List.forall_mem_cons.mp ascii
    have scalar : isScalar c = true := isScalar_iff.mpr (by omega)
    have single : encode c = [UInt8.ofNat c] := by simp only [encode, scalar, if_true, if_pos first]
    show encode c ++ ofCodes rest = _
    rw [single, ih others]
    rfl

end Text

namespace Kebab

/-! ### The words of a name -/

/-- Whether a word ends with `c` before the rest of the name. -/
def endsWord (c : Nat) : List Nat → Bool
  | [] => true
  | d :: rest => d == underscore || (Text.isUpper d && startsWord (some c) rest.head?)

/-- The words of a name, without the underscores. -/
def split : List Nat → List (List Nat)
  | [] => []
  | c :: rest =>
    if c = underscore then split rest
    else if endsWord c rest then [c] :: split rest
    else (split rest).modifyHead (c :: ·)

@[simp]
theorem split_underscore (rest : List Nat) : split (underscore :: rest) = split rest :=
  if_pos rfl

theorem split_of_ends {c : Nat} {rest : List Nat} (solid : c ≠ underscore) (ends : endsWord c rest = true) :
    split (c :: rest) = [c] :: split rest := by
  rw [split, if_neg solid, if_pos ends]

theorem split_of_goes {c : Nat} {rest : List Nat} (solid : c ≠ underscore)
    (goes : endsWord c rest = false) :
    split (c :: rest) = (split rest).modifyHead (c :: ·) := by
  rw [split, if_neg solid, if_neg (Bool.eq_false_iff.mp goes)]

/-- A word that goes on goes on with a letter or a digit. -/
theorem exists_of_goes {c : Nat} {rest : List Nat} (goes : endsWord c rest = false) :
    ∃ d more, rest = d :: more ∧ d ≠ underscore := by
  cases rest with
  | nil => cases goes
  | cons d more =>
    refine ⟨d, more, rfl, ?_⟩
    rintro rfl
    simp [endsWord] at goes

/-- The first word starts with the first letter. -/
theorem exists_split {c : Nat} (solid : c ≠ underscore) (rest : List Nat) :
    ∃ w ws, split (c :: rest) = (c :: w) :: ws := by
  induction rest generalizing c with
  | nil => exact ⟨[], [], split_of_ends solid rfl⟩
  | cons d more ih =>
    cases ends : endsWord c (d :: more) with
    | true => exact ⟨[], _, split_of_ends solid ends⟩
    | false =>
      obtain ⟨d', more', same, solid'⟩ := exists_of_goes ends
      cases same
      obtain ⟨w, ws, found⟩ := ih solid'
      exact ⟨d :: w, ws, by rw [split_of_goes solid ends, found, List.modifyHead_cons]⟩

theorem split_ne_nil {c : Nat} (solid : c ≠ underscore) (rest : List Nat) : split (c :: rest) ≠ [] := by
  obtain ⟨w, ws, found⟩ := exists_split solid rest
  rw [found]
  exact List.cons_ne_nil _ _

/-- The words are the name without its underscores. -/
theorem flatten_split (codes : List Nat) : (split codes).flatten = codes.filter (· ≠ underscore) := by
  induction codes with
  | nil => rfl
  | cons c rest ih =>
    by_cases solid : c = underscore
    · subst solid
      rw [split_underscore, ih]
      rfl
    · have kept : (c :: rest).filter (· ≠ underscore) = c :: rest.filter (· ≠ underscore) :=
        List.filter_cons_of_pos (by simpa using solid)
      cases ends : endsWord c rest with
      | true => rw [split_of_ends solid ends, List.flatten_cons, ih, kept, List.singleton_append]
      | false =>
        obtain ⟨d, more, rfl, solid'⟩ := exists_of_goes ends
        obtain ⟨w, ws, found⟩ := exists_split solid' more
        rw [split_of_goes solid ends, kept, ← ih, found]
        rfl

theorem mem_of_mem_split {codes w : List Nat} (member : w ∈ split codes) {c : Nat} (inside : c ∈ w) :
    c ∈ codes ∧ c ≠ underscore := by
  have kept : c ∈ codes.filter (· ≠ underscore) :=
    flatten_split codes ▸ List.mem_flatten_of_mem member inside
  simpa using kept

theorem ne_nil_of_mem_split {codes w : List Nat} (member : w ∈ split codes) : w ≠ [] := by
  induction codes generalizing w with
  | nil => cases member
  | cons c rest ih =>
    by_cases solid : c = underscore
    · subst solid
      exact ih (split_underscore rest ▸ member)
    · cases ends : endsWord c rest with
      | true =>
        rw [split_of_ends solid ends] at member
        rcases List.mem_cons.mp member with rfl | later
        · exact List.cons_ne_nil _ _
        · exact ih later
      | false =>
        obtain ⟨d, more, rfl, solid'⟩ := exists_of_goes ends
        obtain ⟨v, ws, found⟩ := exists_split solid' more
        rw [split_of_goes solid ends, found, List.modifyHead_cons] at member
        rcases List.mem_cons.mp member with rfl | later
        · exact List.cons_ne_nil _ _
        · exact ih (found ▸ List.mem_cons_of_mem _ later)

theorem split_dropWhile (codes : List Nat) : split (codes.dropWhile (· == underscore)) = split codes := by
  induction codes with
  | nil => rfl
  | cons c rest ih =>
    by_cases solid : c = underscore
    · subst solid
      rw [split_underscore, ← ih]
      rfl
    · rw [List.dropWhile_cons_of_neg (by simpa using solid)]

/-! ### What is written -/

/-- Words in lower case with hyphens between them. -/
def spell (ws : List (List Nat)) : List Nat :=
  [hyphen].intercalate (ws.map (·.map Text.toLower))

theorem spell_singleton (w : List Nat) : spell [w] = w.map Text.toLower :=
  List.intercalate_singleton

theorem spell_cons (w : List Nat) {ws : List (List Nat)} (more : ws ≠ []) :
    spell (w :: ws) = w.map Text.toLower ++ hyphen :: spell ws := by
  obtain ⟨v, rest, rfl⟩ := List.exists_cons_of_ne_nil more
  simp [spell, List.intercalate_cons_cons]

theorem spell_modifyHead (c : Nat) {ws : List (List Nat)} (some : ws ≠ []) :
    spell (ws.modifyHead (c :: ·)) = Text.toLower c :: spell ws := by
  obtain ⟨w, rest, rfl⟩ := List.exists_cons_of_ne_nil some
  rcases Classical.em (rest = []) with rfl | more
  · simp [spell_singleton]
  · simp [spell_cons _ more]

/-- What is written, without a hyphen at the end. -/
def withoutHyphen (written : List Nat) : List Nat :=
  if written.head? = some hyphen then written.tail else written

theorem withoutHyphen_cons {c : Nat} (solid : c ≠ hyphen) (done : List Nat) :
    withoutHyphen (c :: done) = c :: done :=
  if_neg fun same => solid (Option.some.inj same)

theorem withoutHyphen_hyphen (done : List Nat) : withoutHyphen (hyphen :: done) = done :=
  if_pos rfl

/-- A letter is written in lower case, behind a hyphen where it starts a word. -/
theorem write_letter {c : Nat} (letter : c ≠ underscore) (previous : Option Nat) (done rest : List Nat) :
    write previous done (c :: rest) = write (some c) (Text.toLower c ::
      if Text.isUpper c && startsWord previous rest.head? then hyphen :: done else done) rest := by
  simp [write, letter]

/-- An underscore behind a letter is a hyphen. -/
theorem write_underscore {p : Nat} (dark : Text.toLower p ≠ hyphen) (done rest : List Nat) :
    write (some p) (Text.toLower p :: done) (underscore :: rest) =
      write (some underscore) (hyphen :: Text.toLower p :: done) rest := by
  simp [write, dark]

/-- An underscore at the front or behind another is nothing. -/
theorem write_underscore_between {done : List Nat} (clean : done = [] ∨ done.head? = some hyphen)
    (previous : Option Nat) (rest : List Nat) :
    write previous done (underscore :: rest) = write (some underscore) done rest := by
  rcases clean with rfl | head
  · simp [write]
  · simp [write, head]

theorem endsWord_letter {c : Nat} (letter : c ≠ underscore) (p : Nat) (rest : List Nat) :
    endsWord p (c :: rest) = (Text.isUpper c && startsWord (some p) rest.head?) := by
  rw [endsWord, beq_false_of_ne letter, Bool.false_or]

/-- Inside of a word its letter before is written already; between words nothing is, or a hyphen. In both
places the words from there on are written. -/
theorem write_split {rest : List Nat} (solid : ∀ c ∈ rest, Text.toLower c ≠ hyphen) :
    (∀ p done, p ≠ underscore → Text.toLower p ≠ hyphen →
        withoutHyphen (write (some p) (Text.toLower p :: done) rest) =
          (spell (split (p :: rest))).reverse ++ done) ∧
      (∀ previous done, (previous = none ∨ previous = some underscore) →
        (done = [] ∨ done.head? = some hyphen) →
        withoutHyphen (write previous done rest) =
          if split rest = [] then withoutHyphen done else (spell (split rest)).reverse ++ done) := by
  induction rest with
  | nil =>
    constructor
    · intro p done letter dark
      rw [split_of_ends letter rfl, split, spell_singleton, write, withoutHyphen_cons dark]
      rfl
    · intro previous done _ _
      rw [split, if_pos rfl, write]
  | cons c rest ih =>
    obtain ⟨dark', others⟩ := List.forall_mem_cons.mp solid
    obtain ⟨inside, between⟩ := ih others
    constructor
    · intro p done letter dark
      by_cases gap : c = underscore
      · subst gap
        rw [write_underscore dark, between _ _ (.inr rfl) (.inr rfl), split_of_ends letter rfl,
          split_underscore]
        split
        · rename_i none
          rw [none, spell_singleton, withoutHyphen_hyphen]
          rfl
        · rename_i more
          rw [spell_cons _ more]
          simp
      · -- The word of `p` ends exactly where a hyphen is written.
        rw [write_letter gap, inside _ _ gap dark', ← endsWord_letter gap]
        cases ends : endsWord p (c :: rest) with
        | true =>
          rw [split_of_ends letter ends, spell_cons _ (split_ne_nil gap rest)]
          simp
        | false =>
          rw [split_of_goes letter ends, spell_modifyHead _ (split_ne_nil gap rest)]
          simp
    · intro previous done apart clean
      by_cases gap : c = underscore
      · subst gap
        rw [write_underscore_between clean, between _ _ (.inr rfl) clean, split_underscore]
      · have starts : startsWord previous rest.head? = false := by
          rcases apart with rfl | rfl <;> rfl
        rw [write_letter gap, starts, Bool.and_false, if_neg Bool.false_ne_true, inside _ _ gap dark',
          if_neg (split_ne_nil gap rest)]

/-! ### Letters and digits of ASCII -/

/-- A lower-case letter of ASCII. -/
def isSmall (c : Nat) : Bool :=
  decide (0x61 ≤ c) && decide (c ≤ 0x7A)

/-- An upper-case letter of ASCII. -/
def isCapital (c : Nat) : Bool :=
  decide (0x41 ≤ c) && decide (c ≤ 0x5A)

def isNumeral (c : Nat) : Bool :=
  decide (0x30 ≤ c) && decide (c ≤ 0x39)

/-- The code of a letter or a digit. -/
def isAlphanumeric (c : Nat) : Bool :=
  isSmall c || isCapital c || isNumeral c

theorem isAlphanumeric_iff {c : Nat} : isAlphanumeric c = true ↔
    (0x61 ≤ c ∧ c ≤ 0x7A) ∨ (0x41 ≤ c ∧ c ≤ 0x5A) ∨ (0x30 ≤ c ∧ c ≤ 0x39) := by
  simp [isAlphanumeric, isSmall, isCapital, isNumeral, or_assoc]

theorem isUpper_of_ascii {c : Nat} (ascii : c < 0x80) : Text.isUpper c = isCapital c := by
  rw [Text.isUpper, if_pos ascii, isCapital]

theorem isAlphanumeric_of_capital {c : Nat} (capital : isCapital c = true) : isAlphanumeric c = true := by
  rw [isAlphanumeric, capital, Bool.or_true, Bool.true_or]

section Alphanumeric

variable {c : Nat} (plain : isAlphanumeric c = true)

include plain

theorem lt_of_alphanumeric : c < 0x80 := by
  have := isAlphanumeric_iff.mp plain
  omega

theorem ne_underscore_of_alphanumeric : c ≠ underscore := by
  rintro rfl
  cases plain

theorem toLower_of_alphanumeric : Text.toLower c = if isCapital c then c + 0x20 else c := by
  have ascii := lt_of_alphanumeric plain
  rw [Text.toLower, if_pos ascii, isUpper_of_ascii ascii]

/-- The lower-case form of a letter is a small letter, that of a digit a digit. -/
theorem toLower_cases : (isSmall (Text.toLower c) = true ∧ isNumeral c = false) ∨
    (isNumeral (Text.toLower c) = true ∧ isNumeral c = true) := by
  rw [toLower_of_alphanumeric plain]
  have cases := isAlphanumeric_iff.mp plain
  simp only [isSmall, isCapital, isNumeral, Bool.and_eq_true, decide_eq_true_eq, Bool.and_eq_false_iff,
    decide_eq_false_iff_not]
  split <;> omega

theorem isSmall_toLower_iff : isSmall (Text.toLower c) = true ↔ isNumeral c = false := by
  rcases toLower_cases plain with ⟨small, letter⟩ | ⟨numeral, digit⟩
  · simp [small, letter]
  · simp only [digit, Bool.true_eq_false, iff_false, Bool.not_eq_true]
    simp only [isNumeral, Bool.and_eq_true, decide_eq_true_eq] at numeral
    simp only [isSmall, Bool.and_eq_false_iff, decide_eq_false_iff_not]
    omega

theorem toLower_lt : Text.toLower c < 0x80 := by
  have cases := toLower_cases plain
  simp only [isSmall, isNumeral, Bool.and_eq_true, decide_eq_true_eq] at cases
  omega

theorem toLower_ne_hyphen : Text.toLower c ≠ hyphen := by
  have cases := toLower_cases plain
  simp only [isSmall, isNumeral, hyphen, Bool.and_eq_true, decide_eq_true_eq] at cases ⊢
  omega

end Alphanumeric

/-- A word in lower case, one byte for each letter. -/
theorem ofCodes_toLower {w : List Nat} (plain : ∀ c ∈ w, isAlphanumeric c = true) :
    Text.ofCodes (w.map Text.toLower) = w.map fun c => UInt8.ofNat (Text.toLower c) := by
  rw [Text.ofCodes_of_ascii, List.map_map]
  · rfl
  · intro c member
    obtain ⟨d, inside, rfl⟩ := List.mem_map.mp member
    exact toLower_lt (plain d inside)

/-! ### Identifiers -/

/-- Letters, digits and underscores of ASCII, with no digit in front. -/
structure IsIdentifier (name : Text) : Prop where
  nonempty : name ≠ []
  each : ∀ b ∈ name, isAlphanumeric b.toNat || b.toNat == underscore
  first : ∀ b ∈ name.head?, isNumeral b.toNat = false

theorem isIdentifier_iff {name : Text} : IsIdentifier name ↔
    name ≠ [] ∧ name.all (fun b => isAlphanumeric b.toNat || b.toNat == underscore) = true ∧
      name.head?.all (fun b => !isNumeral b.toNat) = true := by
  simp only [List.all_eq_true, Option.all_eq_true, Bool.not_eq_true']
  exact ⟨fun ⟨nonempty, each, first⟩ => ⟨nonempty, each, first⟩,
    fun ⟨nonempty, each, first⟩ => ⟨nonempty, each, first⟩⟩

instance (name : Text) : Decidable (IsIdentifier name) :=
  decidable_of_iff _ isIdentifier_iff.symm

/-- The words of a name in lower case; a name without words is called a field. -/
def words (name : Text) : List Text :=
  match split (Text.codes name) with
  | [] => ["field"]
  | w :: ws => (w :: ws).map fun w => Text.ofCodes (w.map Text.toLower)

theorem words_of_split {name : Text} (some : split (Text.codes name) ≠ []) :
    words name = (split (Text.codes name)).map fun w => Text.ofCodes (w.map Text.toLower) := by
  obtain ⟨w, ws, found⟩ := List.exists_cons_of_ne_nil some
  rw [words, found]

namespace IsIdentifier

variable {name : Text} (identifier : IsIdentifier name)

include identifier

theorem ascii {b : UInt8} (member : b ∈ name) : b.toNat < 0x80 := by
  have form := identifier.each b member
  simp only [Bool.or_eq_true, beq_iff_eq, isAlphanumeric_iff, underscore] at form
  omega

theorem codes : Text.codes name = name.map UInt8.toNat :=
  Text.codes_of_ascii fun _ => identifier.ascii

theorem code_ascii {c : Nat} (member : c ∈ Text.codes name) : c < 0x80 := by
  rw [identifier.codes] at member
  obtain ⟨b, inside, rfl⟩ := List.mem_map.mp member
  exact identifier.ascii inside

theorem alphanumeric {c : Nat} (member : c ∈ Text.codes name) (letter : c ≠ underscore) :
    isAlphanumeric c = true := by
  rw [identifier.codes] at member
  obtain ⟨b, inside, rfl⟩ := List.mem_map.mp member
  simpa [letter] using identifier.each b inside

theorem word_alphanumeric {w : List Nat} (member : w ∈ split (Text.codes name)) :
    ∀ c ∈ w, isAlphanumeric c = true := by
  intro c inside
  obtain ⟨found, letter⟩ := mem_of_mem_split member inside
  exact identifier.alphanumeric found letter

theorem toLower_ne_hyphen {c : Nat} (member : c ∈ Text.codes name) : Text.toLower c ≠ hyphen := by
  by_cases letter : c = underscore
  · rw [letter]
    decide
  · exact Kebab.toLower_ne_hyphen (identifier.alphanumeric member letter)

/-- An identifier is written as its words with hyphens between them. -/
theorem ofName_eq_join : ofName name = Text.join "-" (words name) := by
  have codes : Text.codes (name.dropWhile (·.toNat == underscore)) =
      (Text.codes name).dropWhile (· == underscore) := by
    rw [identifier.codes, List.dropWhile_map,
      Text.codes_of_ascii fun b member => identifier.ascii (List.dropWhile_subset _ member)]
    rfl
  have dark : ∀ c ∈ (Text.codes name).dropWhile (· == underscore), Text.toLower c ≠ hyphen :=
    fun c member => identifier.toLower_ne_hyphen (List.dropWhile_subset _ member)
  have same := split_dropWhile (Text.codes name)
  rw [← codes] at dark same
  have letter := List.head?_dropWhile_not (fun b : UInt8 => b.toNat == underscore) name
  have ascii : ∀ b ∈ name.dropWhile (·.toNat == underscore), b.toNat < 0x80 :=
    fun b member => identifier.ascii (List.dropWhile_subset _ member)
  rw [ofName]
  generalize name.dropWhile (·.toNat == underscore) = left at *
  cases left with
  | nil =>
    rw [words, ← same]
    rfl
  | cons b more =>
    have some : split (Text.codes (b :: more)) ≠ [] := by
      rw [Text.codes_cons_ascii (ascii b List.mem_cons_self)]
      exact split_ne_nil (by simpa using letter) _
    have written := (write_split dark).2 none [] (.inl rfl) (.inl rfl)
    rw [if_neg some, List.append_nil] at written
    have spelled : Text.ofCodes (withoutHyphen (write none [] (Text.codes (b :: more)))).reverse =
        Text.join "-" (words name) := by
      rw [written, List.reverse_reverse, spell, Text.ofCodes_intercalate, List.map_map,
        words_of_split (same ▸ some), same]
      rfl
    rw [← spelled]
    cases write none [] (Text.codes (b :: more)) with
    | nil => rfl
    | cons c rest => by_cases last : c = hyphen <;> simp [withoutHyphen, last]

end IsIdentifier

/-! ### Written words -/

/-- Small letters and digits. -/
def IsWord (w : Text) : Prop :=
  w ≠ [] ∧ ∀ b ∈ w, isSmall b.toNat || isNumeral b.toNat

instance (w : Text) : Decidable (IsWord w) :=
  decidable_of_iff (w ≠ [] ∧ w.all (fun b => isSmall b.toNat || isNumeral b.toNat) = true)
    (and_congr_right fun _ => List.all_eq_true)

theorem IsWord.hyphen_not_mem {w : Text} (word : IsWord w) : 0x2D ∉ w := by
  intro member
  exact absurd (word.2 _ member) (by decide)

theorem words_ne_nil (name : Text) : words name ≠ [] := by
  rw [words]
  split <;> exact List.cons_ne_nil _ _

/-- A letter or digit of a word, as it is written. -/
theorem toNat_toLower {c : Nat} (plain : isAlphanumeric c = true) :
    (UInt8.ofNat (Text.toLower c)).toNat = Text.toLower c :=
  UInt8.toNat_ofNat_of_lt' (Nat.lt_trans (toLower_lt plain) (by decide))

theorem IsIdentifier.isWord {name : Text} (identifier : IsIdentifier name) :
    ∀ w ∈ words name, IsWord w := by
  rcases Classical.em (split (Text.codes name) = []) with none | some
  · rw [words, none]
    exact List.forall_mem_singleton.mpr (by decide)
  · rw [words_of_split some]
    intro w member
    obtain ⟨v, found, rfl⟩ := List.mem_map.mp member
    have plain := identifier.word_alphanumeric found
    rw [ofCodes_toLower plain]
    refine ⟨by simpa using ne_nil_of_mem_split found, fun b inside => ?_⟩
    obtain ⟨c, letter, rfl⟩ := List.mem_map.mp inside
    rw [toNat_toLower (plain c letter), Bool.or_eq_true]
    exact (toLower_cases (plain c letter)).imp And.left And.left

/-- Words are known from what is written. -/
theorem join_inj {ws ws' : List Text} (some : ws ≠ []) (some' : ws' ≠ []) (each : ∀ w ∈ ws, IsWord w)
    (each' : ∀ w ∈ ws', IsWord w) : Text.join "-" ws = Text.join "-" ws' ↔ ws = ws' := by
  constructor
  · intro same
    rw [Text.join_eq_intercalate, Text.join_eq_intercalate] at same
    have split := List.splitOn_intercalate 0x2D (fun w member => (each w member).hyphen_not_mem) some
    have split' := List.splitOn_intercalate 0x2D (fun w member => (each' w member).hyphen_not_mem) some'
    rw [← split, ← split']
    exact congrArg _ same
  · rintro rfl
    rfl

end Kebab

end TypeAtlas
