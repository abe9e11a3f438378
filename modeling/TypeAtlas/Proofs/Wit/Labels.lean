import Mathlib.Data.List.Chain
import TypeAtlas.Proofs.Wit.Words

/-!
Which names are written as labels. What is written of an identifier are words of small letters and digits,
with single hyphens between them. In a label every word starts with a letter, and so do the words of a name,
except where the name has a digit after an underscore.
-/

namespace TypeAtlas.Kebab

/-- Words with single hyphens between them, each of which starts with a letter. -/
def IsLabel (t : Text) : Prop :=
  ∃ ws, ws ≠ [] ∧ (∀ w ∈ ws, IsWord w ∧ ∀ b ∈ w.head?, isSmall b.toNat) ∧ t = Text.join "-" ws

/-- Words of which every one starts with a letter are a label, and no others are. -/
theorem isLabel_join_iff {ws : List Text} (some : ws ≠ []) (each : ∀ w ∈ ws, IsWord w) :
    IsLabel (Text.join "-" ws) ↔ ∀ w ∈ ws, ∀ b ∈ w.head?, isSmall b.toNat := by
  constructor
  · rintro ⟨ws', some', words, same⟩
    obtain rfl := (join_inj some some' each fun w member => (words w member).1).mp same
    exact fun w member => (words w member).2
  · exact fun starts => ⟨ws, some, fun w member => ⟨each w member, starts w member⟩, rfl⟩

/-! ### First letters -/

/-- Every word starts with a letter. -/
def StartLetters (ws : List (List Nat)) : Prop :=
  ∀ w ∈ ws, ∀ c ∈ w.head?, isNumeral c = false

theorem startLetters_cons {c : Nat} {w : List Nat} {ws : List (List Nat)} :
    StartLetters ((c :: w) :: ws) ↔ isNumeral c = false ∧ StartLetters ws := by
  simp [StartLetters]

/-- The words that start behind `c`. -/
def later (c : Nat) (rest : List Nat) : List (List Nat) :=
  if c = underscore then split rest else (split (c :: rest)).tail

theorem exists_later {c : Nat} (letter : c ≠ underscore) (rest : List Nat) :
    ∃ w, split (c :: rest) = (c :: w) :: later c rest := by
  obtain ⟨w, ws, found⟩ := exists_split letter rest
  exact ⟨w, by rw [later, if_neg letter, found, List.tail_cons]⟩

theorem later_underscore (c : Nat) (rest : List Nat) :
    later c (underscore :: rest) = later underscore rest := by
  have gap : later underscore rest = split rest := if_pos rfl
  rw [later, gap, split_underscore]
  split
  · rfl
  · rename_i letter
    rw [split_of_ends letter rfl, List.tail_cons, split_underscore]

/-- A word starts at a letter behind an underscore, and at some capitals. -/
theorem later_letter (c : Nat) {d : Nat} (letter : d ≠ underscore) (rest : List Nat) :
    ((c = underscore ∨ Text.isUpper d = true) ∧ later c (d :: rest) = split (d :: rest)) ∨
      (c ≠ underscore ∧ later c (d :: rest) = later d rest) := by
  by_cases gap : c = underscore
  · exact .inl ⟨.inl gap, if_pos gap⟩
  · rw [later, if_neg gap]
    cases ends : endsWord c (d :: rest) with
    | true =>
      have capital := ends
      rw [endsWord_letter letter, Bool.and_eq_true] at capital
      exact .inl ⟨.inr capital.1, by rw [split_of_ends gap ends, List.tail_cons]⟩
    | false =>
      obtain ⟨w, found⟩ := exists_later letter rest
      exact .inr ⟨gap, by rw [split_of_goes gap ends, List.tail_modifyHead, found, List.tail_cons]⟩

theorem isNumeral_of_upper {c : Nat} (ascii : c < 0x80) (upper : Text.isUpper c = true) :
    isNumeral c = false := by
  rw [isUpper_of_ascii ascii] at upper
  simp only [isCapital, Bool.and_eq_true, decide_eq_true_eq] at upper
  simp only [isNumeral, Bool.and_eq_false_iff, decide_eq_false_iff_not]
  omega

/-- The words behind the first letter start with letters exactly if no digit follows an underscore. -/
theorem startLetters_later_iff {c : Nat} {rest : List Nat} (ascii : ∀ d ∈ rest, d < 0x80) :
    StartLetters (later c rest) ↔ (c :: rest).IsChain fun a b => a = underscore → isNumeral b = false := by
  induction rest generalizing c with
  | nil =>
    have none : later c [] = [] := by
      rw [later]
      split
      · rfl
      · rename_i letter
        rw [split_of_ends letter rfl, List.tail_cons, split]
    simp [none, StartLetters]
  | cons d rest ih =>
    obtain ⟨first, others⟩ := List.forall_mem_cons.mp ascii
    rw [List.isChain_cons_cons, ← ih others]
    by_cases gap : d = underscore
    · subst gap
      rw [later_underscore]
      exact (and_iff_right fun _ => rfl).symm
    · rcases later_letter c gap rest with ⟨start, found⟩ | ⟨inside, found⟩
      · obtain ⟨w, split⟩ := exists_later gap rest
        rw [found, split, startLetters_cons]
        refine and_congr_left fun _ => ⟨fun letter _ => letter, fun parted => ?_⟩
        exact start.elim parted (isNumeral_of_upper first)
      · rw [found]
        exact (and_iff_right fun gap' => absurd gap' inside).symm

/-! ### Identifiers -/

namespace IsIdentifier

variable {name : Text} (identifier : IsIdentifier name)

include identifier

theorem startLetters_iff : StartLetters (split (Text.codes name)) ↔
    name.IsChain fun a b => a.toNat = underscore → isNumeral b.toNat = false := by
  obtain ⟨b, rest, rfl⟩ := List.exists_cons_of_ne_nil identifier.nonempty
  have ascii : ∀ d ∈ rest.map UInt8.toNat, d < 0x80 :=
    List.forall_mem_map.mpr fun _ inside => identifier.ascii (List.mem_cons_of_mem _ inside)
  have first : isNumeral b.toNat = false := identifier.first b rfl
  rw [← List.isChain_map UInt8.toNat
    (R := fun a b => a = underscore → isNumeral b = false), identifier.codes, List.map_cons,
    ← startLetters_later_iff ascii]
  by_cases gap : b.toNat = underscore
  · rw [gap, split_underscore, later, if_pos rfl]
  · obtain ⟨w, found⟩ := exists_later gap (rest.map UInt8.toNat)
    rw [found, startLetters_cons]
    exact and_iff_right first

theorem small_iff : (∀ w ∈ words name, ∀ b ∈ w.head?, isSmall b.toNat) ↔
    StartLetters (split (Text.codes name)) := by
  rcases Classical.em (split (Text.codes name) = []) with none | some
  · rw [words, none]
    refine iff_of_true (List.forall_mem_singleton.mpr ?_) (List.forall_mem_nil _)
    rintro _ ⟨⟩
    rfl
  · rw [words_of_split some, List.forall_mem_map]
    refine forall₂_congr fun w member => ?_
    have plain := identifier.word_alphanumeric member
    rw [ofCodes_toLower plain]
    cases w with
    | nil => exact absurd rfl (ne_nil_of_mem_split member)
    | cons c w =>
      have letter := plain c List.mem_cons_self
      simp only [List.map_cons, List.head?_cons, Option.mem_some_iff, forall_eq', toNat_toLower letter]
      exact isSmall_toLower_iff letter

end IsIdentifier

/-- An identifier is written as words of small letters and digits, with single hyphens between them. That
is a label exactly if no digit follows an underscore. -/
theorem ofName_isLabel_iff {name : Text} (identifier : IsIdentifier name) :
    (∃ ws, ws ≠ [] ∧ (∀ w ∈ ws, IsWord w) ∧ ofName name = Text.join "-" ws) ∧
      (IsLabel (ofName name) ↔
        name.IsChain fun a b => a.toNat = underscore → isNumeral b.toNat = false) := by
  refine ⟨⟨words name, words_ne_nil name, identifier.isWord, identifier.ofName_eq_join⟩, ?_⟩
  rw [identifier.ofName_eq_join, isLabel_join_iff (words_ne_nil name) identifier.isWord,
    identifier.small_iff, identifier.startLetters_iff]

/-- The second word of a row's name is a number; the version of a server starts with a letter. -/
theorem ofName_isLabel_row_two :
    IsIdentifier "Row_2" ∧ ofName "Row_2" = "row-2" ∧ ¬ IsLabel (ofName "Row_2") ∧
      IsIdentifier "HTTPServer_v2" ∧ ofName "HTTPServer_v2" = "http-server-v2" ∧
      IsLabel (ofName "HTTPServer_v2") := by
  have row : IsIdentifier "Row_2" := by decide
  have server : IsIdentifier "HTTPServer_v2" := by decide
  refine ⟨row, by decide, ?_, server, by decide, ?_⟩
  · rw [(ofName_isLabel_iff row).2]
    decide
  · rw [(ofName_isLabel_iff server).2]
    decide

end TypeAtlas.Kebab
