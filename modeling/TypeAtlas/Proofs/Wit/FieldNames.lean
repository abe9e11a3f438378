import Mathlib.Data.List.Chain
import Mathlib.Data.List.Nodup
import Mathlib.Data.List.Perm.Subperm
import TypeAtlas.Descriptor.Contract
import TypeAtlas.Proofs.Wit.Agreement
import TypeAtlas.Proofs.Wit.Words

/-!
Which structs have records with distinct field names. A record spells names in kebab case, which keeps the
words of a name and forgets underscores and letter case, and nothing compares the names it gets. So the
names are distinct exactly if the words are, and the layout has an offset for each field exactly then.
-/

namespace TypeAtlas

namespace Kebab

/-! ### Names and their words -/

/-- Two identifiers are spelled alike exactly if they have the same words. -/
theorem ofName_inj {name name' : Text} (identifier : IsIdentifier name) (identifier' : IsIdentifier name') :
    ofName name = ofName name' ↔ words name = words name' := by
  rw [identifier.ofName_eq_join, identifier'.ofName_eq_join,
    join_inj (words_ne_nil name) (words_ne_nil name') identifier.isWord identifier'.isWord]

/-- The letters and digits of a name, in lower case. -/
def letters (name : Text) : Text :=
  ((Text.codes name).filter (· ≠ underscore)).map fun c => UInt8.ofNat (Text.toLower c)

/-- An exported name starts with a capital. -/
theorem IsIdentifier.exists_capital {name : Text} (identifier : IsIdentifier name)
    (exported : isExported name = true) :
    ∃ c rest, Text.codes name = c :: rest ∧ isCapital c = true := by
  rw [isExported] at exported
  split at exported
  · rename_i r rest runes
    have codes : Text.codes name = r.code :: rest.map Text.Rune.code := by
      rw [Text.codes, runes, List.map_cons]
    have ascii := identifier.code_ascii (codes ▸ List.mem_cons_self)
    exact ⟨r.code, _, codes, isUpper_of_ascii ascii ▸ exported⟩
  · cases exported

/-- The words of an exported name are its letters and digits. -/
theorem flatten_words {name : Text} (identifier : IsIdentifier name) (exported : isExported name = true) :
    (words name).flatten = letters name := by
  obtain ⟨c, rest, codes, capital⟩ := identifier.exists_capital exported
  have letter := ne_underscore_of_alphanumeric (isAlphanumeric_of_capital capital)
  have some : split (Text.codes name) ≠ [] := codes ▸ split_ne_nil letter rest
  have bytes : (split (Text.codes name)).map (fun w => Text.ofCodes (w.map Text.toLower)) =
      (split (Text.codes name)).map (·.map fun c => UInt8.ofNat (Text.toLower c)) :=
    List.map_congr_left fun w member => ofCodes_toLower (identifier.word_alphanumeric member)
  rw [words_of_split some, bytes, ← List.map_flatten, flatten_split, letters]

/-! ### Plain names -/

/-- Letters and digits after a capital, and no capital right after another. -/
structure IsPlain (name : Text) : Prop where
  each : ∀ b ∈ name, isAlphanumeric b.toNat = true
  first : ∃ b rest, name = b :: rest ∧ isCapital b.toNat = true
  apart : name.IsChain fun a b => isCapital a.toNat = true → isCapital b.toNat = false

theorem isPlain_iff {name : Text} : IsPlain name ↔
    name.all (fun b => isAlphanumeric b.toNat) = true ∧ name.head?.any (fun b => isCapital b.toNat) = true ∧
      name.IsChain fun a b => isCapital a.toNat = true → isCapital b.toNat = false := by
  constructor
  · rintro ⟨each, ⟨b, rest, rfl, capital⟩, apart⟩
    exact ⟨List.all_eq_true.mpr each, capital, apart⟩
  · rintro ⟨each, capital, apart⟩
    obtain ⟨b, rest, rfl⟩ : ∃ b rest, name = b :: rest := by
      refine List.exists_cons_of_ne_nil ?_
      rintro rfl
      cases capital
    exact ⟨List.all_eq_true.mp each, ⟨b, rest, rfl, capital⟩, apart⟩

instance (name : Text) : Decidable (IsPlain name) :=
  decidable_of_iff _ isPlain_iff.symm

theorem startsWord_of_small {c : Nat} (plain : isAlphanumeric c = true) (small : isCapital c = false)
    (next : Option Nat) : startsWord (some c) next = true := by
  have ascii := lt_of_alphanumeric plain
  have solid : (c != underscore) = true := bne_iff_ne.mpr (ne_underscore_of_alphanumeric plain)
  have form : (Text.isLower c || Text.isDigit c) = true := by
    rw [isAlphanumeric, small, Bool.or_false] at plain
    rwa [Text.isLower, Text.isDigit, if_pos ascii, if_pos ascii]
  rw [startsWord, solid, form, Bool.true_or, Bool.true_and]

/-- A capital and no other behind it. -/
def IsCapitalized (w : List Nat) : Prop :=
  ∃ c rest, w = c :: rest ∧ isCapital c = true ∧ ∀ d ∈ rest, isCapital d = false

/-- In letters and digits with capitals apart, the words behind the first letter start at the capitals. -/
theorem split_plain {c : Nat} {rest : List Nat} (each : ∀ d ∈ c :: rest, isAlphanumeric d = true)
    (apart : (c :: rest).IsChain fun a b => isCapital a = true → isCapital b = false) :
    ∃ w ws, split (c :: rest) = (c :: w) :: ws ∧ (∀ d ∈ w, isCapital d = false) ∧
      ∀ v ∈ ws, IsCapitalized v := by
  induction rest generalizing c with
  | nil =>
    have letter := ne_underscore_of_alphanumeric (each c List.mem_cons_self)
    exact ⟨[], [], split_of_ends letter rfl, nofun, nofun⟩
  | cons d rest ih =>
    obtain ⟨plain, others⟩ := List.forall_mem_cons.mp each
    have plain' := others d List.mem_cons_self
    obtain ⟨between, apart'⟩ := List.isChain_cons_cons.mp apart
    obtain ⟨w, ws, found, inside, later⟩ := ih others apart'
    have letter := ne_underscore_of_alphanumeric plain
    have ends := endsWord_letter (ne_underscore_of_alphanumeric plain') c rest
    rw [isUpper_of_ascii (lt_of_alphanumeric plain')] at ends
    cases capital : isCapital d with
    | true =>
      -- Behind a capital `d` would not start a word, so this is where capitals apart are needed.
      have small : isCapital c = false := by
        rw [← Bool.not_eq_true]
        intro first
        rw [between first] at capital
        cases capital
      rw [capital, startsWord_of_small plain small] at ends
      refine ⟨[], _, split_of_ends letter ends, nofun, ?_⟩
      rw [found]
      exact List.forall_mem_cons.mpr ⟨⟨d, w, rfl, capital, inside⟩, later⟩
    | false =>
      rw [capital, Bool.false_and] at ends
      refine ⟨d :: w, ws, ?_, List.forall_mem_cons.mpr ⟨capital, inside⟩, later⟩
      rw [split_of_goes letter ends, found, List.modifyHead_cons]

/-- The capital of a small letter. -/
def raise (b : UInt8) : UInt8 :=
  if isSmall b.toNat then b - 0x20 else b

/-- A plain name is put together again from its words. -/
def restore (ws : List Text) : Text :=
  ws.flatMap (·.modifyHead raise)

theorem raise_toLower {c : Nat} (capital : isCapital c = true) :
    raise (UInt8.ofNat (Text.toLower c)) = UInt8.ofNat c := by
  have plain := isAlphanumeric_of_capital capital
  have value := toNat_toLower plain
  have lower : Text.toLower c = c + 0x20 := by rw [toLower_of_alphanumeric plain, if_pos capital]
  simp only [isCapital, Bool.and_eq_true, decide_eq_true_eq] at capital
  have small : isSmall (c + 0x20) = true := by
    simp only [isSmall, Bool.and_eq_true, decide_eq_true_eq]
    omega
  rw [lower] at value ⊢
  rw [raise, value, if_pos small, UInt8.ofNat_add]
  exact UInt8.add_sub_cancel _ _

/-- A capitalized word is the written one with its first letter raised again. -/
theorem IsCapitalized.modifyHead_raise {w : List Nat} (capitalized : IsCapitalized w)
    (plain : ∀ c ∈ w, isAlphanumeric c = true) :
    (w.map fun c => UInt8.ofNat (Text.toLower c)).modifyHead raise = w.map UInt8.ofNat := by
  obtain ⟨c, rest, rfl, capital, small⟩ := capitalized
  rw [List.map_cons, List.modifyHead_cons, raise_toLower capital, List.map_cons]
  refine congrArg _ (List.map_congr_left fun d member => ?_)
  have same : Text.toLower d = d := by
    rw [toLower_of_alphanumeric (plain d (List.mem_cons_of_mem _ member)), small d member]
    rfl
  rw [same]

namespace IsPlain

variable {name : Text} (plain : IsPlain name)

include plain

theorem isIdentifier : IsIdentifier name := by
  obtain ⟨b, rest, rfl, capital⟩ := plain.first
  refine ⟨List.cons_ne_nil _ _, fun b member => by rw [plain.each b member, Bool.true_or], ?_⟩
  rintro _ ⟨⟩
  simp only [isCapital, Bool.and_eq_true, decide_eq_true_eq] at capital
  simp only [isNumeral, Bool.and_eq_false_iff, decide_eq_false_iff_not]
  omega

theorem capitalized : ∀ w ∈ split (Text.codes name), IsCapitalized w := by
  have identifier := plain.isIdentifier
  obtain ⟨b, rest, rfl, capital⟩ := plain.first
  have each : ∀ c ∈ (b :: rest).map UInt8.toNat, isAlphanumeric c = true :=
    List.forall_mem_map.mpr plain.each
  have apart := (List.isChain_map UInt8.toNat
    (R := fun a b => isCapital a = true → isCapital b = false)).mpr plain.apart
  obtain ⟨w, ws, found, inside, later⟩ := split_plain each apart
  rw [identifier.codes, List.map_cons, found]
  exact List.forall_mem_cons.mpr ⟨⟨_, w, rfl, capital, inside⟩, later⟩

/-- A plain name is known from its words. -/
theorem restore_words : restore (words name) = name := by
  have identifier := plain.isIdentifier
  have each : ∀ c ∈ Text.codes name, isAlphanumeric c = true := by
    rw [identifier.codes]
    exact List.forall_mem_map.mpr plain.each
  have some : split (Text.codes name) ≠ [] := by
    obtain ⟨b, rest, rfl, _⟩ := plain.first
    rw [identifier.codes, List.map_cons]
    exact split_ne_nil (ne_underscore_of_alphanumeric (plain.each b List.mem_cons_self)) _
  have solid : (Text.codes name).filter (· ≠ underscore) = Text.codes name := by
    rw [List.filter_eq_self]
    exact fun c member => decide_eq_true (ne_underscore_of_alphanumeric (each c member))
  calc restore (words name)
      = (split (Text.codes name)).flatMap (·.map UInt8.ofNat) := by
        rw [restore, words_of_split some, List.flatMap_map]
        refine List.flatMap_congr fun w member => ?_
        have letters := identifier.word_alphanumeric member
        rw [ofCodes_toLower letters, (plain.capitalized w member).modifyHead_raise letters]
    _ = (split (Text.codes name)).flatten.map UInt8.ofNat := List.map_flatten.symm
    _ = name := by
        rw [flatten_split, solid, identifier.codes, List.map_map]
        exact List.map_id'' (fun _ => UInt8.ofNat_toNat) name

end IsPlain

end Kebab

/-! ### Offsets by name -/

namespace Placement

theorem keys_setOffset (offsets : List (Text × UInt32)) (name : Text) (offset : UInt32) :
    (setOffset offsets name offset).map Prod.fst =
      if name ∈ offsets.map Prod.fst then offsets.map Prod.fst else offsets.map Prod.fst ++ [name] := by
  have known : offsets.any (·.1 == name) = true ↔ name ∈ offsets.map Prod.fst := by
    simp only [List.any_eq_true, beq_iff_eq, List.mem_map]
  rw [setOffset]
  split
  · rename_i found
    rw [if_pos (known.mp found), List.map_map]
    refine List.map_congr_left fun e _ => ?_
    show (if e.1 == name then (name, offset) else e).1 = e.1
    split
    · rename_i same
      exact (eq_of_beq same).symm
    · rfl
  · rename_i fresh
    rw [if_neg fun member => fresh (known.mpr member), List.map_append]
    rfl

/-- Setting offsets one after another keeps one entry for each name. -/
theorem keys_foldl_setOffset (pairs : List (Text × UInt32)) {acc : List (Text × UInt32)}
    (distinct : (acc.map Prod.fst).Nodup) :
    ((pairs.foldl (fun acc e => setOffset acc e.1 e.2) acc).map Prod.fst).Nodup ∧
      ∀ name, name ∈ (pairs.foldl (fun acc e => setOffset acc e.1 e.2) acc).map Prod.fst ↔
        name ∈ acc.map Prod.fst ∨ name ∈ pairs.map Prod.fst := by
  induction pairs generalizing acc with
  | nil => exact ⟨distinct, fun name => by simp⟩
  | cons e rest ih =>
    have keys := keys_setOffset acc e.1 e.2
    rw [List.foldl_cons]
    by_cases known : e.1 ∈ acc.map Prod.fst
    · rw [if_pos known] at keys
      obtain ⟨apart, members⟩ := ih (keys ▸ distinct)
      refine ⟨apart, fun name => ?_⟩
      rw [members, keys, List.map_cons, List.mem_cons, or_left_comm]
      exact (or_iff_right_of_imp fun same => .inl (same ▸ known)).symm
    · rw [if_neg known] at keys
      have fresh : (acc.map Prod.fst ++ [e.1]).Nodup :=
        List.Nodup.append distinct (List.nodup_singleton _) (List.disjoint_singleton.mpr known)
      obtain ⟨apart, members⟩ := ih (keys ▸ fresh)
      refine ⟨apart, fun name => ?_⟩
      rw [members, keys, List.mem_append, List.mem_singleton, List.map_cons, List.mem_cons, or_assoc]

/-- There is an offset for each name, so as many as names exactly if these are distinct. -/
theorem exists_fieldOffsets {p : Placement} {names : List Text} (length : names.length = p.offsets.length) :
    ∃ entries, (p.withNames names).fieldOffsets = some entries ∧
      (entries.length = names.length ↔ names.Nodup) := by
  have none : (([] : List (Text × UInt32)).map Prod.fst).Nodup := List.nodup_nil
  obtain ⟨apart, members⟩ := keys_foldl_setOffset (names.zip p.offsets) none
  refine ⟨_, rfl, ?_⟩
  generalize (names.zip p.offsets).foldl (fun acc e => setOffset acc e.1 e.2) [] = entries at *
  have same : ∀ name, name ∈ entries.map Prod.fst ↔ name ∈ names := by
    intro name
    rw [members, List.map_fst_zip (Nat.le_of_eq length)]
    exact or_iff_right List.not_mem_nil
  rw [← List.length_map Prod.fst]
  constructor
  · intro equal
    have some := List.subperm_of_subset apart fun name member => (same name).mp member
    exact (some.perm_of_length_le (Nat.le_of_eq equal.symm)).nodup_iff.mp apart
  · intro distinct
    exact ((List.perm_ext_iff_of_nodup apart distinct).mpr same).length_eq

end Placement

/-! ### Records -/

/-- What determines something distinct is distinct. -/
theorem nodup_map_of_determines {α β γ : Type} {l : List α} {f : α → β} {g : α → γ}
    (determines : ∀ a ∈ l, ∀ b ∈ l, f a = f b → g a = g b) (distinct : (l.map g).Nodup) :
    (l.map f).Nodup := by
  rw [List.Nodup, List.pairwise_map] at distinct ⊢
  exact distinct.imp_of_mem fun {a b} member member' other same =>
    other (determines a member b member' same)

namespace WitType

/-- The record of a struct has distinct field names, and its layout an offset for each of them, exactly if
no two visible fields have the same words. It is so if the names are distinct and plain, and if they are
exported and differ in more than underscores and letter case. -/
theorem fieldNames_distinct_iff {s : ErasedStruct} (identifiers : ∀ f ∈ s.fields, Kebab.IsIdentifier f.name)
    {w : WitType} (made : record? (some s) = .ok w) :
    ∃ fields entries, w = .record [] fields ∧ w.layout.fieldOffsets = some entries ∧
      fields.map (·.name) = s.fields.map (fun f => Kebab.ofName f.name) ∧
      ((fields.map (·.name)).Nodup ↔ (s.fields.map fun f => Kebab.words f.name).Nodup) ∧
      (entries.length = fields.length ↔ (s.fields.map fun f => Kebab.words f.name).Nodup) ∧
      ((∀ f ∈ s.fields, Kebab.IsPlain f.name) → (s.fields.map (·.name)).Nodup →
        (fields.map (·.name)).Nodup) ∧
      ((∀ f ∈ s.fields, isExported f.name = true) → (s.fields.map fun f => Kebab.letters f.name).Nodup →
        (fields.map (·.name)).Nodup) := by
  obtain ⟨fields, record, rfl⟩ := map_eq_ok made
  have names := recordFields_names record
  have alike : ∀ f ∈ s.fields, ∀ g ∈ s.fields,
      (Kebab.ofName f.name = Kebab.ofName g.name ↔ Kebab.words f.name = Kebab.words g.name) :=
    fun f member g member' => Kebab.ofName_inj (identifiers f member) (identifiers g member')
  have distinct : (fields.map (·.name)).Nodup ↔ (s.fields.map fun f => Kebab.words f.name).Nodup := by
    rw [names]
    exact ⟨nodup_map_of_determines fun f member g member' => (alike f member g member').mpr,
      nodup_map_of_determines fun f member g member' => (alike f member g member').mp⟩
  have length : (fields.map (·.name)).length =
      (Placement.row (fields.map (·.type.layout))).offsets.length := by simp [Placement.row]
  obtain ⟨entries, found, count⟩ := Placement.exists_fieldOffsets length
  refine ⟨fields, entries, rfl, ?_, names, distinct, ?_, ?_, ?_⟩
  · rw [layout_record]
    exact found
  · rw [← distinct, ← count, List.length_map]
  · intro plain apart
    refine distinct.mpr (nodup_map_of_determines (fun f member g member' same => ?_) apart)
    rw [← (plain f member).restore_words, same, (plain g member').restore_words]
  · intro exported apart
    refine distinct.mpr (nodup_map_of_determines (fun f member g member' same => ?_) apart)
    rw [← Kebab.flatten_words (identifiers f member) (exported f member), same,
      Kebab.flatten_words (identifiers g member') (exported g member')]

/-- A struct of two numbers. -/
def badgeType : TypeRep :=
  .struct [⟨"ID", .primitive .int32, []⟩, ⟨"Id", .primitive .int32, []⟩]

def badge : ErasedStruct :=
  let field (index : Int) (name : Text) (offset : UInt64) : FieldInfo :=
    { index, name, offset, attrs := [], owner := some badgeType, type := some (.primitive .int32) }
  .ofFields (some badgeType) .struct "Badge" [] [field 0 "ID" 0, field 1 "Id" 4]

/-- Both names of a badge are spelled the same, and the layout of its record keeps the offset of one. The
names of a panel are plain. -/
theorem badge_names_clash :
    badge.info.validate = .ok () ∧ (badge.fields.map (·.name)).Nodup ∧
      (∀ f ∈ badge.fields, Kebab.IsIdentifier f.name ∧ isExported f.name = true) ∧
      (∃ fields entries, record? (some badge) = .ok (.record [] fields) ∧
        fields.map (·.name) = ["id", "id"] ∧ ¬ (fields.map (·.name)).Nodup ∧
        (WitType.record [] fields).layout.fieldOffsets = some entries ∧ entries.length ≠ fields.length) ∧
      (∃ fields, record? (some Layout.panel) = .ok (.record [] fields) ∧ (fields.map (·.name)).Nodup) := by
  have identifiers : ∀ f ∈ badge.fields, Kebab.IsIdentifier f.name := by decide
  have exported : ∀ f ∈ badge.fields, isExported f.name = true := by decide
  have plain : ∀ f ∈ Layout.panel.fields, Kebab.IsPlain f.name := by decide
  have made : record? (some badge) =
      .ok (.record [] [⟨"id", .primitive .s32⟩, ⟨"id", .primitive .s32⟩]) := rfl
  obtain ⟨fields, entries, same, found, names, distinct, count, _, _⟩ :=
    fieldNames_distinct_iff identifiers made
  cases same
  have alike : ¬ (badge.fields.map fun f => Kebab.words f.name).Nodup := by decide
  refine ⟨rfl, by decide, ?_, ⟨_, entries, made, rfl, ?_, found, ?_⟩, ?_⟩
  · exact fun f member => ⟨identifiers f member, exported f member⟩
  · rwa [distinct]
  · rwa [Ne, count]
  · obtain ⟨w, panel⟩ : ∃ w, record? (some Layout.panel) = .ok w := ⟨_, rfl⟩
    obtain ⟨fields, _, same, _, _, _, _, apart, _⟩ :=
      fieldNames_distinct_iff (fun f member => (plain f member).isIdentifier) panel
    exact ⟨fields, same ▸ panel, apart plain (by decide)⟩

end WitType

end TypeAtlas
