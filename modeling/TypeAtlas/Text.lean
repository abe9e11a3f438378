import TypeAtlas.Text.Table

/-!
Text as the bytes of its UTF-8 form. Nothing promises that the bytes are well formed: names, tags and
attribute values are arbitrary byte strings, read as a sequence of runes in which every byte that
belongs to no well-formed character stands for itself.
-/

namespace TypeAtlas

/-- A byte string. -/
abbrev Text := List UInt8

namespace Text

/-- The UTF-8 bytes of a string. -/
def ofString (s : String) : Text :=
  s.toByteArray.data.toList

instance : Coe String Text := ⟨ofString⟩

/-- The character that stands for bytes that are not UTF-8. -/
def replacement : Nat := 0xFFFD

/-- One step of reading: a code point and the bytes it was read from. -/
structure Rune where
  code : Nat
  bytes : Text
  deriving DecidableEq, Repr

def isContinuation (b : UInt8) : Bool :=
  b.toNat / 64 == 2

def payload (b : UInt8) : Nat :=
  b.toNat % 64

def isSurrogate (c : Nat) : Bool :=
  decide (0xD800 ≤ c) && decide (c ≤ 0xDFFF)

/-- A code point that has a UTF-8 form. -/
def isScalar (c : Nat) : Bool :=
  decide (c ≤ 0x10FFFF) && !isSurrogate c

/-- The code point and the width of the well-formed character at the front, if there is one. -/
def front? : Text → Option (Nat × Nat)
  | [] => none
  | a :: rest =>
    let lead := a.toNat
    if lead < 0x80 then some (lead, 1)
    else if lead < 0xC0 then none
    else if lead < 0xE0 then
      match rest with
      | b :: _ =>
        let code := (lead - 0xC0) * 64 + payload b
        if isContinuation b && decide (0x80 ≤ code) then some (code, 2) else none
      | [] => none
    else if lead < 0xF0 then
      match rest with
      | b :: c :: _ =>
        let code := ((lead - 0xE0) * 64 + payload b) * 64 + payload c
        if isContinuation b && isContinuation c && decide (0x800 ≤ code) && !isSurrogate code then
          some (code, 3)
        else none
      | _ => none
    else if lead < 0xF8 then
      match rest with
      | b :: c :: d :: _ =>
        let code := (((lead - 0xF0) * 64 + payload b) * 64 + payload c) * 64 + payload d
        if isContinuation b && isContinuation c && isContinuation d && decide (0x10000 ≤ code) &&
            decide (code ≤ 0x10FFFF) then
          some (code, 4)
        else none
      | _ => none
    else none

/-- The rune at the front of `b :: rest`. -/
def frontRune (b : UInt8) (rest : Text) : Rune :=
  match front? (b :: rest) with
  | some (code, width) => ⟨code, b :: rest.take (width - 1)⟩
  | none => ⟨replacement, [b]⟩

/-- Reading, after the first `skip` bytes, which belong to a rune already read. -/
def runesFrom : Nat → Text → List Rune
  | _, [] => []
  | 0, b :: rest =>
    let r := frontRune b rest
    r :: runesFrom (r.bytes.length - 1) rest
  | skip + 1, _ :: rest => runesFrom skip rest

/-- The runes of a text; their bytes concatenate to it. -/
def runes (t : Text) : List Rune :=
  runesFrom 0 t

def ofRunes (rs : List Rune) : Text :=
  rs.flatMap Rune.bytes

/-- The UTF-8 form of a code point; a code point without one is written as the replacement. -/
def encode (code : Nat) : Text :=
  let c := if isScalar code then code else replacement
  if c < 0x80 then [UInt8.ofNat c]
  else if c < 0x800 then [UInt8.ofNat (0xC0 + c / 64), UInt8.ofNat (0x80 + c % 64)]
  else if c < 0x10000 then
    [UInt8.ofNat (0xE0 + c / 4096), UInt8.ofNat (0x80 + c / 64 % 64), UInt8.ofNat (0x80 + c % 64)]
  else
    [UInt8.ofNat (0xF0 + c / 262144), UInt8.ofNat (0x80 + c / 4096 % 64),
      UInt8.ofNat (0x80 + c / 64 % 64), UInt8.ofNat (0x80 + c % 64)]

/-- The text of a list of code points. -/
def ofCodes (codes : List Nat) : Text :=
  codes.flatMap encode

/-- The code points of a text, with the replacement for every byte that is not UTF-8. -/
def codes (t : Text) : List Nat :=
  t.runes.map Rune.code

/-! ### Character classes -/

def isUpper (c : Nat) : Bool :=
  if c < 0x80 then decide (0x41 ≤ c) && decide (c ≤ 0x5A) else within Table.uppercase c

def isLower (c : Nat) : Bool :=
  if c < 0x80 then decide (0x61 ≤ c) && decide (c ≤ 0x7A) else within Table.lowercase c

def isDigit (c : Nat) : Bool :=
  if c < 0x80 then decide (0x30 ≤ c) && decide (c ≤ 0x39) else within Table.digits c

def isLetter (c : Nat) : Bool :=
  if c < 0x80 then isUpper c || isLower c else within Table.letters c

def toUpper (c : Nat) : Nat :=
  if c < 0x80 then (if isLower c then c - 0x20 else c) else shifted Table.toUpper c

def toLower (c : Nat) : Nat :=
  if c < 0x80 then (if isUpper c then c + 0x20 else c) else shifted Table.toLower c

/-- White space: the blanks of ASCII and Latin-1 and the Unicode separators. -/
def isBlank (c : Nat) : Bool :=
  (decide (0x09 ≤ c) && decide (c ≤ 0x0D)) || c == 0x20 || c == 0x85 || c == 0xA0 || c == 0x1680 ||
    (decide (0x2000 ≤ c) && decide (c ≤ 0x200A)) || c == 0x2028 || c == 0x2029 || c == 0x202F ||
    c == 0x205F || c == 0x3000

/-- Characters shown as themselves inside quotes. -/
def isGraphic (c : Nat) : Bool :=
  if c < 0x80 then decide (0x20 ≤ c) && decide (c < 0x7F) else within Table.graphic c

/-! ### Trimming, searching and splitting -/

def dropBlanks (rs : List Rune) : List Rune :=
  rs.dropWhile fun r => isBlank r.code

/-- The text without the white space at both ends. -/
def trim (t : Text) : Text :=
  ofRunes (dropBlanks (dropBlanks t.runes).reverse).reverse

/-- The parts before and after the first `b`; `none` for the second when `b` does not occur. -/
def cut (b : UInt8) : Text → Text × Option Text
  | [] => ([], none)
  | c :: rest =>
    if c == b then ([], some rest)
    else
      let (before, after) := cut b rest
      (c :: before, after)

/-- Whether `part` occurs in `t`. -/
def occursIn (part : Text) : Text → Bool
  | [] => part.isEmpty
  | b :: rest => part.isPrefixOf (b :: rest) || occursIn part rest

/-- The lower-case form, rune by rune. -/
def lowered (t : Text) : Text :=
  ofCodes (t.codes.map toLower)

/-- The text if the condition holds, nothing otherwise. -/
def when (condition : Bool) (t : Text) : Text :=
  if condition then t else []

/-- `sep` between the members of a list. -/
def join (sep : Text) : List Text → Text
  | [] => []
  | [t] => t
  | t :: rest => t ++ sep ++ join sep rest

/-- Every run of blanks becomes one space; none stays at either end. -/
def squeeze (t : Text) : Text :=
  join [0x20] ((t.splitBy fun a b => (a == 0x20) == (b == 0x20)).filter fun w => w.all (· != 0x20))

/-- The order of byte strings. -/
def lt : Text → Text → Bool
  | _, [] => false
  | [], _ :: _ => true
  | a :: s, b :: t => decide (a < b) || (a == b && lt s t)

/-- `s` does not come after `t`. -/
def le (s t : Text) : Bool :=
  !lt t s

theorem lt_iff (s t : Text) : lt s t = true ↔ s < t := by
  induction s generalizing t with
  | nil => cases t <;> simp [lt]
  | cons a s ih =>
    cases t with
    | nil => simp [lt]
    | cons b t => simp [lt, ih, List.cons_lt_cons_iff]

theorem le_iff (s t : Text) : le s t = true ↔ s ≤ t := by
  rw [le, Bool.not_eq_true', Bool.eq_false_iff, ne_eq, lt_iff, List.not_lt]

theorem sorted_mergeSort {α : Type} (key : α → Text) (xs : List α) :
    (xs.mergeSort fun a b => le (key a) (key b)).Pairwise fun a b => key a ≤ key b := by
  refine (List.pairwise_mergeSort ?trans ?total xs).imp fun {a b} before => (le_iff (key a) (key b)).mp before
  case trans =>
    intro a b c first second
    rw [le_iff] at *
    exact Std.le_trans first second
  case total =>
    intro a b
    rw [Bool.or_eq_true, le_iff, le_iff]
    exact Std.le_total

/-! ### Numerals -/

def digit (n : Nat) : UInt8 :=
  if n < 10 then UInt8.ofNat (0x30 + n) else UInt8.ofNat (0x57 + n)

/-- The last `width` digits of `n` in the given base. -/
def padded (base width n : Nat) : Text :=
  match width with
  | 0 => []
  | w + 1 => padded base w (n / base) ++ [digit (n % base)]

/-- The number of digits of `n`, found within `fuel` divisions. -/
def numeralWidth (base : Nat) : Nat → Nat → Nat
  | 0, _ => 1
  | fuel + 1, n => if n < base then 1 else numeralWidth base fuel (n / base) + 1

def numeral (base n : Nat) : Text :=
  padded base (numeralWidth base n.log2.succ n) n

/-- Decimal notation. -/
def ofNat (n : Nat) : Text :=
  numeral 10 n

def ofInt : Int → Text
  | .ofNat n => ofNat n
  | .negSucc n => 0x2D :: ofNat (n + 1)

def hex (n : Nat) : Text :=
  numeral 16 n

end Text

end TypeAtlas
