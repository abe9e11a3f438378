import TypeAtlas.Text

/-!
Double-quoted text. Writing shows graphic characters as themselves and escapes the rest, so that bytes
outside UTF-8 survive; reading accepts the same escapes and octal ones, and fails on anything else.
-/

namespace TypeAtlas.Text

def quoteMark : UInt8 := 0x22

def backslash : UInt8 := 0x5C

/-- Control characters with an escape of one letter. -/
def letterEscapes : List (Nat × UInt8) :=
  [(0x07, 0x61), (0x08, 0x62), (0x0C, 0x66), (0x0A, 0x6E), (0x0D, 0x72), (0x09, 0x74), (0x0B, 0x76)]

/-- A rune as it stands between quotes when the characters of `shown` stand for themselves. -/
def escapeUnless (shown : Nat → Bool) (r : Rune) : Text :=
  if r.code == replacement && r.bytes.length == 1 then
    [backslash, 0x78] ++ r.bytes.flatMap fun b => padded 16 2 b.toNat
  else if r.code == 0x22 || r.code == 0x5C then backslash :: r.bytes
  else if shown r.code then r.bytes
  else
    match letterEscapes.lookup r.code with
    | some letter => [backslash, letter]
    | none =>
      if r.code < 0x20 || r.code == 0x7F then [backslash, 0x78] ++ padded 16 2 r.code
      else if r.code < 0x10000 then [backslash, 0x75] ++ padded 16 4 r.code
      else [backslash, 0x55] ++ padded 16 8 r.code

/-- Graphic characters of ASCII. -/
def isAsciiGraphic (c : Nat) : Bool :=
  decide (c < 0x80) && isGraphic c

/-- A rune as it stands between quotes. -/
def escape (r : Rune) : Text :=
  escapeUnless isGraphic r

/-- A text between double quotes. -/
def quote (t : Text) : Text :=
  quoteMark :: t.runes.flatMap escape ++ [quoteMark]

/-- A text between double quotes, in ASCII alone. -/
def quoteAscii (t : Text) : Text :=
  quoteMark :: t.runes.flatMap (escapeUnless isAsciiGraphic) ++ [quoteMark]

/-- A character between single quotes. What is no character is shown as the replacement. -/
def quoteCode (shown : Nat → Bool) (code : Nat) : Text :=
  let code := if isScalar code then code else replacement
  let body : Text :=
    if code == 0x27 then [backslash, 0x27]
    else if code == 0x22 then [quoteMark]
    else escapeUnless shown ⟨code, encode code⟩
  0x27 :: body ++ [0x27]

/-- Whether a text can stand between back quotes, where nothing is escaped. -/
def fitsRaw (t : Text) : Bool :=
  t.runes.all fun r =>
    if 1 < r.bytes.length then r.code != 0xFEFF
    else r.code != replacement && r.code != 0x60 && r.code != 0x7F &&
      (decide (0x20 ≤ r.code) || r.code == 0x09)

/-- The value of a digit in a base up to sixteen. -/
def digitValue? (base : Nat) (b : UInt8) : Option Nat :=
  let n := b.toNat
  let value :=
    if 0x30 ≤ n ∧ n ≤ 0x39 then n - 0x30
    else if 0x61 ≤ n ∧ n ≤ 0x66 then n - 0x57
    else if 0x41 ≤ n ∧ n ≤ 0x46 then n - 0x37
    else base
  if value < base then some value else none

/-- The number written by exactly `count` digits at the front, and the rest. -/
def takeNumber? (base : Nat) : Nat → Nat → Text → Option (Nat × Text)
  | 0, acc, t => some (acc, t)
  | _ + 1, _, [] => none
  | count + 1, acc, b :: rest => do
    let d ← digitValue? base b
    takeNumber? base count (acc * base + d) rest

/-- What an escape after the backslash stands for, and the rest. -/
def unescape? : Text → Option (Text × Text)
  | [] => none
  | c :: rest =>
    match letterEscapes.find? (·.2 == c) with
    | some (code, _) => some ([UInt8.ofNat code], rest)
    | none =>
      if c == 0x78 then do
        let (n, rest) ← takeNumber? 16 2 0 rest
        some ([UInt8.ofNat n], rest)
      else if c == 0x75 || c == 0x55 then do
        let (n, rest) ← takeNumber? 16 (if c == 0x75 then 4 else 8) 0 rest
        if isScalar n then some (encode n, rest) else none
      else if c == backslash || c == quoteMark then some ([c], rest)
      else do
        let (n, rest) ← takeNumber? 8 3 0 (c :: rest)
        if n < 256 then some ([UInt8.ofNat n], rest) else none

/-- Reads up to the closing quote, which must end the text. Each step consumes at least one byte, so
the length of the text is enough fuel. -/
def unquoteBody? : Nat → Text → Option Text
  | 0, _ => none
  | _ + 1, [] => none
  | fuel + 1, b :: rest =>
    if b == quoteMark then (if rest.isEmpty then some [] else none)
    else if b == 0x0A then none
    else if b == backslash then do
      let (bytes, rest) ← unescape? rest
      return bytes ++ (← unquoteBody? fuel rest)
    else do
      let r := frontRune b rest
      return encode r.code ++ (← unquoteBody? fuel ((b :: rest).drop r.bytes.length))

/-- The text that a double-quoted text stands for. -/
def unquote? : Text → Option Text
  | [] => none
  | b :: rest => if b == quoteMark then unquoteBody? (rest.length + 1) rest else none

end TypeAtlas.Text
