import TypeAtlas.Text.Quoted

/-!
Message templates. A placeholder is a percent sign, flags, a width, a precision and a verb: `%s` takes a
text, `%d` a number, `%x` either in base sixteen, `%q` either and quotes it, a number as the character
that it is the code of, `%v` takes either as it is, and `%%` is a percent sign. A width or precision of `*`
is an argument itself, and `[n]` goes on with the n-th argument. A placeholder that does not fit its
argument, an argument too few or one too many is shown in place.
-/

namespace TypeAtlas

/-- A text or a number reported along with a message. -/
inductive Datum where
  | text (t : Text)
  | number (n : Int)
  deriving DecidableEq, Repr

namespace Datum

def render : Datum → Text
  | .text t => t
  | .number n => Text.ofInt n

def typeName : Datum → Text
  | .text _ => "string"
  | .number _ => "int"

def toInt? : Datum → Option Int
  | .text _ => none
  | .number n => some n

end Datum

namespace Template

/-- How a placeholder wants its argument laid out. -/
structure Style where
  /-- Marks the base of a number and quotes texts raw. -/
  sharp : Bool := false
  /-- Fills up with zeros on the left. -/
  zero : Bool := false
  /-- Writes a sign always, and quotes in ASCII. -/
  plus : Bool := false
  /-- Fills up on the right. -/
  minus : Bool := false
  /-- Leaves room for a sign, and parts the bytes of a text. -/
  space : Bool := false
  /-- Shows a text as a literal. -/
  literal : Bool := false
  width : Option Nat := none
  precision : Option Nat := none
  deriving DecidableEq, Repr

namespace Style

/-- `count` fill characters. -/
def filler (s : Style) (count : Nat) : Text :=
  List.replicate count (if s.zero && !s.minus then 0x30 else 0x20)

/-- Fills a text up to the width, counted in characters. -/
def fit (s : Style) (t : Text) : Text :=
  let fill := s.filler (s.width.getD 0 - t.runes.length)
  if s.minus then t ++ fill else fill ++ t

/-- The first characters of a text, as many as the precision says. -/
def clip (s : Style) (t : Text) : Text :=
  match s.precision with
  | none => t
  | some n => Text.ofRunes (t.runes.take n)

def plain (s : Style) (t : Text) : Text :=
  s.fit (s.clip t)

def quoted (s : Style) (t : Text) : Text :=
  let t := s.clip t
  if s.sharp && Text.fitsRaw t then s.fit (0x60 :: t ++ [0x60])
  else s.fit (if s.plus then Text.quoteAscii t else Text.quote t)

/-- The character with a given code; what is no character is the replacement. -/
def character (s : Style) (n : Int) : Text :=
  s.fit (Text.encode (if n < 0 then Text.replacement else n.toNat))

def quotedCharacter (s : Style) (n : Int) : Text :=
  s.fit (Text.quoteCode (if s.plus then Text.isAsciiGraphic else Text.isGraphic)
    (if n < 0 then Text.replacement else n.toNat))

/-- Capital letters for digits above nine. -/
def capitals (t : Text) : Text :=
  t.map fun b => if 0x61 ≤ b ∧ b ≤ 0x66 then b - 0x20 else b

/-- At least `width` digits. -/
def zeroPadded (width : Nat) (digits : Text) : Text :=
  List.replicate (width - digits.length) 0x30 ++ digits

/-- The sign of a number under this style. -/
def sign (s : Style) (n : Int) : Text :=
  if n < 0 then "-" else if s.plus then "+" else if s.space then " " else []

/-- The mark of a base. -/
def baseMark (s : Style) (base : Nat) (capital : Bool) (digits : Text) : Text :=
  if !s.sharp then []
  else if base == 2 then "0b"
  else if base == 8 then (if digits.head? == some 0x30 then [] else "0")
  else if base == 16 then (if capital then "0X" else "0x")
  else []

/-- A number in a base. A precision of zero writes nothing for zero; zeros on the left count the sign. -/
def numeral (s : Style) (base : Nat) (capital octal : Bool) (n : Int) : Text :=
  let blankFill := { s with zero := false }
  if s.precision == some 0 && n == 0 then blankFill.filler (s.width.getD 0)
  else
    let least :=
      match s.precision, s.width with
      | some p, _ => p
      | none, some w => if s.zero && !s.minus then w - (s.sign n).length else 0
      | none, none => 0
    let written := Text.numeral base n.natAbs
    let digits := zeroPadded least (if capital then capitals written else written)
    blankFill.fit
      (s.sign n ++ Text.when octal "0o" ++ s.baseMark base capital digits ++ digits)

/-- The number as an unsigned word. -/
def word (n : Int) : Nat :=
  (n % 0x10000000000000000).toNat

/-- A code point by its number, with the character after it if wanted. -/
def codePoint (s : Style) (n : Int) : Text :=
  let code := word n
  let digits := zeroPadded (max 4 (s.precision.getD 0)) (capitals (Text.hex code))
  let shown : Text :=
    if s.sharp && Text.isGraphic code then " '" ++ Text.encode code ++ "'" else []
  { s with zero := false }.fit ("U+" ++ digits ++ shown)

/-- The bytes of a text in base sixteen. -/
def hexBytes (s : Style) (capital : Bool) (t : Text) : Text :=
  let mark : Text := if s.sharp then (if capital then "0X" else "0x") else []
  let kept : Text := match s.precision with | none => t | some n => t.take n
  let bytes := kept.map fun b =>
    let digits := Text.padded 16 2 b.toNat
    if capital then capitals digits else digits
  if bytes.isEmpty then s.filler (s.width.getD 0)
  else s.fit (mark ++ if s.space then Text.join (" " ++ mark) bytes else bytes.flatten)

end Style

/-- The argument under a verb that fits it. -/
def shown? (s : Style) (verb : Nat) (d : Datum) : Option Text :=
  if verb == 0x54 then some (s.plain d.typeName)
  else
    match d with
    | .text t =>
      if verb == 0x76 then some (if s.literal then s.quoted t else s.plain t)
      else if verb == 0x73 then some (s.plain t)
      else if verb == 0x71 then some (s.quoted t)
      else if verb == 0x78 || verb == 0x58 then some (s.hexBytes (verb == 0x58) t)
      else none
    | .number n =>
      if verb == 0x76 || verb == 0x64 then some (s.numeral 10 false false n)
      else if verb == 0x62 then some (s.numeral 2 false false n)
      else if verb == 0x6F || verb == 0x4F then some (s.numeral 8 false (verb == 0x4F) n)
      else if verb == 0x78 || verb == 0x58 then some (s.numeral 16 (verb == 0x58) false n)
      else if verb == 0x63 then some (s.character n)
      else if verb == 0x71 then some (s.quotedCharacter n)
      else if verb == 0x55 then some (s.codePoint n)
      else none

/-- A value with its type, as messages about placeholders show it. -/
def typed (s : Style) (d : Datum) : Text :=
  d.typeName ++ "=" ++ (shown? s 0x76 d).getD []

/-- What a placeholder becomes that could not be filled. -/
def misfit (verb : Nat) (reason : Text) : Text :=
  "%!" ++ Text.encode verb ++ "(" ++ reason ++ ")"

/-- The argument as a placeholder shows it. -/
def fill (s : Style) (verb : Nat) (d : Datum) : Text :=
  let s :=
    if verb == 0x76 || verb == 0x77 then { s with literal := s.sharp, sharp := false, plus := false }
    else s
  (shown? s verb d).getD (misfit verb (typed s d))

/-! ### Reading placeholders -/

/-- Which argument comes next. -/
structure Position where
  next : Nat := 0
  /-- Arguments were taken out of order somewhere, so none counts as left over. -/
  reordered : Bool := false
  /-- The placeholder names no argument that there is not. -/
  valid : Bool := true

/-- Widths and precisions above this are not taken. -/
def greatest : Nat := 1000000

/-- The number at the front, after digits worth `sofar`. One too large takes the rest of the text along. -/
def number (sofar : Option Nat) : Text → Option Nat × Text
  | [] => (sofar, [])
  | b :: rest =>
    if 0x30 ≤ b ∧ b ≤ 0x39 then
      if greatest < sofar.getD 0 then (none, [])
      else number (some (sofar.getD 0 * 10 + (b.toNat - 0x30))) rest
    else (sofar, b :: rest)

def flags (s : Style) : Text → Style × Text
  | [] => (s, [])
  | b :: rest =>
    if b == 0x23 then flags { s with sharp := true } rest
    else if b == 0x30 then flags { s with zero := true } rest
    else if b == 0x2B then flags { s with plus := true } rest
    else if b == 0x2D then flags { s with minus := true } rest
    else if b == 0x20 then flags { s with space := true } rest
    else (s, b :: rest)

/-- An explicit position `[n]` at the front, and whether there was one. -/
def explicit (args : List Datum) (p : Position) : Text → Position × Text × Bool
  | [] => (p, [], false)
  | b :: rest =>
    if b != 0x5B then (p, b :: rest, false)
    else
      let astray := { p with reordered := true, valid := false }
      match (if rest.length < 2 then ([], none) else Text.cut 0x5D rest) with
      | (_, none) => (astray, rest, false)
      | (inside, some after) =>
        match number none inside with
        | (some n, []) =>
          if 0 < n && n ≤ args.length then
            ({ p with next := n - 1, reordered := true }, after, true)
          else (astray, after, true)
        | _ => (astray, after, false)

/-- The next argument as a width or precision. -/
def starred (args : List Datum) (p : Position) : Option Int × Position :=
  match args[p.next]? with
  | none => (none, p)
  | some d =>
    (d.toInt?.filter fun n => decide (n.natAbs ≤ greatest), { p with next := p.next + 1 })

/-- Reads a width; `placed` says that a position stood before it. Gives what to complain of, too. -/
def width (args : List Datum) (s : Style) (p : Position) (placed : Bool) (t : Text) :
    Style × Position × Bool × Text × Text :=
  match t with
  | 0x2A :: rest =>
    match starred args p with
    | (none, p) => (s, p, false, rest, "%!(BADWIDTH)")
    | (some n, p) =>
      let s := if n < 0 then { s with minus := true, zero := false } else s
      ({ s with width := some n.natAbs }, p, false, rest, [])
  | t =>
    let (n, rest) := number none t
    ({ s with width := n }, { p with valid := p.valid && !(placed && n.isSome) }, placed, rest, [])

/-- Reads a precision after a point. -/
def precision (args : List Datum) (s : Style) (p : Position) (placed : Bool) (t : Text) :
    Style × Position × Bool × Text × Text :=
  match t with
  | 0x2E :: rest =>
    let (p, rest, placed) := explicit args { p with valid := p.valid && !placed } rest
    match rest with
    | 0x2A :: rest =>
      match starred args p with
      | (none, p) => (s, p, false, rest, "%!(BADPREC)")
      | (some n, p) =>
        if n < 0 then (s, p, false, rest, "%!(BADPREC)")
        else ({ s with precision := some n.toNat }, p, false, rest, [])
    | rest =>
      let (n, rest) := number none rest
      ({ s with precision := some (n.getD 0) }, p, placed, rest, [])
  | t => (s, p, placed, t, [])

/-- Fills the placeholder that starts after a percent sign. The rest is `none` when the template ends
before the verb. -/
def placeholder (args : List Datum) (p : Position) (t : Text) : Text × Position × Option Text :=
  let (s, t) := flags {} t
  let (p, t, placed) := explicit args { p with valid := true } t
  let (s, p, placed, t, badWidth) := width args s p placed t
  let (s, p, placed, t, badPrecision) := precision args s p placed t
  let (p, t, _) := if placed then (p, t, true) else explicit args p t
  let complaint := badWidth ++ badPrecision
  match t with
  | [] => (complaint ++ "%!(NOVERB)", p, none)
  | b :: rest =>
    let r := Text.frontRune b rest
    let rest := some ((b :: rest).drop r.bytes.length)
    if r.code == 0x25 then (complaint ++ "%", p, rest)
    else if !p.valid then (complaint ++ misfit r.code "BADINDEX", p, rest)
    else
      match args[p.next]? with
      | none => (complaint ++ misfit r.code "MISSING", p, rest)
      | some d => (complaint ++ fill s r.code d, { p with next := p.next + 1 }, rest)

/-- The arguments that no placeholder took. -/
def surplus (args : List Datum) (p : Position) : Text :=
  if p.reordered || args.length ≤ p.next then []
  else "%!(EXTRA " ++ Text.join ", " ((args.drop p.next).map (typed {})) ++ ")"

/-- Fills the placeholders from left to right. Every step takes at least one byte, so the length of the
template is enough fuel. -/
def fillFrom (args : List Datum) : Nat → Position → Text → Text
  | 0, p, _ => surplus args p
  | _ + 1, p, [] => surplus args p
  | fuel + 1, p, b :: rest =>
    if b == 0x25 then
      match placeholder args p rest with
      | (out, p, none) => out ++ surplus args p
      | (out, p, some rest) => out ++ fillFrom args fuel p rest
    else b :: fillFrom args fuel p rest

end Template

namespace Text

/-- A template without arguments is taken as it is. -/
def format (template : Text) (args : List Datum) : Text :=
  if args.isEmpty then template else Template.fillFrom args template.length {} template

end Text

end TypeAtlas
