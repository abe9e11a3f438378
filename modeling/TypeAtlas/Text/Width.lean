import TypeAtlas.Text
import TypeAtlas.Text.Width.Table

/-!
The width of text on a screen, in columns. A character alone is as wide as it is drawn; a line is as wide
as its clusters, the characters that a reader takes for one.
-/

namespace TypeAtlas.Text.Width

/-- The columns of a character alone. -/
def ofCode (c : Nat) : Nat :=
  if c < 0x20 || (decide (0x7F ≤ c) && decide (c ≤ 0x9F)) || c == 0xAD then 0
  else if c < 0x300 then 1
  else if within Table.invisible c || within Table.combining c then 0
  else if within Table.wide c then 2
  else 1

/-- What a character can be in a cluster. -/
inductive Role where
  | carriage
  | feed
  | control
  | extending
  | joiner
  | spacing
  | leading
  /-- The parts of a syllable block: a leading consonant, a vowel, a trailing consonant. -/
  | consonant
  | vowel
  | trailing
  /-- Syllable blocks that end in a vowel, and in a trailing consonant. -/
  | openSyllable
  | closedSyllable
  /-- Half of a flag. -/
  | flag
  | pictograph
  | other
  deriving DecidableEq, Repr

def between (first last c : Nat) : Bool :=
  decide (first ≤ c) && decide (c ≤ last)

def Role.ofCode (c : Nat) : Role :=
  if c == 0x0D then .carriage
  else if c == 0x0A then .feed
  else if between 0x20 0x7E c then .other
  else if c == 0x200D then .joiner
  else if within Table.control c then .control
  else if within Table.extending c then .extending
  else if within Table.spacing c then .spacing
  else if within Table.leading c then .leading
  else if between 0x1100 0x115F c || between 0xA960 0xA97C c then .consonant
  else if between 0x1160 0x11A7 c || between 0xD7B0 0xD7C6 c then .vowel
  else if between 0x11A8 0x11FF c || between 0xD7CB 0xD7FB c then .trailing
  else if between 0xAC00 0xD7A3 c then
    if (c - 0xAC00) % 28 == 0 then .openSyllable else .closedSyllable
  else if between 0x1F1E6 0x1F1FF c then .flag
  else if within Table.pictographic c then .pictograph
  else .other

/-- The columns that a character adds to a cluster. -/
def ofMember (role : Role) (c : Nat) : Nat :=
  match role with
  | .carriage | .feed | .control | .extending | .joiner => 0
  | .flag => 2
  | .pictograph => if within Table.pictorial c then 2 else 1
  | _ =>
    if c == 0x2E3A then 3
    else if c == 0x2E3B then 4
    else if within Table.wide c then 2
    else 1

/-- What the characters of a cluster so far ask of the next one. -/
inductive Tail where
  | closed
  | carriage
  | leading
  | consonant
  | vowel
  | trailing
  | halfFlag
  | pictograph
  | joinedPictograph
  | plain
  deriving DecidableEq, Repr

/-- The tail after a character that starts a cluster. -/
def Tail.start : Role → Tail
  | .carriage => .carriage
  | .feed | .control => .closed
  | .leading => .leading
  | .consonant => .consonant
  | .vowel | .openSyllable => .vowel
  | .trailing | .closedSyllable => .trailing
  | .flag => .halfFlag
  | .pictograph => .pictograph
  | _ => .plain

/-- The tail after a character that stays in the cluster; `none` if it starts a new one. -/
def Tail.next? (t : Tail) (role : Role) : Option Tail :=
  match t, role with
  | .carriage, .feed => some .closed
  | .carriage, _ | .closed, _ => none
  | _, .carriage | _, .feed | _, .control => none
  | .pictograph, .extending => some .pictograph
  | .pictograph, .joiner => some .joinedPictograph
  | .joinedPictograph, .pictograph => some .pictograph
  | _, .extending | _, .joiner | _, .spacing => some .plain
  | .leading, _ => some (.start role)
  | .consonant, .consonant => some .consonant
  | .consonant, .vowel | .consonant, .openSyllable => some .vowel
  | .consonant, .closedSyllable => some .trailing
  | .vowel, .vowel => some .vowel
  | .vowel, .trailing => some .trailing
  | .trailing, .trailing => some .trailing
  | .halfFlag, .flag => some .plain
  | _, _ => none

/-- A cluster being read. -/
structure Cluster where
  first : Role
  tail : Tail
  columns : Nat

namespace Cluster

def start (c : Nat) : Cluster :=
  let role := Role.ofCode c
  ⟨role, .start role, ofMember role c⟩

/-- The columns after one more character. A pictograph takes the form that a selector after it asks for;
flags and syllables are as wide as their first part. -/
def grown (k : Cluster) (role : Role) (c : Nat) : Nat :=
  match k.first with
  | .pictograph => if c == 0xFE0E then 1 else if c == 0xFE0F then 2 else k.columns
  | .flag | .consonant => k.columns
  | _ => k.columns + ofMember role c

end Cluster

/-- The columns of the cluster being read and of the characters after it. -/
def ofCluster (k : Cluster) : List Nat → Nat
  | [] => k.columns
  | c :: rest =>
    let role := Role.ofCode c
    match k.tail.next? role with
    | some tail => ofCluster ⟨k.first, tail, k.grown role c⟩ rest
    | none => k.columns + ofCluster (.start c) rest

/-- The columns of a line, given by its code points. -/
def ofCodes : List Nat → Nat
  | [] => 0
  | c :: rest => ofCluster (.start c) rest

end TypeAtlas.Text.Width
