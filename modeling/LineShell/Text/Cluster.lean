/-
User-perceived characters. A backspace takes away what a reader sees as
one character, which may be several code points: a letter with its
accents, a syllable, consonants written as one, a flag, a picture made of
pictures.

`clusters` cuts a text into such groups by the standard's rules for
extended grapheme clusters: a text is read once, and each character
either joins the group before it or begins a new one (`joins`).
-/
import LineShell.Text.ClusterTable

namespace LineShell.Text

/-- How a character combines with its neighbours. -/
inductive ClusterClass
  | carriageReturn
  | lineFeed
  | control
  | extend
  /-- A mark that joins a consonant to the one after it. -/
  | linker
  /-- The character that keeps consonants apart. -/
  | nonJoiner
  | joiner
  | spacing
  | prepend
  | regional
  /-- The leading, middle and trailing parts of a Hangul syllable, and
  syllables with two and three parts. -/
  | lead
  | vowel
  | trail
  | leadVowel
  | leadVowelTrail
  | pictographic
  | consonant
  | other
  deriving DecidableEq, Repr

/-- Whether a code point lies in one of the ranges. -/
def inRanges (n : Nat) (ranges : List (Nat × Nat)) : Bool :=
  ranges.any fun r => r.1 ≤ n && n ≤ r.2

/-- The class of a character. -/
def ClusterClass.of (c : Char) : ClusterClass :=
  let n := c.toNat
  if n == 0xD then .carriageReturn
  else if n == 0xA then .lineFeed
  else if n < 0x20 then .control
  else if n < 0x7F then .other
  else if n == 0x200C then .nonJoiner
  else if n == 0x200D then .joiner
  else if 0x1F1E6 ≤ n && n ≤ 0x1F1FF then .regional
  else if (0x1100 ≤ n && n ≤ 0x115F) || (0xA960 ≤ n && n ≤ 0xA97C) then .lead
  else if (0x1160 ≤ n && n ≤ 0x11A7) || (0xD7B0 ≤ n && n ≤ 0xD7C6)
      || n == 0x16D63 || (0x16D67 ≤ n && n ≤ 0x16D6A) then .vowel
  else if (0x11A8 ≤ n && n ≤ 0x11FF) || (0xD7CB ≤ n && n ≤ 0xD7FB) then .trail
  else if 0xAC00 ≤ n && n ≤ 0xD7A3 then
    if (n - 0xAC00) % 28 == 0 then .leadVowel else .leadVowelTrail
  else if inRanges n ClusterTable.control then .control
  else if inRanges n ClusterTable.linker then .linker
  else if inRanges n ClusterTable.extend then .extend
  else if inRanges n ClusterTable.spacing then .spacing
  else if inRanges n ClusterTable.prepend then .prepend
  else if inRanges n ClusterTable.pictographic then .pictographic
  else if inRanges n ClusterTable.consonant then .consonant
  else .other

/-- Whether a character extends the one before it. -/
def ClusterClass.isExtending : ClusterClass → Bool
  | .extend | .linker | .nonJoiner => true
  | _ => false

/-- How far a conjunct of consonants has come. -/
inductive Conjunct
  | absent
  /-- There is a consonant, and no mark that joins it to another. -/
  | begun
  | linked
  deriving DecidableEq, Repr

/-- How far a picture of several characters has come. -/
inductive Picture
  | absent
  | begun
  /-- There is a joiner behind the picture. -/
  | joined
  deriving DecidableEq, Repr

/-- What the end of a group says about the character after it: the class
of the last character, how far a picture and a conjunct have come there,
and whether an odd number of regional characters stands there. -/
structure ClusterEnd where
  last : ClusterClass
  picture : Picture
  conjunct : Conjunct
  oddRegional : Bool
  deriving DecidableEq, Repr

namespace ClusterEnd

/-- The end of a group of one character. -/
def single (k : ClusterClass) : ClusterEnd where
  last := k
  picture := if k == .pictographic then .begun else .absent
  conjunct := if k == .consonant then .begun else .absent
  oddRegional := k == .regional

/-- Whether a character of class `k` joins a group. -/
def joins (e : ClusterEnd) (k : ClusterClass) : Bool :=
  match e.last, k with
  | .carriageReturn, .lineFeed => true
  | .carriageReturn, _ | .lineFeed, _ | .control, _ => false
  | _, .carriageReturn | _, .lineFeed | _, .control => false
  | _, .extend | _, .linker | _, .nonJoiner | _, .joiner | _, .spacing => true
  | .prepend, _ => true
  | .lead, .lead | .lead, .vowel | .lead, .leadVowel | .lead, .leadVowelTrail => true
  | .leadVowel, .vowel | .leadVowel, .trail | .vowel, .vowel | .vowel, .trail => true
  | .leadVowelTrail, .trail | .trail, .trail => true
  | _, .pictographic => e.picture == .joined
  | _, .consonant => e.conjunct == .linked
  | .regional, .regional => e.oddRegional
  | _, _ => false

/-- The end of a group after a character of class `k` has joined it. -/
def push (e : ClusterEnd) (k : ClusterClass) : ClusterEnd where
  last := k
  picture :=
    if k == .pictographic then .begun
    else if e.picture == .begun && k.isExtending then .begun
    else if e.picture == .begun && k == .joiner then .joined
    else .absent
  conjunct :=
    if k == .consonant then .begun
    else if k == .linker && e.conjunct != .absent then .linked
    else if k == .extend || k == .joiner then e.conjunct
    else .absent
  oddRegional := k == .regional && !e.oddRegional

end ClusterEnd

/-- Groups read so far, the latest first and each backwards, with what
the end of the latest says. -/
abbrev ClusterReading := List (List Char) × Option ClusterEnd

/-- Reads one more character. -/
def ClusterReading.step (r : ClusterReading) (c : Char) : ClusterReading :=
  let k := ClusterClass.of c
  match r with
  | (group :: groups, some e) =>
    if e.joins k then ((c :: group) :: groups, some (e.push k))
    else ([c] :: group :: groups, some (.single k))
  | (groups, _) => ([c] :: groups, some (.single k))

/-- The groups of a text, the latest first and each backwards. -/
def clustersBackwards (text : List Char) : List (List Char) :=
  (text.foldl ClusterReading.step ([], none)).1

/-- The user-perceived characters of a text, in order. -/
def clusters (text : List Char) : List (List Char) :=
  (clustersBackwards text).reverse.map List.reverse

/-- A text without its last user-perceived character. -/
def dropLastCluster (text : List Char) : List Char :=
  ((clusters text).dropLast).flatten

end LineShell.Text
