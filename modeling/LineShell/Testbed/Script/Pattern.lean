/-
Patterns: `*`, `?` and sets in brackets. A byte of a pattern is quoted or
not (`Glyph`); a quoted one stands for itself, as does one behind a
backslash.

`matches?` reads a pattern from the left and tries every length for a
`*`, so that it finds a match if there is one.
-/
import LineShell.Text.Utf8

namespace LineShell.Script

/-- A byte of an expanded word, quoted or not, or the place of a
quotation mark. -/
inductive Glyph
  | byte (b : UInt8) (escaped : Bool)
  | mark
  deriving DecidableEq, Repr

namespace Glyph

/-- The bytes of glyphs. -/
def bytes (glyphs : List Glyph) : Bytes :=
  glyphs.filterMap fun
    | .byte b _ => some b
    | .mark => none

/-- Glyphs of bytes. -/
def ofBytes (escaped : Bool) (bytes : Bytes) : List Glyph :=
  bytes.map (.byte · escaped)

end Glyph

/-- A byte of a pattern; a quoted one has no meaning but itself. -/
structure PatternByte where
  byte : UInt8
  quoted : Bool
  deriving DecidableEq, Repr

/-- A pattern. -/
abbrev Pattern := List PatternByte

namespace Pattern

/-- The pattern that glyphs are. A backslash that is not quoted quotes the
byte behind it. -/
def ofGlyphs : List Glyph → Pattern
  | [] => []
  | .mark :: rest => ofGlyphs rest
  | .byte 92 false :: .byte b _ :: rest => ⟨b, true⟩ :: ofGlyphs rest
  | .byte 92 false :: .mark :: .byte b _ :: rest => ⟨b, true⟩ :: ofGlyphs rest
  | .byte b escaped :: rest => ⟨b, escaped⟩ :: ofGlyphs rest

/-- Whether a byte of a pattern is not quoted and the one given. -/
def isPlain (b : UInt8) (p : PatternByte) : Bool :=
  !p.quoted && p.byte == b

-- =================================================================== sets

/-- Whether a byte is in a class of characters. -/
def inClass (name : String) (b : UInt8) : Option Bool :=
  let upper := 65 ≤ b && b ≤ 90
  let lower := 97 ≤ b && b ≤ 122
  let digit := 48 ≤ b && b ≤ 57
  let graphic := 33 ≤ b && b ≤ 126
  match name with
  | "alnum" => some (upper || lower || digit)
  | "alpha" => some (upper || lower)
  | "blank" => some (b == 32 || b == 9)
  | "cntrl" => some (b < 32 || b == 127)
  | "digit" => some digit
  | "graph" => some graphic
  | "lower" => some lower
  | "print" => some (graphic || b == 32)
  | "punct" => some (graphic && !upper && !lower && !digit)
  | "space" => some (b == 32 || 9 ≤ b && b ≤ 13)
  | "upper" => some upper
  | "xdigit" => some (digit || 65 ≤ b && b ≤ 70 || 97 ≤ b && b ≤ 102)
  | _ => none

/-- A class named at the start of a pattern, behind its bracket: whether a
byte is in it, and what follows. -/
def readClass (b : UInt8) (p : Pattern) : Option (Bool × Pattern) :=
  match p with
  | colon :: rest =>
    if !isPlain 58 colon then none
    else
      let name := rest.takeWhile (fun c => !c.quoted && 97 ≤ c.byte && c.byte ≤ 122)
      match rest.drop name.length with
      | last :: bracket :: rest =>
        if isPlain 58 last && isPlain 93 bracket then
          (inClass (Utf8.lossy (name.map (·.byte))) b).map (·, rest)
        else none
      | _ => none
  | [] => none

/-- The order of bytes in ranges: those above ASCII come first. -/
def rank (b : UInt8) : Nat :=
  if b < 128 then b.toNat + 128 else b.toNat - 128

/-- Reads the members of a set up to its closing bracket: whether a byte
is among them, and what follows. There is no set if no bracket closes. -/
def readSet (b : UInt8) : Nat → Bool → Bool → Pattern → Option (Bool × Pattern)
  | 0, _, _, _ => none
  | _ + 1, _, _, [] => none
  | fuel + 1, first, found, c :: rest =>
    if isPlain 93 c && !first then some (found, rest)
    else
      match if isPlain 91 c then readClass b rest else none with
      | some (isIn, rest) => readSet b fuel false (found || isIn) rest
      | none =>
        match rest with
        | dash :: last :: rest' =>
          if isPlain 45 dash && !isPlain 93 last then
            let isIn := rank c.byte ≤ rank b && rank b ≤ rank last.byte
            readSet b fuel false (found || isIn) rest'
          else readSet b fuel false (found || c.byte == b) rest
        | _ => readSet b fuel false (found || c.byte == b) rest

/-- Whether a byte is in the set at the start of a pattern, behind its
bracket, and what follows. -/
def set? (b : UInt8) (p : Pattern) : Option (Bool × Pattern) :=
  match p with
  | c :: rest =>
    if isPlain 33 c then
      (readSet b (p.length + 1) true false rest).map fun (found, rest) => (!found, rest)
    else readSet b (p.length + 1) true false p
  | [] => none

-- ================================================================ matching

/-- Whether a pattern matches the whole of a text. The first argument
bounds the steps. -/
def matchesWithin : Nat → Pattern → Bytes → Bool
  | 0, _, _ => false
  | _ + 1, [], text => text.isEmpty
  | fuel + 1, c :: rest, text =>
    if isPlain 42 c then
      matchesWithin fuel rest text || match text with
        | [] => false
        | _ :: more => matchesWithin fuel (c :: rest) more
    else match text with
      | [] => false
      | b :: more =>
        if isPlain 63 c then matchesWithin fuel rest more
        else match if isPlain 91 c then set? b rest else none with
          | some (isIn, rest) => isIn && matchesWithin fuel rest more
          | none => c.byte == b && matchesWithin fuel rest more

/-- A pattern in which neighbouring stars are one. -/
def squeeze : Pattern → Pattern
  | a :: b :: rest =>
    if isPlain 42 a && isPlain 42 b then squeeze (b :: rest) else a :: squeeze (b :: rest)
  | p => p

/-- Whether a pattern matches the whole of a text. -/
def matches? (p : Pattern) (text : Bytes) : Bool :=
  matchesWithin (p.length + text.length + 1) (squeeze p) text

/-- Whether a pattern matches the first of the fields in a text, which NUL
bytes divide. -/
def matchesField (p : Pattern) (text : Bytes) : Bool :=
  matches? p (text.takeWhile (· != 0))

/-- What is left of a text when the start or the end that a pattern
matches is taken away, the shortest or the longest. Of a start or an end
that has several fields the first one counts; the longest end begins in
the first field of the text. -/
def trim (p : Pattern) (atStart longest : Bool) (text : Bytes) : Bytes :=
  let lengths := List.range (text.length + 1)
  let fieldLength := (text.takeWhile (· != 0)).length
  let lengths :=
    if !longest then lengths
    else if atStart then lengths.reverse
    else lengths.reverse.take (fieldLength + 1)
  if atStart then
    match lengths.find? fun n => matchesField p (text.take n) with
    | some n => text.drop n
    | none => text
  else
    match lengths.find? fun n => matchesField p (text.drop (text.length - n)) with
    | some n => text.take (text.length - n)
    | none => text

/-- Whether a bracket closes behind the first byte of what stands behind
the one that opens. -/
def closes : Pattern → Bool
  | _ :: last :: rest => isPlain 93 last || closes (last :: rest)
  | _ => false

/-- Whether a pattern may match anything but one text. -/
def isOpen (p : Pattern) : Bool :=
  match p with
  | [] => false
  | c :: rest =>
    let members := if (rest.head?.map (isPlain 33)).getD false then rest.drop 1 else rest
    isPlain 42 c || isPlain 63 c || (isPlain 91 c && closes members) || isOpen rest

end Pattern
end LineShell.Script
