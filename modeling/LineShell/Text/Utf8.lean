/-
UTF-8, in both directions. Text is `String`; everything that crosses a
channel, names a file or comes from outside is `Bytes`.

`Decoder` reads one byte at a time and carries all that the next byte's
meaning depends on: the character that has begun and not ended. It never
fails. Bytes that belong to no character turn into U+FFFD, one for each
maximal start of a character that does not go on as it should
(`lossy`); whether that ever happened is remembered, so `decode?` is the
same reading with a verdict.

An ASCII byte always ends what was begun before it. That is why cutting
bytes at line ends and decoding commute.
-/

namespace LineShell

/-- A string of bytes: the contents of a file, a path, a piece of output. -/
abbrev Bytes := List UInt8

/-- The bytes of a text. -/
def Bytes.ofText (text : String) : Bytes :=
  text.toList.flatMap String.utf8EncodeChar

/-- Whether bytes come before others, or are the same. -/
def Bytes.comesBefore : Bytes → Bytes → Bool
  | [], _ => true
  | _ :: _, [] => false
  | a :: as, b :: bs => a < b || (a == b && comesBefore as bs)

namespace Utf8

-- ============================================================ the decoder

/-- A character that has begun: how many bytes it still needs, the range
the next of them must lie in, and the bits read so far. -/
structure Begun where
  needs : Nat
  low : UInt8
  high : UInt8
  bits : Nat
  deriving DecidableEq, Repr

/-- What a first byte above ASCII begins, if it can begin a character.
The narrowed ranges keep out overlong forms, surrogates and everything
above U+10FFFF. -/
def Begun.ofByte? (byte : UInt8) : Option Begun :=
  if 0xC2 ≤ byte && byte ≤ 0xDF then some ⟨1, 0x80, 0xBF, byte.toNat - 0xC0⟩
  else if byte == 0xE0 then some ⟨2, 0xA0, 0xBF, 0⟩
  else if byte == 0xED then some ⟨2, 0x80, 0x9F, 0xD⟩
  else if 0xE1 ≤ byte && byte ≤ 0xEF then some ⟨2, 0x80, 0xBF, byte.toNat - 0xE0⟩
  else if byte == 0xF0 then some ⟨3, 0x90, 0xBF, 0⟩
  else if byte == 0xF4 then some ⟨3, 0x80, 0x8F, 4⟩
  else if 0xF1 ≤ byte && byte ≤ 0xF3 then some ⟨3, 0x80, 0xBF, byte.toNat - 0xF0⟩
  else none

/-- A reading in progress. `text` holds the characters read so far, the
latest first; `sound` is false once a byte had to be replaced. -/
structure Decoder where
  begun : Option Begun := none
  text : List Char := []
  sound : Bool := true
  deriving DecidableEq, Repr

namespace Decoder

/-- The character that stands for bytes that are none. -/
def replacement : Char := '\ufffd'

/-- Adds a character; nothing is begun after it. -/
def emit (c : Char) (d : Decoder) : Decoder :=
  { d with begun := none, text := c :: d.text }

/-- Gives up what was begun. -/
def replace (d : Decoder) : Decoder :=
  { begun := none, text := replacement :: d.text, sound := false }

/-- Reads a byte where a character has to begin. -/
def first (d : Decoder) (byte : UInt8) : Decoder :=
  if byte < 0x80 then d.emit (Char.ofNat byte.toNat)
  else match Begun.ofByte? byte with
    | some b => { d with begun := some b }
    | none => d.replace

/-- Reads one byte. A byte that cannot continue what was begun ends it
and is read again as a first byte. -/
def step (d : Decoder) (byte : UInt8) : Decoder :=
  match d.begun with
  | none => d.first byte
  | some b =>
    if b.low ≤ byte && byte ≤ b.high then
      let bits := b.bits * 64 + (byte.toNat - 0x80)
      if b.needs ≤ 1 then d.emit (Char.ofNat bits)
      else { d with begun := some ⟨b.needs - 1, 0x80, 0xBF, bits⟩ }
    else d.replace.first byte

/-- The end of the bytes: what is still begun will not be finished. -/
def finish (d : Decoder) : Decoder :=
  if d.begun.isSome then d.replace else d

/-- Reads bytes to their end. -/
def run (bytes : Bytes) : Decoder :=
  (bytes.foldl step {}).finish

end Decoder

-- ============================================================== readings

/-- The text of any bytes, with U+FFFD for what is not UTF-8. -/
def lossy (bytes : Bytes) : String :=
  String.ofList (Decoder.run bytes).text.reverse

/-- The text of bytes that are UTF-8. -/
def decode? (bytes : Bytes) : Option String :=
  let d := Decoder.run bytes
  if d.sound then some (String.ofList d.text.reverse) else none

end Utf8
end LineShell
