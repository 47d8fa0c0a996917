/-
The line editor. It is no part of the interpreter, which asks it for
lines and gives it those that are to go into the history. What is taken
of it is this.

* Keys: on a terminal each line is a row of keys: characters, a
  backspace, the key that recalls the entry before, and a key that ends
  the line: Enter, Ctrl-C, which gives an empty line instead, or Ctrl-D on
  an empty line, which is the end of the input.
* Plain lines: when the input is not a terminal the lines of it are taken
  as they are, except that a backspace in a line takes away the character
  before it; a line that is not UTF-8 is an error, and is used up.
* Lengths: that backspace goes by lengths, and a length is kept in one
  byte. Of a user-perceived character of 256 bytes or more it takes away
  a part, and where that would cut a code point apart the editor fails.
* History: the last hundred of the lines that it was given are kept, of
  equal ones in a row only one.
-/
import LineShell.Source.StandardInput
import LineShell.Text.Cluster

namespace LineShell.Editor

-- ============================================================ the history

/-- Lines that were entered, the latest first. -/
abbrev History := List String

/-- How many lines are remembered. -/
def History.limit : Nat := 100

/-- Adds a line to the history. -/
def History.add (line : String) (h : History) : History :=
  if h.head? == some line then h else (line :: h).take limit

-- ==================================================== lines without a terminal

/-- The number of lengths that are told apart. -/
def lengthModulus : Nat := 256

/-- How many bytes a backspace takes away for a user-perceived character. -/
def keptLength (cluster : List Char) : Nat :=
  (cluster.map Char.utf8Size).foldl (· + ·) 0 % lengthModulus

/-- A text, backwards, without so many bytes at its end, unless that cuts
a code point apart. -/
def dropBytes? : Nat → List Char → Option (List Char)
  | 0, text => some text
  | _ + 1, [] => some []
  | n + 1, c :: text => if c.utf8Size ≤ n + 1 then dropBytes? (n + 1 - c.utf8Size) text else none

/-- A line that is being copied, backwards, with the lengths of its
user-perceived characters. -/
structure Copying where
  line : List Char := []
  lengths : List Nat := []
  deriving DecidableEq, Repr

/-- Copies a user-perceived character, or lets a backspace work. -/
def Copying.step? (c : Copying) (cluster : List Char) : Option Copying :=
  if cluster == ['\x08'] then
    match c.lengths with
    | [] => some c
    | n :: lengths => (dropBytes? n c.line).map (⟨·, lengths⟩)
  else some ⟨cluster.reverse ++ c.line, keptLength cluster :: c.lengths⟩

/-- What remains of a line after its backspaces. -/
def applyBackspaces? (line : String) : Option String :=
  ((Text.clusters line.toList).foldlM Copying.step? {}).map fun c =>
    String.ofList c.line.reverse

/-- What a reading gives for a piece of the input. -/
def ofPiece : Piece → Reading
  | .failed cause => .failed (.editorFailed (.system cause))
  | .unterminated [] => .finished
  | .unterminated contents => ofBytes contents
  | .terminated contents => ofBytes (Piece.dropReturn contents)
where
  /-- The line that some bytes are. -/
  ofBytes (contents : Bytes) : Reading :=
    match Utf8.decode? contents with
    | none => .failed (.editorFailed (.system .notUtf8))
    | some line => match applyBackspaces? line with
      | some line => .line line
      | none => .failed (.editorFailed .brokenCharacter)

-- ========================================================= lines on a terminal

/-- A line being edited: its characters, and how many entries of the
history it has been replaced by, going back. -/
structure Draft where
  line : List Char := []
  recalled : Nat := 0
  deriving DecidableEq, Repr

/-- What keys make of a draft. -/
def typed (history : History) (d : Draft) : List Char → Reading
  | [] => .line (String.ofList d.line)
  | '\r' :: _ | '\n' :: _ => .line (String.ofList d.line)
  | '\x03' :: _ => .line ""
  | '\x04' :: keys => if d.line.isEmpty then .finished else typed history d keys
  | '\x7f' :: keys | '\x08' :: keys =>
    typed history { d with line := Text.dropLastCluster d.line } keys
  | '\x1b' :: '[' :: 'A' :: keys =>
    match history[d.recalled]? with
    | some entry => typed history ⟨entry.toList, d.recalled + 1⟩ keys
    | none => typed history d keys
  | key :: keys =>
    typed history (if isControl key then d else { d with line := d.line ++ [key] }) keys
where
  /-- A control character that is no key does nothing. -/
  isControl (c : Char) : Bool :=
    c.toNat < 0x20 || (0x7F ≤ c.toNat && c.toNat ≤ 0x9F)

end LineShell.Editor
