/-
The words of a line: what stands between its separators. Quotes and
backslashes are characters like any other, so a word is as long as it can
be without a separator in it.

A line is read from its beginning, by a machine that stands between two
words or in one. It asks for memory before it keeps a character of a word
(as many bytes as the character has) and before it keeps a word (one
place more in the list). What comes of asking is left open (`reserve`, in
a monad of its own), since nothing else can go wrong: with memory that
is never short every line, of any length, has its words (`ofLine`); with
memory that may run short, splitting a line may fail (`splitWithin`).
-/
import LineShell.Fault

namespace LineShell

/-- Memory, as one that asks for it sees it. -/
class Memory (μ : Type) where
  /-- What is left once so much more is held. There is none if it cannot
  be had. -/
  reserve : Nat → μ → Option μ

namespace Words

/-- The characters that stand between words. No word has one in it. -/
def separators : List Char := [' ', '\t', '\r', '\n', '\x07']

/-- Whether a character stands between words. -/
def isSeparator (c : Char) : Bool :=
  separators.contains c

/-- Where the machine stands in a line. -/
inductive Standing
  | between
  | inWord
  deriving DecidableEq, Repr

/-- The machine. -/
structure Splitter where
  standing : Standing := .between
  /-- The characters of the word it stands in, the latest first. -/
  word : List Char := []
  /-- The words that it has read, the latest first. -/
  words : List String := []
  deriving DecidableEq, Repr

section
variable {m : Type → Type} [Monad m] (reserve : Nat → m Unit)

/-- Keeps a character of a word. -/
def Splitter.push (c : Char) (s : Splitter) : m Splitter := do
  reserve c.utf8Size
  return { s with word := c :: s.word }

/-- Keeps the word that has come to its end. -/
def Splitter.finish (s : Splitter) : m Splitter := do
  reserve 1
  return { s with word := [], words := String.ofList s.word.reverse :: s.words }

/-- Reads one character. -/
def Splitter.step (s : Splitter) (c : Char) : m Splitter :=
  match s.standing, isSeparator c with
  | .between, true => return s
  | .between, false => do return { ← s.push reserve c with standing := .inWord }
  | .inWord, true => do return { ← s.finish reserve with standing := .between }
  | .inWord, false => s.push reserve c

/-- The words read, with the line at its end. -/
def Splitter.close (s : Splitter) : m (List String) :=
  match s.standing with
  | .between => return s.words.reverse
  | .inWord => do return (← s.finish reserve).words.reverse

/-- The words of a line, in order. -/
def split (line : String) : m (List String) := do
  let s ← line.toList.foldlM (Splitter.step reserve) {}
  s.close reserve

end

/-- The words of a line, with memory that is never short. -/
def ofLine (line : String) : List String :=
  (split (fun _ => pure ()) line : Id (List String)).run

/-- Asks for memory. It is an error if it cannot be had. -/
def askFor {μ : Type} [Memory μ] (amount : Nat) : StateT μ (Except Fault) Unit :=
  fun memory =>
    match Memory.reserve amount memory with
    | some memory => .ok ((), memory)
    | none => .error .noMemory

/-- The words of a line, with memory that may run short. -/
def splitWithin {μ : Type} [Memory μ] (line : String) :
    StateT μ (Except Fault) (List String) :=
  split askFor line

end Words
end LineShell
