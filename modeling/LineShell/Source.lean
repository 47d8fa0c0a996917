/-
Where lines come from. Showing the prompt belongs to reading, since
sources differ in how they show it: a stream writes it, an editor makes
it part of the line on the screen. After that a source gives a line, an
error, or the end of the input.

A source is exhausted in finitely many readings: each that gives a line
or an error leaves it smaller. Nothing is asked of a source after the
end of its input.
-/
import LineShell.Console

namespace LineShell

/-- What a reading gives. -/
inductive Reading
  | line (text : String)
  | failed (error : Fault)
  | finished
  deriving DecidableEq, Repr

/-- A source of lines. -/
class Source (σ : Type) where
  /-- Shows a prompt and reads. The console is there for sources that
  show their prompts on it, and for what they note. -/
  read : String → σ → Console → Reading × σ × Console
  /-- What is left to read. -/
  size : σ → Nat
  size_lt : ∀ (prompt : String) (source : σ) (console : Console),
    (read prompt source console).1 ≠ .finished →
      size (read prompt source console).2.1 < size source

end LineShell
