/-
How one line is run. The first of its words names a builtin or a program.
Before a program is run the output is flushed, so that whatever has been
printed comes out before what the program prints; if flushing fails the
program is not run.
-/
import LineShell.Builtin
import LineShell.Launching
import LineShell.Words

namespace LineShell.Session

/-- Runs the words of a line: a builtin if the first word names one, else
a program. -/
def runWords (spawn : Spawner) (words : List String) (s : Session) : Verdict × Session :=
  match words with
  | [] => (.goOn, s)
  | name :: _ =>
    match Command.ofName name with
    | .builtin b => b.run words (s.note (.runningBuiltin name))
    | .program =>
      let (error, console) := s.console.flush
      let s := { s with console }
      match error with
      | some cause => s.report (.outputFailed cause)
      | none => (s.note (.launching name)).runProgram spawn words

/-- The words of a line; that it was split is noted. -/
def split (line : String) (s : Session) : List String × Session :=
  let words := Words.ofLine line
  (words, s.note (.split words.length))

/-- Splits a line and runs its words. A blank line does nothing. -/
def runLine (spawn : Spawner) (line : String) (s : Session) : Verdict × Session :=
  let (words, s) := s.split line
  s.runWords spawn words

end LineShell.Session
