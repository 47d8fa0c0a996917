/-
Programs, seen from outside: what is asked for when one is started, what
it finds, and what it leaves behind.

A `Spawner` is any answer to such requests. It says whether a program
could be started at all, and if so how it ended, what the file tree and
the streams are like after it. That a program cannot change the
directory or the variables of the process that started it is not a law
about spawners; there is nowhere in `Ran` to put such a change. Likewise
an attempt that fails changes nothing.
-/
import LineShell.Channel
import LineShell.FileTree
import LineShell.Variables

namespace LineShell

/-- A request to start a program. -/
structure ProgramRequest where
  program : Path
  /-- The arguments after the program's own name. -/
  arguments : List String
  /-- The directory to start in. -/
  directory : Path
  /-- The variables of the process that asks. -/
  inherited : ProcessVariables
  /-- The variables laid over them. -/
  own : Variables
  deriving DecidableEq, Repr

/-- The variables that the program is to see. -/
def ProgramRequest.vars (r : ProgramRequest) : ProcessVariables :=
  r.inherited.overlay r.own

/-- How a program ended. -/
inductive Ending
  | exited (code : Nat)
  | killed (signal : Nat)
  deriving DecidableEq, Repr

/-- One number for how a program ended: its exit code, or the number of
the signal that killed it above 128. -/
def Ending.number : Ending → Nat
  | .exited code => code
  | .killed signal => 128 + signal

/-- The standard streams of a program: what its input still holds, and
where its output and its diagnostics go. -/
structure Streams where
  input : Feed := {}
  output : Channel := {}
  errors : Channel := {}
  deriving DecidableEq, Repr

/-- What a program finds when it starts. -/
structure Scene where
  files : FileTree
  /-- The directory of the process that starts it. -/
  directory : WorkingDirectory
  streams : Streams
  deriving DecidableEq, Repr

/-- What a program leaves behind. -/
structure Ran where
  files : FileTree
  streams : Streams
  ending : Ending
  deriving DecidableEq, Repr

/-- An answer to requests for programs. -/
abbrev Spawner := ProgramRequest → Scene → Except SystemError Ran

end LineShell
