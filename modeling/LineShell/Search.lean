/-
From the name of a command to the file to run.

A bare name is looked for in each entry of the search path in turn, and
the first candidate that may be run is taken. Any other name stands for
itself if something of that name exists: an attempt to run it will show
whether that is a program.

What is bare is decided on components, so `tool/` is bare and is looked
for, though it has a slash in it.
-/
import LineShell.FileTree.Resolve

namespace LineShell

/-- A program that was found. -/
inductive Found
  /-- The name itself, as it was given. -/
  | asGiven (name : Path)
  /-- A name joined to an entry of the search path. -/
  | inEntry (path : Path)
  deriving DecidableEq, Repr

/-- The path of a program that was found. -/
def Found.path : Found → Path
  | .asGiven name => name
  | .inEntry path => path

/-- The candidates for a bare name, in order. An empty entry is the
working directory. -/
def candidates (search : Bytes) (bare : Bytes) : List Path :=
  (Path.entries search).map fun entry => entry.join bare

/-- The file to run for a name. -/
def findProgram? (t : FileTree) (d : WorkingDirectory) (search : Bytes) (name : Path) :
    Option Found :=
  if name.isEmpty then none
  else match name.bareName? with
    | some bare => ((candidates search bare).find? (t.isProgram d)).map .inEntry
    | none => if t.has d name then some (.asGiven name) else none

end LineShell
