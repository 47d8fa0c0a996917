/-
A session is all that a command can see or change: the machine, the
interpreter's own view of its environment, and the console. Commands are
functions from sessions to sessions, paired with a verdict on whether to
read another line.
-/
import LineShell.Console
import LineShell.FileTree.Canonical

namespace LineShell

/-- The machine around the interpreter: the files, the directory and the
variables of the interpreter's own process, and the programs that the
process has asked for. -/
structure Machine where
  files : FileTree
  workingDirectory : WorkingDirectory
  vars : ProcessVariables := .empty
  /-- The requests made, the latest first. -/
  requests : List ProgramRequest := []
  deriving DecidableEq, Repr

/-- The interpreter's view of its environment. -/
structure Environment where
  /-- The variables that programs are given; `PATH` among them says where
  programs are looked for. -/
  vars : Variables := .empty
  /-- The directory that relative names are taken against. -/
  directory : Path
  deriving DecidableEq, Repr

namespace Environment

/-- The environment as the process has it now. There is none if a variable
is not text; a working directory that is gone is called `.`. -/
def capture? (m : Machine) : Option Environment :=
  m.vars.asText?.map fun vars =>
    { vars
      directory := (m.files.workingPath? m.workingDirectory).getD Path.here }

/-- The value of a variable: the interpreter's own if it has one, else
that of the process if it is text. -/
def value? (e : Environment) (m : Machine) (name : String) : Option String :=
  match e.vars.lookup name with
  | some value => some value
  | none => (m.vars.find? name).bind Utf8.decode?

end Environment

/-- What a command says to the loop that ran it. A command that fails
has told the user why before it says so. -/
inductive Verdict
  | goOn
  | leave
  /-- The command failed and reported it. -/
  | goOnAfterFault
  deriving DecidableEq, Repr

/-- Whether another line is to be read. -/
def Verdict.goesOn : Verdict → Bool
  | .leave => false
  | _ => true

/-- A session. -/
structure Session where
  machine : Machine
  environment : Environment
  console : Console := {}
  prompt : String := "> "
  deriving DecidableEq, Repr

namespace Session

/-- Takes a note in the log. -/
def note (entry : LogEntry) (s : Session) : Session :=
  { s with console := s.console.note entry }

/-- Reports an error where it happened. -/
def report (error : Fault) (s : Session) : Verdict × Session :=
  (.goOnAfterFault,
    { s with console := (s.console.note (.failed error)).complain ("lsh: " :: error.pieces) })

/-- Prints pieces to the output; a failed write is reported. -/
def print (pieces : List Bytes) (s : Session) : Verdict × Session :=
  let (error, console) := s.console.print pieces
  match error with
  | none => (.goOn, { s with console })
  | some error => { s with console }.report (.outputFailed error)

end Session
end LineShell
