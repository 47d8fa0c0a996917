/-
The commands that the interpreter runs itself. Each is an entry of one
list (`Builtin.all`) with a name, a summary for `help`, and what it
does to a session; a name is that of a builtin if it agrees letter for
letter.

`cd`, `help` and `pwd` have their arguments read against a form, and
answer a request for help with their usage. `exit` and `echo` do not:
`exit` ignores what follows it, and `echo` knows `-n` as its first
argument only and prints every other word as it is.
-/
import LineShell.Library.Arguments
import LineShell.Session
import LineShell.Text.Blank

namespace LineShell

/-- A command that the interpreter runs itself. It is given all the words
of the line, its own name first. -/
structure Builtin where
  name : String
  summary : String
  run : List String → Session → Verdict × Session

namespace Builtin

/-- The end of a line, as a piece of output. -/
def lineEnd : Bytes := [Outlet.newline]

-- ================================================== commands with a form

/-- Runs `act` on the arguments, if they fill the form; else prints the
usage or says what is wrong. Both texts lose the white space at their end
and are one line end longer. -/
def withForm (form : ArgumentForm) (name : String)
    (act : Arguments → Session → Verdict × Session)
    (words : List String) (s : Session) : Verdict × Session :=
  match form.read (words.drop 1) with
  | .given arguments => act arguments s
  | .helpRequested => s.print [Bytes.ofText (Text.trimEnd (form.usage name)), lineEnd]
  | .refused message =>
    (.goOnAfterFault, { s with console := s.console.complain [Text.trimEnd message] })

-- ===================================================================== cd

/-- The form of `cd`. -/
def cdForm : ArgumentForm where
  arity := .one
  synopsis := " [--] [<target>]"
  summary := "Change the current working directory."
  positionalRows :=
    [⟨"target", "directory to switch to; absolute or relative to the current directory."⟩]

/-- The directory that `cd` changes to for a target: its canonical path,
and that directory entered. Nothing has changed yet. -/
def cdGoal (target : Path) (s : Session) : Except SystemError (Path × WorkingDirectory) := do
  let files := s.machine.files
  let dir := s.machine.workingDirectory
  let location ← files.canonical dir (s.environment.directory.join target)
  let entered ← files.enter dir location.path
  return (location.path, entered)

/-- Changes the working directory, of the process and of the interpreter
at once. -/
def cd (arguments : Arguments) (s : Session) : Verdict × Session :=
  match arguments.words.head? with
  | none | some "" => s.report (.argumentMissing "cd")
  | some word =>
    let target := Bytes.ofText word
    match cdGoal target s with
    | .error cause => s.report (.notEntered target cause)
    | .ok (path, entered) =>
      (.goOn,
        { s with
          machine := { s.machine with workingDirectory := entered }
          environment := { s.environment with directory := path } })

-- ==================================================================== pwd

/-- The form of `pwd`. -/
def pwdForm : ArgumentForm where
  summary := "Print the current working directory to standard output."

/-- Prints the working directory. -/
def pwd (_ : Arguments) (s : Session) : Verdict × Session :=
  s.print [Bytes.ofText s.environment.directory.display, lineEnd]

-- ================================================================== help

/-- The form of `help`. -/
def helpForm : ArgumentForm where
  arity := .many
  synopsis := " [topics...]"
  summary := "Show the builtin commands."

/-- The width of the column that names stand in. -/
def nameColumn : Nat := 8

/-- A row of the summary that `help` prints, in pieces. Each blank behind
the name is one. -/
def summaryRow (entry : String × String) : List String :=
  "  " :: entry.1 :: (List.replicate (nameColumn - entry.1.length) " " ++ [entry.2, "\n"])

/-- What `help` prints about builtins, given by name and summary, in
pieces. A line that is always the same is one. -/
def summaryPieces (entries : List (String × String)) : List String :=
  ["lsh: a minimal command interpreter\n",
    "Type a program name and its arguments, then hit enter.\n",
    "The following commands are built in:\n"]
  ++ entries.flatMap summaryRow
  ++ ["Anything else is looked up in PATH and run as a separate program.\n"]

-- ================================================================== echo

/-- The words that `echo` prints, and whether it ends the line. -/
def echoWords : List String → List String × Bool
  | "-n" :: words => (words, false)
  | words => (words, true)

/-- Prints words separated by single spaces. -/
def echo (words : List String) (s : Session) : Verdict × Session :=
  let (words, ended) := echoWords (words.drop 1)
  let text := Bytes.ofText (" ".intercalate words)
  s.print (if ended then [text, lineEnd] else [text])

-- ============================================================== the table

/-- The names and summaries of the builtins, in the order of `all`. -/
def summaries : List (String × String) :=
  [("cd", "change the working directory"),
    ("exit", "leave the interpreter"),
    ("help", "show this summary"),
    ("pwd", "print the working directory"),
    ("echo", "print the arguments separated by spaces")]

/-- Prints what builtins there are. -/
def help (_ : Arguments) (s : Session) : Verdict × Session :=
  s.print ((summaryPieces summaries).map Bytes.ofText)

/-- Every builtin. -/
def all : List Builtin :=
  [⟨"cd", "change the working directory", withForm cdForm "cd" cd⟩,
    ⟨"exit", "leave the interpreter", fun _ s => (.leave, s)⟩,
    ⟨"help", "show this summary", withForm helpForm "help" help⟩,
    ⟨"pwd", "print the working directory", withForm pwdForm "pwd" pwd⟩,
    ⟨"echo", "print the arguments separated by spaces", echo⟩]

/-- `help` speaks of all builtins and of nothing else. -/
theorem summaries_eq : summaries = all.map fun b => (b.name, b.summary) := rfl

/-- The builtin of a name. -/
def named? (name : String) : Option Builtin :=
  all.find? (·.name == name)

end Builtin

/-- What the first word of a line refers to. -/
inductive Command
  | builtin (b : Builtin)
  | program

/-- Builtins come first: a program with the name of one is reached by a
path only. -/
def Command.ofName (name : String) : Command :=
  match Builtin.named? name with
  | some b => .builtin b
  | none => .program

end LineShell
