/-
The interpreter as a program: from its arguments and its standard input
to its exit code and what it writes on its standard streams.

The output is written line by line, to the same stream as the prompts and
the output of programs. The input is shared with programs as well.

Commands that fail do not show in the exit code. It is 0 unless the
arguments are in error or the session ends with a fatal error, whose text
is then written with its causes.
-/
import LineShell.Library.LogFilter
import LineShell.Library.Report
import LineShell.Loop
import LineShell.Options
import LineShell.Source.StandardInput

namespace LineShell.CommandLine

/-- The name the program goes by. -/
def programName : String := "lsh"

/-- What the program is started with. -/
structure Invocation where
  arguments : List Bytes
  /-- What the standard input holds. -/
  input : Feed := {}
  /-- The number of the error that the first reading of the standard input
  fails with, if it does. -/
  failure? : Option Int := none
  /-- Where the standard output and the diagnostics go. -/
  output : Channel := {}
  errors : Channel := {}
  machine : Machine

/-- What the program leaves behind. -/
structure Outcome where
  code : Nat
  output : Channel
  errors : Channel
  /-- What the standard input still holds. -/
  input : Feed

/-- An invocation that ends before a session begins. -/
def Invocation.ended (i : Invocation) (code : Nat) (output errors : String) : Outcome where
  code
  output := (i.output.write (Bytes.ofText output)).2
  errors := (i.errors.write (Bytes.ofText errors)).2
  input := i.input

/-- The session of an invocation, in an environment. -/
def Invocation.session (i : Invocation) (e : Environment) (o : Options) : Session where
  machine := i.machine
  environment := e
  prompt := o.prompt
  console :=
    { out := { channel := i.output, byLine := true }
      err := { channel :=
        (i.errors.write (Bytes.ofText (LogFilter.warningsOf i.machine.vars o.log))).2 }
      input := i.input
      children := .shared }

/-- The lines of an invocation's standard input. A file may grow as it is
read. -/
def Invocation.source (i : Invocation) : Source.Standard where
  input :=
    { left := match i.input.file? with
        | some _ => i.input.rest.length + StandardInput.unbounded
        | none => i.input.rest.length
      failure := i.failure?.map .number }

/-- How the end of a session by an error is told. -/
def stopText (error : Fault) : String :=
  Report.text "interpreter stopped" (error.message :: error.cause?.toList)

/-- The end of the program: what was held back is handed on. -/
def finish (ended : LoopEnd Source.Standard) : Outcome :=
  let console := match ended.result with
    | .ok () => ended.session.console
    | .error error =>
      let console := ended.session.console
      { console with err := (console.err.write (Bytes.ofText (stopText error))).2 }
  { code := match ended.result with
      | .ok () => 0
      | .error _ => 1
    output := console.out.drain.2.channel
    errors := console.err.channel
    input := console.input }

/-- The exit code of a program that gave up because a variable of its
process is not text. -/
def gaveUp : Nat := 101

/-- Runs the program. -/
def run (spawn : Spawner) (i : Invocation) : Outcome :=
  match i.arguments.find? fun word => (Utf8.decode? word).isNone with
  | some word => i.ended 1 "" ("Invalid utf8: " ++ Utf8.lossy word ++ "\n")
  | none =>
    match Options.read [programName] (i.arguments.map Utf8.lossy) with
    | .usage text => i.ended 0 (text ++ "\n") ""
    | .refused message =>
      i.ended 1 "" (message ++ "\nRun " ++ programName ++ " --help for more information.\n")
    | .options options =>
      match Environment.capture? i.machine with
      | none => i.ended gaveUp "" ""
      | some environment =>
        finish ((i.session environment options).converse spawn i.source)

end LineShell.CommandLine
