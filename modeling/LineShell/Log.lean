/-
The log: what the interpreter notes about its own work, beside what it
prints. A note is a value; `LogEntry.text` writes it as one line with its
level, the part of the interpreter it comes from, and its fields.
-/
import LineShell.Fault
import LineShell.Program

namespace LineShell

/-- A note. -/
inductive LogEntry
  /-- A line was split into so many words. -/
  | split (count : Nat)
  | runningBuiltin (command : String)
  | launching (command : String)
  | endOfInput
  | exitRequested
  /-- The session ends with a fatal error. -/
  | stopped (error : Fault)
  /-- A program was found and is about to be started. -/
  | spawning (command : String) (path : Path)
  | ended (command : String) (ending : Ending)
  /-- An error is reported and the session goes on. -/
  | failed (error : Fault)
  /-- A prompt could not be shown. -/
  | promptLost (error : SystemError)
  deriving DecidableEq, Repr

/-- A note as a line of the log. -/
def LogEntry.text : LogEntry → String
  | .split count => "TRACE lsh::tokenizer: split line count=" ++ toString count
  | .runningBuiltin command =>
    "DEBUG lsh::interpreter: running builtin command=" ++ command
  | .launching command =>
    "DEBUG lsh::interpreter: launching external command command=" ++ command
  | .endOfInput => "DEBUG lsh::interpreter: end of input"
  | .exitRequested => "DEBUG lsh::interpreter: exit requested"
  | .stopped error =>
    "ERROR lsh::interpreter: interpreter stopped error=" ++ error.message
  | .spawning command path =>
    "DEBUG lsh::external: spawning command=" ++ command ++ " path=" ++ path.display
  | .ended command ending =>
    "DEBUG lsh::external: child terminated command=" ++ command
      ++ " disposition=" ++ toString ending.number
  | .failed error => "WARN lsh::command: command failed error=" ++ error.message
  | .promptLost error =>
    "WARN lsh::io_adapters: failed to write prompt error=" ++ error.message

end LineShell
