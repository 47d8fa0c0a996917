/-
What can go wrong while a line is read, split or run. Each constructor
is a cause; the wording is in `Fault.pieces` alone. An error is written
in pieces, and a text that was put in for a word of the wording is a
piece of its own.

Three causes are fatal: there is no memory for the line, the input
failed, or the line editor failed. They end a session. Every other error
is a failure of one command, is reported, and the session goes on.
-/
import LineShell.SystemError
import LineShell.Text.Utf8

namespace LineShell

/-- How a line editor fails. -/
inductive EditorFault
  | endOfInput
  | interrupted
  /-- A backspace would cut a character apart. -/
  | brokenCharacter
  | system (error : SystemError)
  deriving DecidableEq, Repr

/-- The text of a failure of the line editor, in pieces. -/
def EditorFault.pieces : EditorFault → List String
  | .endOfInput => ["EOF"]
  | .interrupted => ["Interrupted"]
  | .brokenCharacter => ["a character is cut apart"]
  | .system error => error.pieces

/-- Why a command, or the reading of a line, failed. -/
inductive Fault
  /-- There is no memory for a line or its words. -/
  | noMemory
  /-- A builtin was not given the word that it works on. -/
  | argumentMissing (command : String)
  /-- `cd` could not change to a directory. -/
  | notEntered (path : Bytes) (cause : SystemError)
  /-- A program was not found, or the system refused to run it. -/
  | notRun (command : String) (reason : String)
  /-- The system could not create a process for a program. -/
  | notStarted (command : String) (cause : SystemError)
  /-- The input failed. -/
  | inputFailed (cause : SystemError)
  /-- A write to the output, or flushing it, failed. -/
  | outputFailed (cause : SystemError)
  /-- The line editor failed. -/
  | editorFailed (cause : EditorFault)
  deriving DecidableEq, Repr

namespace Fault

/-- No program has the name of the command. -/
def unknownCommand (command : String) : Fault :=
  .notRun command "command not found"

/-- The text of an error, in the pieces that it is written in. -/
def pieces : Fault → List String
  | .noMemory => ["allocation error"]
  | .argumentMissing command => [command, ": expected argument"]
  | .notEntered path cause => "cd: " :: Utf8.lossy path :: ": " :: cause.pieces
  | .notRun command reason => [command, ": ", reason]
  | .notStarted command cause => command :: ": failed to spawn: " :: cause.pieces
  | .inputFailed cause => "read error: " :: cause.pieces
  | .outputFailed cause => "write error: " :: cause.pieces
  | .editorFailed cause => "line editor error: " :: cause.pieces

/-- The text of an error, as it is reported. -/
def message (e : Fault) : String :=
  String.join e.pieces

theorem message_notEntered (path : Bytes) (cause : SystemError) :
    (notEntered path cause).message = "cd: " ++ Utf8.lossy path ++ ": " ++ cause.message := by
  simp [message, SystemError.message, pieces, String.join_cons, String.append_assoc]

theorem message_notRun (command reason : String) :
    (notRun command reason).message = command ++ ": " ++ reason := by
  simp [message, pieces, String.join_cons, String.append_assoc]

theorem message_notStarted (command : String) (cause : SystemError) :
    (notStarted command cause).message = command ++ ": failed to spawn: " ++ cause.message := by
  simp [message, SystemError.message, pieces, String.join_cons, String.append_assoc]

theorem message_inputFailed (cause : SystemError) :
    (inputFailed cause).message = "read error: " ++ cause.message :=
  String.join_cons

theorem message_outputFailed (cause : SystemError) :
    (outputFailed cause).message = "write error: " ++ cause.message :=
  String.join_cons

/-- Whether an error ends the session. -/
def endsSession : Fault → Bool
  | .noMemory | .inputFailed _ | .editorFailed _ => true
  | _ => false

/-- The text of the error that an error wraps, if it wraps one. -/
def cause? : Fault → Option String
  | .notEntered _ cause | .notStarted _ cause | .inputFailed cause | .outputFailed cause =>
    some cause.message
  | .editorFailed cause => some (String.join cause.pieces)
  | _ => none

end Fault
end LineShell
