/-
Starting programs. The name is looked for along the search path of the
session, one request is made for what was found, and the session waits
for the program to end.

How a program ends is noted in the log, and the session makes no more of
it: a program that could be started is a success. Faults of
the program itself, that it is missing or may not be run or has no known
format, are told apart from a system that cannot create a process.
-/
import LineShell.Search
import LineShell.Session

namespace LineShell

/-- The error of a request that failed. -/
def Fault.ofRequest (command : String) (cause : SystemError) : Fault :=
  let faultOfProgram := cause.kind? == some .notFound
    || cause.kind? == some .permissionDenied || cause == .unknownFormat
  if faultOfProgram then .notRun command cause.message else .notStarted command cause

namespace Session

/-- The search path of a session. -/
def searchPath (s : Session) : Bytes :=
  Bytes.ofText ((s.environment.value? s.machine "PATH").getD "")

/-- The file to run for a command. -/
def find? (s : Session) (command : String) : Option Found :=
  findProgram? s.machine.files s.machine.workingDirectory s.searchPath
    (Bytes.ofText command)

/-- The request for a program with arguments. -/
def requestFor (s : Session) (program : Path) (arguments : List String) :
    ProgramRequest where
  program
  arguments
  directory := s.environment.directory
  inherited := s.machine.vars
  own := s.environment.vars

/-- What a program would find if it were started now. -/
def scene (s : Session) : Scene where
  files := s.machine.files
  directory := s.machine.workingDirectory
  streams := s.console.streams

/-- Makes a request: it is kept, and the output is marked as handed on. -/
def request (r : ProgramRequest) (s : Session) : Session :=
  { s with
    machine := { s.machine with requests := r :: s.machine.requests }
    console := { s.console with out := s.console.out.lend } }

/-- The session after a program has run in it. -/
def after (ran : Ran) (s : Session) : Session :=
  { s with
    machine := { s.machine with files := ran.files }
    console := s.console.withStreams ran.streams }

/-- Runs the program that the first word names, with the other words as
its arguments, and waits for it to end. -/
def runProgram (spawn : Spawner) (words : List String) (s : Session) : Verdict × Session :=
  match words with
  | [] => (.goOn, s)
  | command :: arguments =>
    match s.find? command with
    | none => s.report (.unknownCommand command)
    | some found =>
      let s := s.note (.spawning command found.path)
      let r := s.requestFor found.path arguments
      let s := s.request r
      match spawn r s.scene with
      | .error cause => s.report (.ofRequest command cause)
      | .ok ran => (.goOn, (s.after ran).note (.ended command ran.ending))

end Session
end LineShell
