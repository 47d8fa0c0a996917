/-
The processes of a shell: copies of it that run part of a script, jobs in
the background, and how a shell ends.

What there is to run is a task (`Task`), and how tasks are run is given
as an argument (`Evaluator`), so that each form of command can be
described without the others.
-/
import LineShell.Testbed.Activity
import LineShell.Testbed.Script.Signal

namespace LineShell.Script

open Host (Course Departure Process Program System)

/-- How a command is run. -/
structure Mode where
  /-- Whether the shell ends with the command. -/
  exits : Bool := false
  /-- Whether the status is tested, so that failing is no reason to end. -/
  tested : Bool := false
  deriving DecidableEq, Repr

/-- Something to run. -/
inductive Task
  | command (c : Command) (m : Mode)
  /-- A text of commands. -/
  | text (script : Bytes) (m : Mode)
  /-- The commands of the input that is read first. -/
  | input
  /-- A program, in place of the shell. -/
  | program (p : Program)

/-- A way to run tasks; gives the status. -/
abbrev Evaluator := Task → Act Nat

-- ================================================================= endings

/-- The status of a process that ended. -/
def statusOf : Ending → Nat
  | .exited code => code % 256
  | .killed signal => 128 + signal

/-- Says that a process was ended by a signal, unless by one of the two
that nothing is said of. -/
def announceEnding (ending : Ending) : Act Unit := do
  if let .killed signal := ending then
    if signal != 2 && signal != 13 then
      let _ ← write 2 (lit (Signal.textOf signal) ++ [10])

/-- Runs the command for the end of the shell, if there is one. -/
def runExitTrap (e : Evaluator) : Act Unit := do
  let status ← look (·.status)
  change ({ · with settled := some status })
  if let some action ← look (·.traps.lookup 0) then
    change fun sh => { sh with traps := sh.traps.filter (·.1 != 0), skip := none }
    let result ← try (Except.ok <$> e (.text action {})) catch abort => pure (.error abort)
    match result with
    | .ok _ => setStatus ((← look (·.settled)).getD status)
    | .error .exited => setStatus ((← look (·.settled)).getD status)
    | .error (.over ending) => throw (.over ending)
    | .error _ => pure ()
  change ({ · with settled := none })

/-- Ends the shell after what it ran: the command for the end of the shell
runs, then the processes that are left have a turn. -/
def conclude (e : Evaluator) (result : Except Abort Nat) : Act Ending := do
  let ending ← match result with
    | .error (.over ending) => pure ending
    | result => do
      if let .error .exited := result then
        if let some status ← look (·.settled) then setStatus status
      change ({ · with settled := none })
      let ended ← try (do runExitTrap e; pure none) catch
        | .over ending => pure (some ending)
        | _ => pure none
      match ended with
      | some ending => pure ending
      | none => pure (.exited ((← look (·.status)) % 256))
  let _ ← giveTurns
  return ending

/-- Runs something as all that the shell does. -/
def runToEnd (e : Evaluator) (act : Act Nat) : Act Ending := do
  let result ← try (do receiveSignals; Except.ok <$> act) catch abort => pure (.error abort)
  conclude e result

/-- The course of a process that begins as a shell. -/
def courseOf (start : Shell) (act : Act Ending) (system : System) : Course Departure := do
  let start := { start with process := { start.process with system } }
  let (result, w) ← act.run.run { shell := start }
  return {
    system := w.shell.process.leave
    ending := match result with
      | .ok ending | .error (.over ending) => ending
      | .error _ => .exited 0
    orphans := w.children.map (·.resume) }

-- =================================================================== copies

/-- The shell as a copy of it begins. -/
def Shell.copy (sh : Shell) : Shell :=
  { sh with
    process := sh.process.fork
    traps := sh.traps.filter (·.2.isEmpty)
    caught := []
    loops := 0
    skip := none
    printed := []
    settled := none }

/-- Starts a process that runs something in a copy of the shell; gives its
number. -/
def startChild (e : Evaluator) (prepare : Shell → Shell) (act : Act Nat) : Act Nat := do
  let start := prepare (← look Shell.copy)
  let number := start.process.number
  takeOver start.process.system
  let child : Child := ⟨some number, courseOf start (runToEnd e act)⟩
  modify fun w => { w with children := w.children ++ [child] }
  return number

/-- Waits for a process to end. -/
def waitFor (number : Nat) : Act Ending :=
  awaitUntil do
    let endings := (← get).endings
    match endings.lookup number with
    | none => return none
    | some ending =>
      modify ({ · with endings := endings.filter (·.1 != number) })
      return some ending

/-- Changes the jobs. -/
def changeJobs (f : List Job → List Job) : Act Unit :=
  modify fun w => { w with jobs := f w.jobs }

/-- Changes the job of a number. -/
def changeJob (number : Nat) (f : Job → Job) : Act Unit :=
  changeJobs (·.map fun j => if j.number = number then f j else j)

/-- Notices the jobs that have ended. -/
def noticeJobs : Act Unit :=
  changeJobs (·.map fun j => { j with noticed := j.noticed || j.ending?.isSome })

/-- The place for a new job: the first that is free, or whose job is done;
that job is forgotten. -/
def claimPlace : Act Nat := do
  let jobs := (← get).jobs
  let isFree (place : Nat) : Bool := jobs.all fun j => j.place != place || j.isDone
  let place := ((List.range (jobs.length + 1)).map (· + 1)).find? isFree |>.getD 0
  changeJobs (·.filter (·.place != place))
  return place

/-- Waits for processes that were started to be waited for; gives how they
ended. -/
def waitForAll (numbers : List Nat) : Act (List Ending) := do
  let endings ← numbers.mapM waitFor
  noticeJobs
  receiveSignals
  return endings

/-- Runs something in a copy of the shell and waits for its end. -/
def runCopy (e : Evaluator) (act : Act Nat) : Act Ending := do
  let _ ← claimPlace
  let number ← startChild e id act
  let ending ← waitFor number
  noticeJobs
  receiveSignals
  return ending

-- ==================================================================== pipes

/-- Makes a pipe between processes: its end to read from, and the one to
write to. -/
def makePipe : Act (Nat × Nat) :=
  onProcess fun p =>
    let (reader, writer, system) := p.system.makePipe (some Host.Pipe.usualCapacity)
    ((reader, writer), { p with system })

/-- The shell with a descriptor that refers to an open file. -/
def Shell.redirect (fd : Nat) (index : Nat) (sh : Shell) : Shell :=
  { sh with process := sh.process.redirect fd (some index) }

/-- Starts processes that are joined by pipes, from the left, each
prepared in a way of its own; gives their numbers. -/
def startPipeline (e : Evaluator) (prepare : (isFirst : Bool) → Shell → Shell)
    (acts : List (Act Nat)) : Act (List Nat) := do
  let count := acts.length
  let (numbers, _) ← acts.zipIdx.foldlM (fun (numbers, input?) (act, i) => do
    let pipe? : Option (Nat × Nat) ← if i + 1 < count then some <$> makePipe else pure none
    let join (sh : Shell) : Shell :=
      let sh := prepare (i = 0) sh
      let sh := match input? with
        | some reader => sh.redirect 0 reader
        | none => sh
      match pipe? with
      | some (_, writer) => sh.redirect 1 writer
      | none => sh
    let number ← startChild e join act
    return (numbers ++ [number], pipe?.map (·.1))) (([] : List Nat), (none : Option Nat))
  return numbers

-- ===================================================================== jobs

/-- The signals that reach no job in the background: those of the keys
that interrupt what is in the foreground. -/
def keySignals : List Nat := [2, 3]

/-- The shell as a process in the background begins. The first of a job
finds its input at its end. -/
def Shell.inBackground (void : Nat) (isFirst : Bool) (sh : Shell) : Shell :=
  let process := { sh.process with ignored := keySignals ++ sh.process.ignored }
  let sh := { sh with process, barred := keySignals ++ sh.barred }
  if isFirst then sh.redirect 0 void else sh

/-- Leaves processes that are joined by pipes to a job in the background. -/
def startJob (e : Evaluator) (acts : List (Act Nat)) : Act Unit := do
  let place ← claimPlace
  let void ← onProcess fun p =>
    let (void, system) := p.system.enter { medium := .void, access := { reads := true } }
    (void, { p with system })
  let numbers ← startPipeline e (Shell.inBackground void) acts
  let job : Job := { place, numbers }
  changeJobs (· ++ [job])
  change ({ · with lastJob := job.number })

-- ================================================================ substitution

/-- Reads an open file to its end. -/
def readToEnd (index : Nat) : Act Bytes :=
  repeatFrom ([] : List Bytes) fun blocks => do
    match ← readFile index Process.blockSize with
    | .ok (b :: bytes) => return .inl ((b :: bytes) :: blocks)
    | _ => return .inr blocks.reverse.flatten

/-- The output of commands, with their status kept. -/
def substitute (e : Evaluator) (body : Option Command) : Act Bytes := do
  match body with
  | none => return []
  | some c =>
    let (reader, writer) ← makePipe
    let fd ← onProcess (Process.keep reader)
    let forget (fd : Nat) (sh : Shell) : Shell :=
      { sh with process := sh.process.redirect fd none }
    let _ ← claimPlace
    let number ← startChild e (fun sh => (forget fd sh).redirect 1 writer)
      (e (.command c { exits := true }))
    let output ← readToEnd reader
    change (forget fd)
    let ending ← waitFor number
    noticeJobs
    receiveSignals
    change ({ · with innerStatus := statusOf ending })
    announceEnding ending
    return output

-- ================================================================== programs

/-- The errors of a file that is missing, among them those of its path. -/
def isMissing (e : SystemError) : Bool :=
  e = .noEntry || e = .notDirectory

/-- What is said of an error of a command that was to be run. -/
def commandError (e : SystemError) : Bytes :=
  if isMissing e then lit "not found" else lit e.reason

/-- The paths at which a command is looked for. -/
def commandPaths (search name : Bytes) : List Path :=
  (Path.entries search).map (Path.behind · name)

/-- How many bytes of a file show whether it is a script. -/
def sampleSize : Nat := 128

/-- Whether a byte is in no script: a control character that neither
moves to another place nor changes the set of characters. -/
def isForeign (b : UInt8) : Bool :=
  b ≤ 8 || (16 ≤ b && b ≤ 31 && b != 27) || b == 127

/-- Whether a file is no script, by its first line. -/
def looksForeign (contents : Bytes) : Bool :=
  ((contents.take sampleSize).takeWhile (· != 10)).any isForeign

/-- What runs for a command at a path; a file of no known format is a
script, if it looks like one. -/
def loadCommand (p : Process) (path : Path) (name : Bytes) (arguments : List Bytes) :
    Except SystemError Program :=
  let shell := lit "/bin/sh"
  let isScript := match p.setting.inspect path with
    | .ok (.text contents) => !looksForeign contents
    | _ => false
  match p.setting.executeFile path name arguments with
  | .error e =>
    if e = .unknownFormat && isScript then
      p.setting.executeFile shell shell (path :: arguments)
    else .error e
  | loaded => loaded

/-- What runs for a command that may be at several paths, or the error of
the last that was not missing. -/
def loadFirst (p : Process) (name : Bytes) (arguments : List Bytes) (error : SystemError) :
    List Path → Except SystemError Program
  | [] => .error error
  | path :: paths =>
    match loadCommand p path name arguments with
    | .ok program => .ok program
    | .error e => loadFirst p name arguments (if isMissing e then error else e) paths

/-- Runs a command in place of the shell. It is looked for along a search
path, from an entry on. -/
def become (e : Evaluator) (name : Bytes) (arguments : List Bytes) (search : Bytes)
    (first : Nat) : Act Nat := do
  change fun sh => { sh with process := { sh.process with vars := sh.environment } }
  let p ← look (·.process)
  let loaded :=
    if name.contains Path.slash then loadCommand p name name arguments
    else loadFirst p name arguments .noEntry ((commandPaths search name).drop first)
  match loaded with
  | .ok program =>
    onProcess fun p => ((), p.dropKept)
    e (.program program)
  | .error error =>
    let missing := isMissing error || error = .tooManyLinks || error = .nameTooLong
    setStatus (if missing then 127 else 126)
    warn (name ++ lit ": " ++ commandError error)
    throw .ended

end LineShell.Script
