/-
A shell: what a process that runs scripts keeps beside its process.

What a shell does is an action (`Act`) on this state. An action ends with
a value, or it is broken off (`Abort`): by an error, by a command that
ends the shell, or because another program or a signal took its place.
What was done before stays done in either case.

The processes that a shell starts go on beside it (`Child`): each has a
turn whenever the shell has to wait, in the order in which they were
started, and now and then in a long loop. They stand beside the shell and
not in it, since a copy of the shell has none; so do its jobs, which are
the processes that it does not wait for at once (`Job`).
-/
import LineShell.Testbed.Activity
import LineShell.Testbed.Script.Token

namespace LineShell.Script

open Host (Activity Course Departure Process System)

/-- A variable. One without a value is marked but not set. -/
structure Variable where
  value : Option Bytes
  exported : Bool := false
  readOnly : Bool := false
  deriving DecidableEq, Repr

/-- What is passed over, after a command that leaves loops or functions. -/
inductive Skip
  | leaving (loops : Nat)
  | again (loops : Nat)
  | returning
  /-- A return that keeps the status. -/
  | returningAsIs
  deriving DecidableEq, Repr

/-- How an action is broken off. -/
inductive Abort
  /-- By an error. -/
  | failed
  /-- By the user of a shell that asks for its commands. -/
  | interrupted
  /-- The shell is to end. -/
  | ended
  /-- The shell was told to end. -/
  | exited
  /-- The process has ended. -/
  | over (ending : Ending)
  deriving DecidableEq, Repr

/-- Where a command was found along the search path. -/
structure Find where
  /-- The entry of the search path. -/
  entry : Nat
  /-- Whether the directory was changed since. -/
  isStale : Bool := false
  deriving DecidableEq, Repr

/-- A shell. -/
structure Shell where
  process : Process
  reader : Reader := {}
  /-- The name that the shell or its script is called by. -/
  name : Bytes := Bytes.ofText "sh"
  arguments : List Bytes := []
  vars : List (Bytes × Variable) := []
  /-- What variables were before they became local, for each command and
  function that is running. -/
  locals : List (List (Bytes × Option Variable)) := []
  functions : List (Bytes × Command) := []
  aliases : List (Bytes × Bytes) := []
  /-- The letters of the options that are on. -/
  options : List Char := []
  /-- The directory by the path the shell took there; empty if unknown. -/
  directory : Bytes := []
  status : Nat := 0
  /-- The status of the last command whose output stood in for it. -/
  innerStatus : Nat := 0
  /-- The line that errors are reported on. -/
  errorLine : Nat := 0
  /-- The command of the shell's own that is running. -/
  command : Option Bytes := none
  loops : Nat := 0
  /-- How many calls of functions stand within each other. -/
  calls : Nat := 0
  skip : Option Skip := none
  /-- The commands for signals, by number; 0 is the end of the shell. -/
  traps : List (Nat × Bytes) := []
  /-- The signals that came and whose commands have not run. -/
  caught : List Nat := []
  /-- The signals that were ignored when the shell started, and stay so. -/
  barred : List Nat := []
  /-- The number of the main shell. -/
  mainNumber : Nat := 0
  /-- The last process in the background, or 0. -/
  lastJob : Nat := 0
  /-- The place of each command that was found along the search path. -/
  located : List (Bytes × Find) := []
  /-- Where `getopts` is: the next argument, and how far in the last. -/
  optionIndex : Nat := 1
  optionOffset : Option Nat := none
  /-- What a command of the shell's own has printed and not written yet. -/
  printed : Bytes := []
  /-- Whether the text before a traced command is being made. -/
  tracing : Bool := false
  /-- The status to end with, if it is settled: the one that was asked for,
  or the one from before the command for a signal. -/
  settled : Option Nat := none

/-- A job. -/
structure Job where
  /-- The place in the table of jobs, from 1 on. -/
  place : Nat
  /-- The numbers of its processes. -/
  numbers : List Nat
  /-- How those of them ended that have. -/
  endings : List (Nat × Ending) := []
  /-- Whether the shell has noticed the end of its processes. -/
  noticed : Bool := false
  /-- Whether it was waited for, so that its place may be taken. -/
  isDone : Bool := false

namespace Job

/-- The number that a job is known by: that of its last process. -/
def number (j : Job) : Nat := j.numbers.getLast?.getD 0

/-- How a job ended, if all of its processes have: as the last of them. -/
def ending? (j : Job) : Option Ending :=
  if j.numbers.all fun number => (j.endings.lookup number).isSome then j.endings.lookup j.number
  else none

end Job

/-- A process that goes on beside the shell. -/
structure Child where
  /-- Its number, unless another process started it and has ended. -/
  number? : Option Nat
  resume : System → Course Departure

/-- A shell with its jobs, the first one first, and its processes. -/
structure Workplace where
  shell : Shell
  jobs : List Job := []
  children : List Child := []
  /-- How processes ended that were not waited for. -/
  endings : List (Nat × Ending) := []
  /-- How many rounds of loops are left until the others have a turn. -/
  roundsLeft : Nat := 0

/-- What a shell does. -/
abbrev Act := ExceptT Abort (StateT Workplace Course)

-- ================================================================ actions

/-- Looks at the shell. -/
def look {α : Type} (f : Shell → α) : Act α := do
  return f (← get).shell

/-- Changes the shell. -/
def change (f : Shell → Shell) : Act Unit :=
  modify fun w => { w with shell := f w.shell }

/-- Changes the reader. -/
def changeReader (f : Reader → Reader) : Act Unit :=
  change fun sh => { sh with reader := f sh.reader }

/-- Does something with the process. -/
def onProcess {α : Type} (f : Process → α × Process) : Act α := do
  let w ← get
  let (result, process) := f w.shell.process
  set { w with shell := { w.shell with process } }
  return result

/-- The signal that ends a process that is out of stack. -/
def outOfStack : Nat := 11

/-- Repeats a step until it gives a result, or for so many rounds. -/
def iterate {σ α : Type} (step : σ → Act (σ ⊕ α)) : Nat → σ → Act α
  | 0, _ => throw (.over (.killed outOfStack))
  | rounds + 1, s => fun w =>
    match step s w with
    | .done (.ok (.inl s), w) => iterate step rounds s w
    | .done (.ok (.inr result), w) => .done (.ok result, w)
    | .done (.error abort, w) => .done (.error abort, w)
    | .pause moved system resume =>
      .pause moved system fun system => (resume system).andThen fun
        | (.ok (.inl s), w) => iterate step rounds s w
        | (.ok (.inr result), w) => .done (.ok result, w)
        | (.error abort, w) => .done (.error abort, w)

/-- How many rounds a loop makes at most. -/
def maxRounds : Nat := 1 <<< 60

/-- Repeats a step until it gives a result. -/
def repeatFrom {σ α : Type} (s : σ) (step : σ → Act (σ ⊕ α)) : Act α :=
  iterate step maxRounds s

/-- Does something last, also if the action is broken off. -/
def andLast {α : Type} (act : Act α) (last : Act Unit) : Act α := do
  let result ← try (Except.ok <$> act) catch abort => pure (.error abort)
  last
  match result with
  | .ok a => pure a
  | .error abort => throw abort

-- ================================================================== turns

/-- Hands the system to the other processes and takes it back. -/
def pause (moved : Bool) : Act Unit :=
  fun w => .pause moved w.shell.process.system fun system =>
    .done (.ok (), { w with shell := { w.shell with process :=
      { w.shell.process with system } } })

/-- Takes over the system as a process has left it. -/
def takeOver (system : System) : Act Unit :=
  change fun sh => { sh with process := { sh.process with system } }

/-- The signal for one of whose processes one has ended. -/
def childSignal : Nat := 17

/-- Remembers how a process ended. -/
def rememberEnding (number : Nat) (ending : Ending) : Act Unit := do
  modify fun w => { w with
    endings := (number, ending) :: w.endings
    jobs := w.jobs.map fun j =>
      if j.numbers.contains number then { j with endings := (number, ending) :: j.endings }
      else j }
  onProcess fun p => ((), p.send p.number childSignal)

/-- Gives a process its turn; says whether it has moved. The processes of
one that ends are taken on. -/
def giveTurn (child : Child) : Act Bool := do
  match child.resume (← look (·.process.system)) with
  | .pause moved system resume =>
    takeOver system
    modify fun w => { w with children := w.children ++ [{ child with resume }] }
    return moved
  | .done left =>
    takeOver left.system
    modify fun w => { w with children := w.children ++ left.orphans.map (⟨none, ·⟩) }
    if let some number := child.number? then rememberEnding number left.ending
    return true

/-- Gives each process its turn; says whether one has moved. -/
def giveTurns : Act Bool := do
  let children := (← get).children
  if children.isEmpty then return false
  modify ({ · with children := [] })
  children.foldlM (fun moved child => do return (← giveTurn child) || moved) false

/-- Whether the shell asks for its commands, and goes on after errors. A
copy of it does not. -/
def Shell.isAttended (sh : Shell) : Bool :=
  sh.options.contains 'i' && sh.process.number == sh.mainNumber

/-- The signal by which a user interrupts what runs. -/
def interruptSignal : Nat := 2

/-- The signals that a shell that asks for its commands takes no heed of. -/
def endingSignals : List Nat := [3, 15]

/-- Receives the signals that were sent to the shell. -/
def receiveSignals : Act Unit := do
  for signal in ← onProcess Process.receive do
    match (← look (·.traps.lookup signal)).filter fun _ => signal != Process.killSignal with
    | some _ => change fun sh => { sh with caught := sh.caught ++ [signal] }
    | none =>
      let isAttended ← look Shell.isAttended
      if isAttended && signal == interruptSignal then
        change ({ · with status := 128 + signal })
        throw .interrupted
      else if !Process.harmlessSignals.contains signal
          && !(isAttended && endingSignals.contains signal) then
        throw (.over (.killed signal))

/-- Attempts something until it succeeds; in between, others have their
turns. -/
def awaitUntil {α : Type} (attempt : Act (Option α)) : Act α :=
  repeatFrom true fun isFirst => do
    if let some a ← attempt then return .inr a
    let moved ← giveTurns
    if let some a ← attempt then return .inr a
    pause (moved || isFirst)
    receiveSignals
    return .inl false

/-- Attempts something with the process until it succeeds. -/
def await {α : Type} (attempt : Process → Option α × Process) : Act α :=
  awaitUntil (onProcess attempt)

/-- Attempts something with the process until it succeeds, or until a
signal comes that the shell has a command for. -/
def awaitOrSignal {α : Type} (attempt : Process → Option α × Process) : Act (Option α) :=
  awaitUntil do
    match ← onProcess attempt with
    | some a => return some (some a)
    | none => if (← look (·.caught.isEmpty)) then return none else return some none

/-- How many rounds of loops are made before others have a turn. -/
def roundsInTurn : Nat := 256

/-- Counts a round of a loop; now and then, others have a turn. -/
def countRound : Act Unit := do
  match (← get).roundsLeft with
  | n + 1 => modify ({ · with roundsLeft := n })
  | 0 =>
    modify ({ · with roundsLeft := roundsInTurn })
    let _ ← giveTurns
    pause true
    receiveSignals

/-- Does what a program does in the process of the shell, and lets the
processes of the shell have their turns. -/
def doActivity {α : Type} (activity : Activity α) : Act α := do
  let course := activity.run.run (← look (·.process))
  let (result, process) ← awaitCourse course
  change ({ · with process })
  match result with
  | .ok a => return a
  | .error ending => throw (.over ending)
where
  /-- Goes through a course. -/
  awaitCourse {β : Type} : Course β → Act β
    | .done b => pure b
    | .pause moved system resume => do
      takeOver system
      let othersMoved ← giveTurns
      pause (moved || othersMoved)
      awaitCourse (resume (← look (·.process.system)))

-- ================================================================== files

/-- Writes to an open file; gives the error, if there was one. One who
writes what nobody reads is told by a signal first. -/
def writeFile (index : Nat) (bytes : Bytes) : Act (Option SystemError) :=
  repeatFrom bytes fun bytes => do
    match ← await (Process.tryWriteFile index bytes) with
    | .ok count =>
      if bytes.length ≤ count then return .inr none
      return .inl (bytes.drop count)
    | .error e =>
      if e = .brokenPipe then
        onProcess fun p => ((), p.send p.number Process.pipeSignal)
        receiveSignals
      return .inr (some e)

/-- Writes to a descriptor; gives the error, if there was one. -/
def write (fd : Nat) (bytes : Bytes) : Act (Option SystemError) := do
  match ← look (·.process.descriptor? fd) with
  | none => return some .badDescriptor
  | some index => writeFile index bytes

/-- Reads up to so many bytes from an open file. -/
def readFile (index count : Nat) : Act (Except SystemError Bytes) :=
  await (Process.tryReadFile index (.upTo count))

/-- Opens what a path names. The first to open a fifo waits for one who
opens the other end of it. -/
def openPath (path : Path) (access : Host.Access) : Act (Except SystemError Nat) := do
  match ← onProcess (Process.openPath path access) with
  | .error e => return .error e
  | .ok index =>
    if let some count ← look (·.process.system.partnerCount? index) then
      let fd ← onProcess (Process.keep index)
      await fun p => (if p.system.hasPartner index count then some () else none, p)
      onProcess fun p => ((), p.redirect fd none)
    return .ok index

-- =============================================================== messages

/-- Text as bytes. -/
abbrev lit (text : String) : Bytes := Bytes.ofText text

/-- A message, with the names of the script and of the command and the
line. -/
def message (sh : Shell) (text : Bytes) : Bytes :=
  let command := match sh.command with
    | some command => command ++ lit ": "
    | none => []
  sh.name ++ lit (": " ++ toString sh.errorLine ++ ": ") ++ command ++ text ++ [10]

/-- Complains, and goes on. -/
def warn (text : Bytes) : Act Unit := do
  let _ ← write 2 (message (← look id) text)

/-- Sets the status. -/
def setStatus (status : Nat) : Act Unit :=
  change ({ · with status })

/-- Complains, and breaks off. -/
def fail {α : Type} (text : Bytes) : Act α := do
  setStatus 2
  warn text
  throw .failed

/-- Prints, for a command of the shell's own. It is written when the
command is done. -/
def print (bytes : Bytes) : Act Unit :=
  change fun sh => { sh with printed := sh.printed ++ bytes }

/-- Prints a line. -/
def printLine (bytes : Bytes) : Act Unit :=
  print (bytes ++ [10])

/-- Whether an option is on. -/
def isOn (option : Char) : Act Bool :=
  look (·.options.contains option)

end LineShell.Script
