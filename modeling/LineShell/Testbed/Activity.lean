/-
What a program does in its process. It is a course in which the process
changes, and which a signal may break off (`Activity`).

An operation that has to wait is attempted again and again, with a pause
in between (`Activity.await`). A signal that the process does not ignore
ends it at such a pause.
-/
import LineShell.Testbed.Process

namespace LineShell.Host

/-- What a program does. It is broken off when the process ends. -/
abbrev Activity := ExceptT Ending (StateT Process Course)

namespace Activity

variable {α : Type}

/-- Does something with the process. -/
def onProcess (f : Process → α × Process) : Activity α := do
  let (result, p) := f (← get)
  set p
  return result

/-- Lets other processes have their turns. -/
def pause (moved : Bool) : Activity Unit :=
  fun p => .pause moved p.system fun system => .done (.ok (), { p with system })

/-- Ends the process if a signal came that does. -/
def obey : Activity Unit := do
  let signals ← onProcess Process.receive
  if let some signal := signals.find? (!Process.harmlessSignals.contains ·) then
    throw (.killed signal)

/-- How often something is attempted at most. -/
def patience : Nat := 1 <<< 60

/-- Attempts something until it succeeds, or so often. -/
def attempt (act : Process → Option α × Process) : Nat → Bool → Activity α
  | 0, _ => throw (.killed Process.killSignal)
  | attempts + 1, moved => do
    match ← onProcess act with
    | some a => return a
    | none =>
      pause moved
      obey
      attempt act attempts false

/-- Attempts something until it succeeds. -/
def await (act : Process → Option α × Process) : Activity α :=
  attempt act patience true

/-- The open file of a descriptor. -/
def descriptor? (fd : Nat) : Activity (Option Nat) := do
  return (← get).descriptor? fd

/-- Writes to an open file, a piece at a time; gives the error, if there
was one. One who writes what nobody reads is told by a signal first. -/
def writeFile (index : Nat) (bytes : Bytes) : Nat → Activity (Option SystemError)
  | 0 => return none
  | pieces + 1 => do
    match ← await (Process.tryWriteFile index bytes) with
    | .error e =>
      if e = .brokenPipe && !(← get).ignored.contains Process.pipeSignal then
        throw (.killed Process.pipeSignal)
      return some e
    | .ok count =>
      if bytes.length ≤ count then return none
      writeFile index (bytes.drop count) pieces

/-- Writes to a descriptor; gives the error, if there was one. -/
def write (fd : Nat) (bytes : Bytes) : Activity (Option SystemError) := do
  match ← descriptor? fd with
  | none => return some .badDescriptor
  | some index => writeFile index bytes (bytes.length + 1)

/-- Writes a line of diagnostics. -/
def complain (text : Bytes) : Activity Unit := do
  let _ ← write 2 (text ++ [10])

/-- Opens what a path names. The first to open a fifo waits for one who
opens the other end of it. -/
def openPath (path : Path) (access : Access) : Activity (Except SystemError Nat) := do
  match ← onProcess (Process.openPath path access) with
  | .error e => return .error e
  | .ok index =>
    if let some count := (← get).system.partnerCount? index then
      let fd ← onProcess (Process.keep index)
      await fun p => (if p.system.hasPartner index count then some () else none, p)
      onProcess fun p => ((), p.redirect fd none)
    return .ok index

end Activity
end LineShell.Host
