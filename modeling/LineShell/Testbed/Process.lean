/-
A process on the machine, as its own program sees it: what it shares with
others, the directory it is in, and its variables as lines `NAME=VALUE`.

A process that is started by another gets a copy of all that is not
shared (`Process.fork`), so that nothing it does to its descriptors, its
directory or its variables comes back.

The descriptors of all processes stand in the system, since it matters to
others what a process has open. Those from `firstSaved` on are for the
process itself: it keeps there what its programs are not to see.
-/
import LineShell.Host.Exec
import LineShell.Testbed.Course

namespace LineShell.Host

/-- A limit on what a process may use: the value that counts, and the one
up to which that may be raised. -/
structure Limit where
  soft : Nat
  hard : Nat
  deriving DecidableEq, Repr

namespace Limit

/-- The value that stands for no limit. -/
def unlimited : Nat := 18446744073709551615

/-- The limits that are usual, by the letters of the resources; what is not
named is not limited. -/
def usual : List (Char × Limit) :=
  [('s', ⟨8388608, unlimited⟩), ('c', ⟨0, unlimited⟩), ('l', ⟨8388608, 8388608⟩),
    ('p', ⟨128620, 128620⟩), ('n', ⟨20000, 20000⟩), ('r', ⟨0, 0⟩)]

end Limit

/-- A process. -/
structure Process where
  system : System
  directory : WorkingDirectory
  vars : List Bytes
  number : Nat
  parent : Nat
  /-- The permission bits taken away from files that are made. -/
  mask : Nat := 0o022
  /-- The signals that are ignored. -/
  ignored : List Nat := []
  limits : List (Char × Limit) := Limit.usual

namespace Process

/-- The limit on a resource. -/
def limit (p : Process) (resource : Char) : Limit :=
  (p.limits.lookup resource).getD ⟨Limit.unlimited, Limit.unlimited⟩

/-- The process with another limit on a resource. -/
def setLimit (resource : Char) (l : Limit) (p : Process) : Process :=
  { p with limits := (resource, l) :: p.limits.filter (·.1 != resource) }

/-- The value of the first variable of a name. -/
def value? (p : Process) (name : String) : Option Bytes :=
  ProcessVariables.valueAmong p.vars name

/-- What the process executes files in. -/
def setting (p : Process) : Setting where
  files := p.system.files
  directory := p.directory
  vars := p.vars

/-- A new process with a copy of what is not shared. It knows the system
as it is with the process in it. -/
def fork (p : Process) : Process :=
  let number := p.system.lastProcess + 1
  let system := p.system.setDescriptors number (p.system.descriptors p.number)
  { p with
    system := { system with lastProcess := number, living := number :: system.living }
    number
    parent := p.number }

/-- The process without itself among those that live. -/
def leave (p : Process) : System :=
  p.system.depart p.number

-- ============================================================ descriptors

/-- The descriptors of a process. -/
def descriptors (p : Process) : Descriptors :=
  p.system.descriptors p.number

/-- The open file of a descriptor. -/
def descriptor? (p : Process) (fd : Nat) : Option Nat :=
  p.descriptors.lookup fd

/-- Lets a descriptor refer to an open file, or to none. -/
def redirect (fd : Nat) (index : Option Nat) (p : Process) : Process :=
  let others := p.descriptors.filter (·.1 != fd)
  { p with system := p.system.setDescriptors p.number (match index with
      | some index => (fd, index) :: others
      | none => others) }

/-- The first of the descriptors that a process keeps for itself. -/
def firstSaved : Nat := 10

/-- Keeps an open file; gives the descriptor it is kept at. -/
def keep (index : Nat) (p : Process) : Nat × Process :=
  let taken := p.descriptors.map (·.1)
  let candidates := (List.range (taken.length + 1)).map (firstSaved + ·)
  let fd := (candidates.find? (!taken.contains ·)).getD firstSaved
  (fd, p.redirect fd (some index))

/-- The process without what it kept for itself, as another program finds
it that takes its place. -/
def dropKept (p : Process) : Process :=
  let others := p.descriptors.filter (·.1 < firstSaved)
  { p with system := p.system.setDescriptors p.number others }

/-- The medium behind a descriptor. -/
def medium? (p : Process) (fd : Nat) : Option Medium :=
  (p.descriptor? fd).bind fun index => p.system.opened[index]?.map (·.medium)

/-- Reads up to a portion from an open file, unless it has to wait. -/
def tryReadFile (index : Nat) (portion : Portion) (p : Process) :
    Option (Except SystemError Bytes) × Process :=
  let (result, system) := p.system.read index portion
  (result, { p with system })

/-- Writes to an open file, unless it has to wait. -/
def tryWriteFile (index : Nat) (bytes : Bytes) (p : Process) :
    Option (Except SystemError Nat) × Process :=
  let (result, system) := p.system.write index bytes
  (result, { p with system })

/-- Opens again what is open as a descriptor: a file from its start, and
anything else as it is. -/
def reopen (fd : Nat) (access : Access) (p : Process) : Except SystemError Nat × System :=
  let s := p.system
  let file? : Option Location := match p.medium? fd with
    | some (.file l) => some l
    | some .input => s.streams.input.file?.map (·.location)
    | some .output => s.streams.output.file?.map (·.place.location)
    | _ => none
  match file?, p.medium? fd with
  | some l, _ => s.openAt access l
  | none, some medium =>
    let (index, s) := s.enter { medium, access }
    (.ok index, s)
  | none, none => (.error .noEntry, s)

/-- Opens what a path names. -/
def openPath (path : Path) (access : Access) (p : Process) :
    Except SystemError Nat × Process :=
  let fd? : Option Nat := match p.system.files.resolve p.directory path with
    | .ok (.located l) => match p.system.files.lookup l with
      | some (.descriptor fd) => some fd
      | _ => none
    | _ => none
  let (result, system) := match fd? with
    | some fd => p.reopen fd access
    | none => p.system.openPath p.directory p.mask path access
  (result, { p with system })

/-- How many bytes are read at a time. -/
def blockSize : Nat := 65536

-- ================================================================ signals

/-- The signals that do nothing to a process that makes nothing of them. -/
def harmlessSignals : List Nat := [17, 18, 19, 20, 21, 22, 23, 28]

/-- The signal that no process can ignore. -/
def killSignal : Nat := 9

/-- The signal for one that writes what nobody reads. -/
def pipeSignal : Nat := 13

/-- Sends a signal to a process. -/
def send (receiver signal : Nat) (p : Process) : Process :=
  { p with system := { p.system with signals := (receiver, signal) :: p.system.signals } }

/-- The signals that were sent to a process and that it does not ignore,
the first one first, and the process without them. -/
def receive (p : Process) : List Nat × Process :=
  if p.system.signals.isEmpty then ([], p)
  else
    let own := p.system.signals.filter (·.1 == p.number)
    let others := p.system.signals.filter (·.1 != p.number)
    let isHeard (signal : Nat) : Bool := signal = killSignal || !p.ignored.contains signal
    ((own.reverse.map (·.2)).filter isHeard,
      { p with system := { p.system with signals := others } })

end Process
end LineShell.Host
