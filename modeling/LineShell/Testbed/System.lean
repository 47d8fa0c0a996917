/-
The part of the machine that processes share: the files, the streams of
the session, the table of open files, and the pipes between processes.

An open file has an offset of its own, which all descriptors that refer
to it move (`OpenFile`). A file is named by its location, so that what is
appended to it shows to whoever has it open; a pipe gives each byte once.

What a process writes to a pipe stays in it until a process reads it. A
pipe that is empty is at its end when no process has an end of it to
write to, and a write fails when none has an end to read from. Otherwise
a process that finds a pipe empty, or full, has to wait; an operation
that cannot be done yet gives no result.

A fifo is a pipe with a place in the file tree. What is in it is gone
when no process has it open.
-/
import LineShell.Program
import LineShell.FileTree.Resolve

namespace LineShell.Host

/-- What an open file reads from and writes to. -/
inductive Medium
  | file (l : Location)
  | directory
  /-- A device that is empty and discards what is written to it. -/
  | void
  /-- A device that is always full, and reads as zeros. -/
  | full
  /-- A device that reads as zeros, and discards what is written to it. -/
  | zeros
  | input
  | output
  | errors
  | pipe (index : Nat)
  deriving DecidableEq, Repr

/-- How a file is to be opened. -/
structure Access where
  reads : Bool := false
  writes : Bool := false
  /-- Whether a missing file is made. -/
  creates : Bool := false
  /-- Whether the file is emptied. -/
  truncates : Bool := false
  /-- Whether every write goes to the end. -/
  appends : Bool := false
  /-- Whether the file must be new. -/
  exclusive : Bool := false
  deriving DecidableEq, Repr

namespace Access

def read : Access := { reads := true }
def overwrite : Access := { writes := true, creates := true, truncates := true }
def append : Access := { writes := true, creates := true, appends := true }
def update : Access := { reads := true, writes := true, creates := true }

end Access

/-- An open file. -/
structure OpenFile where
  medium : Medium
  access : Access
  offset : Nat := 0
  deriving DecidableEq, Repr

/-- How much is to be read at once. -/
inductive Portion
  /-- So many bytes, or all if there are fewer. -/
  | upTo (count : Nat)
  /-- The rest of a line with its newline, or all there is of it. -/
  | line
  deriving DecidableEq, Repr

/-- How many of some bytes a portion is. -/
def Portion.size (portion : Portion) (bytes : Bytes) : Nat :=
  match portion with
  | .upTo count => count
  | .line => (bytes.takeWhile (· != 10)).length + 1

/-- A pipe. Its bytes come out in the order in which they went in. -/
structure Pipe where
  /-- The bytes that come out next. -/
  front : Bytes := []
  /-- Those behind them, the last one first. -/
  back : Bytes := []
  /-- How many bytes there are. -/
  size : Nat := 0
  /-- How many bytes there may be. -/
  capacity : Option Nat := none
  /-- How often it was opened to be read, and to be written to. -/
  readings : Nat := 0
  writings : Nat := 0
  deriving DecidableEq, Repr

namespace Pipe

/-- How many bytes a pipe between processes may hold. -/
def usualCapacity : Nat := 65536

/-- The most bytes that are written in one piece or not at all. -/
def unbroken : Nat := 4096

/-- Puts bytes into a pipe. -/
def put (bytes : Bytes) (p : Pipe) : Pipe :=
  { p with back := bytes.reverseAux p.back, size := p.size + bytes.length }

/-- Takes at most a portion out of a pipe. -/
def take (portion : Portion) (p : Pipe) : Bytes × Pipe :=
  let p := if p.front.isEmpty then { p with front := p.back.reverse, back := [] } else p
  let count := portion.size p.front
  let bytes := p.front.take count
  (bytes, { p with front := p.front.drop count, size := p.size - bytes.length })

/-- How many of some bytes can be written at once, if any can. -/
def room? (p : Pipe) (count : Nat) : Option Nat :=
  match p.capacity with
  | none => some count
  | some capacity =>
    let room := capacity - p.size
    if count ≤ room then some count
    else if count ≤ unbroken || room = 0 then none
    else some room

end Pipe

/-- What an open file gives next. -/
structure Ahead where
  index : Nat
  rest : Bytes

/-- The descriptors of a process: the open file that each refers to. -/
abbrev Descriptors := List (Nat × Nat)

/-- What processes share. -/
structure System where
  files : FileTree
  streams : Streams
  opened : Array OpenFile := #[]
  /-- What the file that was read last gives next, while no file has
  changed since. -/
  ahead? : Option Ahead := none
  pipes : Array Pipe := #[]
  /-- The pipes of the fifos. -/
  fifos : List (Location × Nat) := []
  /-- The descriptors of each process, by its number. -/
  tables : List (Nat × Descriptors) := []
  /-- The number of the last process that was started. -/
  lastProcess : Nat := 0
  /-- The numbers of the processes that have not ended. -/
  living : List Nat := []
  /-- The signals that were sent and not yet received, with the numbers of
  their receivers, the latest first. -/
  signals : List (Nat × Nat) := []

namespace System

-- =============================================================== contents

/-- What the regular file at a location holds. The file behind the output
of the session holds what went there. -/
def contents? (s : System) (l : Location) : Option Bytes :=
  match s.files.lookup l with
  | some (.file contents _) =>
    some ((s.streams.output.contentsAt? l).getD contents)
  | _ => none

/-- Lets the regular file at a location hold something else. -/
def setContents (l : Location) (contents : Bytes) (s : System) : System :=
  match s.files.lookup l with
  | some (.file _ mode) =>
    let streams := { s.streams with
      input := s.streams.input.update l contents
      output := s.streams.output.update l contents }
    { s with files := s.files.insert l (.file contents mode), streams, ahead? := none }
  | _ => s

-- ============================================================= open files

/-- Enters an open file in the table. -/
def enter (file : OpenFile) (s : System) : Nat × System :=
  (s.opened.size, { s with opened := s.opened.push file })

/-- Moves the offset of an open file. -/
def seek (index offset : Nat) (s : System) : System :=
  { s with opened := s.opened.modify index ({ · with offset }) }

-- ============================================================ descriptors

/-- The descriptors of a process. -/
def descriptors (s : System) (number : Nat) : Descriptors :=
  (s.tables.lookup number).getD []

/-- Lets a process have descriptors. -/
def setDescriptors (number : Nat) (d : Descriptors) (s : System) : System :=
  { s with tables := (number, d) :: s.tables.filter (·.1 != number) }

/-- The system without a process. -/
def depart (number : Nat) (s : System) : System :=
  { s with
    tables := s.tables.filter (·.1 != number)
    living := s.living.filter (· != number) }

/-- Whether a process has an open file of which something holds. -/
def holdsOpen (s : System) (what : OpenFile → Bool) : Bool :=
  s.tables.any fun (_, d) => d.any fun (_, index) => (s.opened[index]?.map what).getD false

-- ================================================================== pipes

/-- Whether a process has an end of a pipe, to read from or to write to. -/
def hasEnd (s : System) (pipe : Nat) (toWrite : Bool) : Bool :=
  s.holdsOpen fun f =>
    f.medium == .pipe pipe && (if toWrite then f.access.writes else f.access.reads)

/-- Makes a pipe that holds so many bytes; its two ends are entered in the
table. -/
def makePipe (capacity : Option Nat) (s : System) : Nat × Nat × System :=
  let medium := Medium.pipe s.pipes.size
  let s := { s with pipes := s.pipes.push { capacity } }
  let (reader, s) := s.enter { medium, access := { reads := true } }
  let (writer, s) := s.enter { medium, access := { writes := true } }
  (reader, writer, s)

/-- Makes a pipe that holds a text and that nobody writes to; its end is
entered in the table. -/
def makeText (text : Bytes) (s : System) : Nat × System :=
  let medium := Medium.pipe s.pipes.size
  let pipe : Pipe := { front := text, size := text.length }
  { s with pipes := s.pipes.push pipe }.enter { medium, access := { reads := true } }

/-- The pipe of the fifo at a location. One that nobody has open is empty. -/
def fifoPipe (l : Location) (s : System) : Nat × System :=
  match s.fifos.lookup l with
  | some i =>
    if s.hasEnd i true || s.hasEnd i false then (i, s)
    else
      (i, { s with pipes := s.pipes.modify i fun p => { p with front := [], back := [], size := 0 } })
  | none =>
    let i := s.pipes.size
    (i, { s with
      pipes := s.pipes.push { capacity := some Pipe.usualCapacity }
      fifos := (l, i) :: s.fifos })

/-- Opens the fifo at a location. -/
def openFifo (access : Access) (l : Location) (s : System) : Nat × System :=
  let (i, s) := s.fifoPipe l
  let count (opens : Bool) (n : Nat) : Nat := if opens then n + 1 else n
  let s := { s with pipes := s.pipes.modify i fun p =>
    { p with
      readings := count access.reads p.readings
      writings := count access.writes p.writings } }
  s.enter { medium := .pipe i, access }

/-- What an open file that was just opened waits for: if it is one end of
a fifo of which nobody has the other end, that the other one is opened
once more than so often. -/
def partnerCount? (s : System) (index : Nat) : Option Nat := do
  let file ← s.opened[index]?
  let .pipe i := file.medium | none
  let pipe ← s.pipes[i]?
  if !s.fifos.any (·.2 = i) then none
  else if file.access.reads && file.access.writes then none
  else if s.hasEnd i file.access.reads then none
  else some (if file.access.reads then pipe.writings else pipe.readings)

/-- Whether the other end of a fifo was opened more than so often. -/
def hasPartner (s : System) (index count : Nat) : Bool :=
  ((do
    let file ← s.opened[index]?
    let .pipe i := file.medium | none
    let pipe ← s.pipes[i]?
    some (count < if file.access.reads then pipe.writings else pipe.readings)) : Option Bool).getD
      true

-- ==================================================== reading and writing

/-- What an open file gives from its offset on, if it is one at a location. -/
def restOf (s : System) (index : Nat) (l : Location) (offset : Nat) : Bytes :=
  match s.ahead?.filter (·.index = index) with
  | some ahead => ahead.rest
  | none => ((s.contents? l).getD []).drop offset

/-- Reads up to a portion. No bytes are the end of the file. -/
def read (index : Nat) (portion : Portion) (s : System) :
    Option (Except SystemError Bytes) × System :=
  match s.opened[index]? with
  | none => (some (.error .badDescriptor), s)
  | some file =>
    if !file.access.reads then (some (.error .badDescriptor), s)
    else match file.medium with
      | .file l =>
        let rest := s.restOf index l file.offset
        let count := portion.size rest
        let bytes := rest.take count
        let s := s.seek index (file.offset + bytes.length)
        (some (.ok bytes), { s with ahead? := some ⟨index, rest.drop count⟩ })
      | .directory => (some (.error .isDirectory), s)
      | .full | .zeros =>
        let count := match portion with
          | .upTo count => count
          | .line => 1
        (some (.ok (List.replicate count 0)), s)
      | .input =>
        let feed := s.streams.output.refresh s.streams.input
        let (bytes, input) := feed.take (portion.size feed.rest)
        (some (.ok bytes), { s with streams := { s.streams with input } })
      | .pipe i =>
        match s.pipes[i]? with
        | none => (some (.ok []), s)
        | some pipe =>
          if pipe.size = 0 then
            (if portion != .upTo 0 && s.hasEnd i true then none else some (.ok []), s)
          else
            let (bytes, pipe) := pipe.take portion
            (some (.ok bytes), { s with pipes := s.pipes.setIfInBounds i pipe })
      | .void | .output | .errors => (some (.ok []), s)

/-- Writes bytes, or the first of them; gives how many were written. -/
def write (index : Nat) (bytes : Bytes) (s : System) :
    Option (Except SystemError Nat) × System :=
  let answer (error : Option SystemError) : Option (Except SystemError Nat) :=
    match error with
    | some e => some (.error e)
    | none => some (.ok bytes.length)
  match s.opened[index]? with
  | none => (some (.error .badDescriptor), s)
  | some file =>
    if !file.access.writes then (some (.error .badDescriptor), s)
    else match file.medium with
      | .file l =>
        match s.contents? l with
        | none => (answer none, s)
        | some contents =>
          let offset := if file.access.appends then contents.length else file.offset
          let s := s.setContents l (contents.overlay offset bytes)
          (answer none, s.seek index (offset + bytes.length))
      | .output =>
        let (error, output) := s.streams.output.write bytes
        (answer error, { s with streams := { s.streams with output }, ahead? := none })
      | .errors =>
        let (error, errors) := s.streams.errors.write bytes
        (answer error, { s with streams := { s.streams with errors } })
      | .pipe i =>
        match s.pipes[i]? with
        | none => (answer none, s)
        | some pipe =>
          if bytes.isEmpty then (answer none, s)
          else if !s.hasEnd i false then (some (.error .brokenPipe), s)
          else match pipe.room? bytes.length with
            | none => (none, s)
            | some count =>
              (some (.ok count),
                { s with pipes := s.pipes.setIfInBounds i (pipe.put (bytes.take count)) })
      | .full => (answer (if bytes.isEmpty then none else some .noSpace), s)
      | .void | .zeros | .input | .directory => (answer none, s)

-- ================================================================ opening

/-- The location that a path names for making something, or why none can be
made there. -/
def vacancy (s : System) (d : WorkingDirectory) (path : Path) : Except SystemError Location :=
  if path.isAbsolute then s.files.vacancy FileTree.maxLinks [] path.names
  else if s.files.holds d then s.files.vacancy FileTree.maxLinks d.location path.names
  else .error .noEntry

/-- The permission bits of a file that is made. -/
def newFileMode : Nat := 0o666

/-- Whether a node may be opened in a way; the error if not. -/
def refusal? (t : FileTree) (access : Access) (node : Node) : Option SystemError :=
  let orDenied (allowed : Bool) : Option SystemError := if allowed then none else some .accessDenied
  let byMode (mode : Nat) : Option SystemError :=
    orDenied ((!access.reads || t.mayRead mode) && (!access.writes || t.mayWrite mode))
  match node with
  | .directory _ mode => if access.writes then some .isDirectory else orDenied (t.mayRead mode)
  | .file _ mode | .fifo mode => byMode mode
  | .tool _ => if access.writes then some .accessDenied else none
  | .device .terminal => some (.number 6)
  | .link _ | .device _ | .descriptor _ => none

/-- Opens what stands at a location. -/
def openAt (access : Access) (l : Location) (s : System) : Except SystemError Nat × System :=
  let opening (medium : Medium) (s : System) : Except SystemError Nat × System :=
    let (index, s) := s.enter { medium, access }
    (.ok index, s)
  match s.files.lookup l with
  | none => (.error .noEntry, s)
  | some node =>
    match refusal? s.files access node with
    | some e => (.error e, s)
    | none =>
      match node with
      | .file _ _ => opening (.file l) (if access.truncates then s.setContents l [] else s)
      | .directory _ _ => opening .directory s
      | .device .full => opening .full s
      | .device .zeros => opening .zeros s
      | .fifo _ =>
        let (index, s) := s.openFifo access l
        (.ok index, s)
      | _ => opening .void s

/-- Makes a file at a location, with a mode. -/
def makeFile (l : Location) (mode : Nat) (s : System) : Except SystemError System :=
  match s.files.lookup l.dropLast with
  | some (.directory _ parentMode) =>
    if s.files.mayWrite parentMode && s.files.maySearch parentMode then
      .ok { s with files := s.files.insert l (.file [] mode), ahead? := none }
    else .error .accessDenied
  | _ => .error .noEntry

/-- Why nothing is made at a path that ends in a slash: only a directory
could stand there, if there is one to hold it. -/
def slashFault (s : System) (d : WorkingDirectory) (path : Path) : SystemError :=
  let behind := path.reverse.dropWhile (· == Path.slash)
  let holder := (behind.dropWhile (· != Path.slash)).reverse ++ Path.here
  match s.files.resolve d holder with
  | .error e => e
  | .ok _ => .isDirectory

/-- Opens what a path names, for a process in a directory that takes bits
away from those of a file that is made. What is made is open for the one
who made it, whatever its bits. -/
def openPath (d : WorkingDirectory) (mask : Nat) (path : Path) (access : Access) (s : System) :
    Except SystemError Nat × System :=
  if access.creates && path.getLast? == some Path.slash then (.error (s.slashFault d path), s)
  else match s.files.resolve d path with
  | .ok (.located l) => if access.exclusive then (.error .fileExists, s) else s.openAt access l
  | .ok (.removed _) =>
    if access.writes then (.error .isDirectory, s)
    else
      let (index, s) := s.enter { medium := .directory, access }
      (.ok index, s)
  | .error e =>
    if e = .noEntry && access.creates && !path.isEmpty then
      match s.vacancy d path with
      | .ok l =>
        match s.makeFile l (newFileMode - (newFileMode &&& mask)) with
        | .ok s =>
          let (index, s) := s.enter { medium := .file l, access }
          (.ok index, s)
        | .error e => (.error e, s)
      | .error e => (.error e, s)
    else (.error e, s)

end System
end LineShell.Host
