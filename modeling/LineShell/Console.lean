/-
The console of a session: the outlet for output, the outlet for
diagnostics, the log, and the standard streams that programs inherit.

Programs either write to the very channels behind the two outlets, as
under a terminal, or to channels of their own (`ChildOutlets`). In the
first case the order in which the interpreter and its programs write is
the order of the bytes on the channel, whence the care taken to flush
before a program starts.
-/
import LineShell.Log
import LineShell.Outlet

namespace LineShell

/-- Writes a line of diagnostics, in pieces. What cannot be written of it
is lost, and nobody is told. -/
def Outlet.complain (pieces : List String) (o : Outlet) : Outlet :=
  (o.print (pieces.map Bytes.ofText ++ [[newline]])).2

/-- Where programs write. -/
inductive ChildOutlets
  /-- To the channels behind the outlets of the console. -/
  | shared
  | apart (output errors : Channel)
  deriving DecidableEq, Repr

/-- A console. -/
structure Console where
  out : Outlet := {}
  err : Outlet := {}
  /-- The notes taken, the latest first. -/
  log : List LogEntry := []
  /-- What the standard input still holds for programs. -/
  input : Feed := {}
  children : ChildOutlets := .apart {} {}
  deriving DecidableEq, Repr

namespace Console

/-- Takes a note. -/
def note (entry : LogEntry) (c : Console) : Console :=
  { c with log := entry :: c.log }

/-- Prints pieces to the output. -/
def print (pieces : List Bytes) (c : Console) : Option SystemError × Console :=
  let (error, out) := c.out.print pieces
  (error, { c with out })

/-- Flushes the output. -/
def flush (c : Console) : Option SystemError × Console :=
  let (error, out) := c.out.flush
  (error, { c with out })

/-- Writes a line of diagnostics, in pieces. -/
def complain (pieces : List String) (c : Console) : Console :=
  { c with err := c.err.complain pieces }

/-- The input as it is now, which may be what the output goes to. -/
def feed (c : Console) : Feed :=
  c.out.channel.refresh c.input

/-- The standard streams a program inherits. -/
def streams (c : Console) : Streams :=
  match c.children with
  | .shared => ⟨c.input, c.out.channel.clear, c.err.channel.clear⟩
  | .apart output errors => ⟨c.input, output.clear, errors.clear⟩

/-- The console after a program has used the standard streams. -/
def withStreams (s : Streams) (c : Console) : Console :=
  match c.children with
  | .shared =>
    { c with
      input := s.input
      out := c.out.takeBack s.output
      err := c.err.takeBack s.errors }
  | .apart output errors =>
    { c with
      input := s.input
      children := .apart (output.takeBack s.output) (errors.takeBack s.errors) }

end Console
end LineShell
