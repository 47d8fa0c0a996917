/-
An outlet hands what is written to it on to a channel: at once, or line
by line. One that works line by line holds back an unfinished line until
it is finished, until it is flushed, or until it exceeds `capacity`.

Bytes are held back in order and nothing is handed on before what was
held back. If handing on fails, what the channel did not take stays
held, so it is offered again the next time.
-/
import LineShell.Channel

namespace LineShell

/-- An outlet over a channel. -/
structure Outlet where
  channel : Channel := {}
  /-- Whether unfinished lines are held back. -/
  byLine : Bool := false
  /-- What is held back. -/
  held : Bytes := []
  deriving DecidableEq, Repr

namespace Outlet

/-- How many bytes are held back at most. -/
def capacity : Nat := 1024

/-- The byte that ends a line. -/
def newline : UInt8 := 10

/-- Goes on after a write or flush that succeeded. -/
def andThen (next : Outlet → Option SystemError × Outlet) :
    Option SystemError × Outlet → Option SystemError × Outlet
  | (none, o) => next o
  | (some e, o) => (some e, o)

/-- Writes to the channel directly. -/
def pass (bytes : Bytes) (o : Outlet) : Option SystemError × Outlet :=
  let (error, channel) := o.channel.write bytes
  (error, { o with channel })

/-- Hands on what is held back. -/
def drain (o : Outlet) : Option SystemError × Outlet :=
  let (error, held, channel) := o.channel.offer o.held
  (error, { o with channel, held })

/-- Holds bytes back, handing on what is held if they do not fit beside
it. Bytes that fill the whole capacity are not held at all. -/
def hold (bytes : Bytes) (o : Outlet) : Option SystemError × Outlet :=
  let spare := capacity - o.held.length
  if bytes.length < spare then (none, { o with held := o.held ++ bytes })
  else
    (if spare < bytes.length then o.drain else (none, o)) |> andThen fun o =>
      if capacity ≤ bytes.length then o.pass bytes
      else (none, { o with held := o.held ++ bytes })

/-- The part of `bytes` after its last newline. -/
def unfinished (bytes : Bytes) : Bytes :=
  (bytes.reverse.takeWhile (· != newline)).reverse

/-- Writes line by line: the finished lines are handed on behind what is
held back, the unfinished one is held. -/
def writeLines (bytes : Bytes) (o : Outlet) : Option SystemError × Outlet :=
  let rest := unfinished bytes
  let lines := bytes.take (bytes.length - rest.length)
  let handedOn :=
    if lines.isEmpty then
      if o.held.getLast? = some newline then o.drain else (none, o)
    else if o.held.isEmpty then o.pass lines
    else o.hold lines |> andThen drain
  handedOn |> andThen (hold rest)

/-- Writes bytes. -/
def write (bytes : Bytes) (o : Outlet) : Option SystemError × Outlet :=
  if o.byLine then o.writeLines bytes else o.pass bytes

/-- Writes pieces one after the other, up to the first that fails. -/
def print : List Bytes → Outlet → Option SystemError × Outlet
  | [], o => (none, o)
  | piece :: pieces, o => o.write piece |> andThen (print pieces)

/-- Hands on what is held back and flushes the channel. -/
def flush (o : Outlet) : Option SystemError × Outlet :=
  (if o.byLine then o.drain else (none, o)) |> andThen fun o =>
    let (error, channel) := o.channel.flush
    (error, { o with channel })

/-- Notes on the channel that a program is about to be started. -/
def lend (o : Outlet) : Outlet :=
  { o with channel := o.channel.lend }

/-- Takes the channel back from a program, as the program has left it. -/
def takeBack (left : Channel) (o : Outlet) : Outlet :=
  { o with channel := o.channel.takeBack left }

end Outlet
end LineShell
