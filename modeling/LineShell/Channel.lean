/-
Channels: where bytes go. A channel takes what it is offered up to a
total (`room`), at most so many bytes at a time (`portion`), and refuses
the bytes after that; flushing it may fail as well. It keeps a record
of all that happened to it, in order.

A write offers its bytes again and again until all are taken or one
offer is refused. So a channel that fails has received a beginning of
what was written, however small its portions are. Interruptions, after
which a write would offer the rest again, are not among the refusals.

A channel that has refused bytes may refuse them for ever, or answer
otherwise from then on (`later`): it may have been given room again, or be
flushed where it could not be before. What a flush is answered with depends
on what was offered up to then, not on how often the channel was flushed.

A channel may lead to a file. What it takes is laid over what the file
holds, from the place that the channel has come to; whatever others do to
the file, the channel goes on from its own place.

# Two neighbouring events

The record keeps flushes beside the bytes, and the moments at which the
stream was handed to a program. That everything written has been flushed
when a program starts is a statement about neighbours in the record.
-/
import LineShell.Feed
import LineShell.SystemError

namespace LineShell

/-- Something that happened to a channel. -/
inductive Channel.Event
  /-- Bytes were taken; there was at least one. -/
  | took (bytes : Bytes)
  /-- The channel was flushed, or failed to be. -/
  | flushed (error : Option SystemError)
  /-- A program was about to be started on the streams. -/
  | lent
  /-- A program that had the stream has put these bytes there, or none. -/
  | left (bytes : Bytes)
  deriving DecidableEq, Repr

/-- A text with bytes laid over it from an offset on. What is missing in
front of them is filled up; if there are none, nothing is. -/
def Bytes.overlay (contents : Bytes) (offset : Nat) (bytes : Bytes) : Bytes :=
  if bytes.isEmpty then contents
  else contents.take offset ++ (List.replicate (offset - contents.length) 0 ++ (bytes
    ++ contents.drop (offset + bytes.length)))

/-- The file that a channel leads to. -/
structure Channel.File where
  /-- The place that the channel has come to. -/
  place : FilePlace
  contents : Bytes
  deriving DecidableEq, Repr

/-- The file after bytes were written to it. -/
def Channel.File.take (bytes : Bytes) (f : Channel.File) : Channel.File :=
  { place := { f.place with offset := f.place.offset + bytes.length }
    contents := f.contents.overlay f.place.offset bytes }

/-- What a channel answers for a while. -/
structure Channel.Spell where
  /-- How many more bytes are taken; `none` is no limit. -/
  room : Option Nat := none
  /-- What a full channel answers; `none` is a silent refusal. -/
  refusal : Option SystemError := none
  /-- How many bytes are taken at a time; `none` is all. -/
  portion : Option Nat := none
  /-- What flushing answers; `none` is success. -/
  flushError : Option SystemError := none
  deriving DecidableEq, Repr

/-- A channel. The default takes everything. -/
structure Channel extends Channel.Spell where
  /-- What it answers after this: a refusal of bytes ends a spell, unless it
  is the last one. -/
  later : List Channel.Spell := []
  /-- The file that the bytes end up in, if they can be read there. -/
  file? : Option Channel.File := none
  /-- What happened, the latest first. -/
  record : List Channel.Event := []
  deriving DecidableEq, Repr

namespace Channel

/-- The beginning of an offer that is taken. -/
def accepts (bytes : Bytes) (c : Channel) : Bytes :=
  let portion := match c.portion with
    | some k => bytes.take k
    | none => bytes
  match c.room with
    | some r => portion.take r
    | none => portion

/-- Takes bytes. -/
def take (bytes : Bytes) (c : Channel) : Channel :=
  { c with
    room := c.room.map (· - bytes.length)
    file? := c.file?.map (·.take bytes)
    record := .took bytes :: c.record }

/-- What an offer of which no byte is taken is answered with: a full
channel gives its reason, if it has one. -/
def answer (c : Channel) : SystemError :=
  if c.room = some 0 then c.refusal.getD .nothingTaken else .nothingTaken

/-- What the channel answers, from now on. -/
def spells (c : Channel) : List Spell :=
  c.toSpell :: c.later

/-- The channel after a refusal of bytes. -/
def afterRefusal (c : Channel) : Channel :=
  match c.later with
  | [] => c
  | spell :: later => { c with toSpell := spell, later }

/-- Offers bytes until all are taken or an offer is refused. Gives the
error of that offer, if one was, and what was not taken. -/
def offer (bytes : Bytes) (c : Channel) : Option SystemError × Bytes × Channel :=
  match bytes with
  | [] => (none, [], c)
  | byte :: more =>
    match c.accepts (byte :: more) with
    | [] => (some c.answer, byte :: more, c.afterRefusal)
    | first :: others => offer (more.drop others.length) (c.take (first :: others))
termination_by bytes.length
decreasing_by simp only [List.length_drop, List.length_cons]; omega

/-- Writes bytes, in as many offers as it takes. Gives the error of the
offer that was refused, if one was. -/
def write (bytes : Bytes) (c : Channel) : Option SystemError × Channel :=
  let (error, _, c) := c.offer bytes
  (error, c)

/-- Flushes the channel. -/
def flush (c : Channel) : Option SystemError × Channel :=
  (c.flushError, { c with record := .flushed c.flushError :: c.record })

/-- Notes that a program is about to be started on the stream. -/
def lend (c : Channel) : Channel :=
  { c with record := .lent :: c.record }

-- ============================================================= the record

/-- The channel after a file has got other contents. -/
def update (l : Location) (contents : Bytes) (c : Channel) : Channel :=
  { c with file? := c.file?.map fun f =>
      if f.place.location = l then { f with contents } else f }

/-- A feed, if what the channel leads to may be what it is read from. -/
def refresh (feed : Feed) (c : Channel) : Feed :=
  match c.file? with
  | some f => feed.update f.place.location f.contents
  | none => feed

/-- What the file at a location holds, if the channel leads there. -/
def contentsAt? (l : Location) (c : Channel) : Option Bytes :=
  c.file?.bind fun f => if f.place.location = l then some f.contents else none

/-- The bytes of one event. -/
def Event.bytes : Event → Bytes
  | .took bytes | .left bytes => bytes
  | _ => []

/-- The bytes the channel has received, in order. -/
def received (c : Channel) : Bytes :=
  c.record.reverse.flatMap Event.bytes

/-- How often the channel was flushed, failures included. -/
def flushes (c : Channel) : Nat :=
  c.record.countP fun
    | .flushed _ => true
    | _ => false

/-- Starts the record afresh. So a program finds a channel that it inherits:
what was done to it before is not to be seen. -/
def clear (c : Channel) : Channel :=
  { c with record := [] }

/-- Takes a channel back from a program, as the program has left it. What the
program has put there takes up room; what the channel answers is not the
program's to change. -/
def takeBack (c left : Channel) : Channel :=
  { c with
    room := c.room.map (· - left.received.length)
    file? := left.file?
    record := .left left.received :: c.record }

end Channel
end LineShell
