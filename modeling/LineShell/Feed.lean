/-
Feeds: where a standard input comes from. A feed is what can still be
read, in order. It may be the rest of a file from an offset on; then it
changes with the file, and an offset beyond the end of the file leaves
nothing to read until the file has grown.
-/
import LineShell.Path

namespace LineShell

/-- The place in a file that a feed has come to. -/
structure FilePlace where
  location : Location
  offset : Nat
  deriving DecidableEq, Repr

/-- A feed. -/
structure Feed where
  /-- What can still be read. -/
  rest : Bytes := []
  /-- The place in the file that it is read from, if it is one. -/
  file? : Option FilePlace := none
  deriving DecidableEq, Repr

namespace Feed

/-- The feed of a file, from its start on. -/
def ofFile (l : Location) (contents : Bytes) : Feed :=
  { rest := contents, file? := some ⟨l, 0⟩ }

/-- The feed after all but `rest` has been read. -/
def advance (rest : Bytes) (f : Feed) : Feed :=
  { rest
    file? := f.file?.map fun place =>
      { place with offset := place.offset + (f.rest.length - rest.length) } }

/-- Reads at most so many bytes. -/
def take (count : Nat) (f : Feed) : Bytes × Feed :=
  (f.rest.take count, f.advance (f.rest.drop count))

/-- The feed after a file has got other contents. -/
def update (l : Location) (contents : Bytes) (f : Feed) : Feed :=
  match f.file? with
  | some place =>
    if place.location = l then { f with rest := contents.drop place.offset } else f
  | none => f

end Feed
end LineShell
