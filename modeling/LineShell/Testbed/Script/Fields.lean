/-
Splitting expanded text into fields.

Only the regions that came from what was replaced are split. A region is
split at the bytes of `IFS`; a region of all arguments between double
quotation marks is split between the arguments only, where a NUL byte
stands.

A blank of `IFS` separates together with the blanks around it, any other
byte of `IFS` on its own with the blanks around it. Blanks at the start
separate nothing.
-/
import LineShell.Testbed.Script.Pattern

namespace LineShell.Script

/-- A region of expanded text that is split. -/
structure Region where
  start : Nat
  stop : Nat
  /-- Whether it is split between arguments only. -/
  argumentsOnly : Bool
  deriving DecidableEq, Repr

/-- Expanded text with its regions, the first one first. -/
structure Expanded where
  glyphs : Array Glyph := #[]
  regions : Array Region := #[]

namespace Expanded

/-- Adds glyphs. -/
def add (glyphs : List Glyph) (x : Expanded) : Expanded :=
  { x with glyphs := x.glyphs ++ glyphs.toArray }

/-- How much text there is. -/
def size (x : Expanded) : Nat := x.glyphs.size

/-- Makes the text from a place on a region. -/
def mark (start : Nat) (argumentsOnly : Bool) (x : Expanded) : Expanded :=
  { x with regions := x.regions.push ⟨start, x.size, argumentsOnly⟩ }

/-- The glyphs from a place on. -/
def since (start : Nat) (x : Expanded) : List Glyph :=
  (x.glyphs.extract start x.size).toList

/-- Takes the text from a place on away, with its regions. -/
def cut (start : Nat) (x : Expanded) : Expanded :=
  { glyphs := x.glyphs.extract 0 start
    regions := (x.regions.filter (·.start < start)).map fun r =>
      { r with stop := min r.stop start } }

/-- The bytes of the text. -/
def bytes (x : Expanded) : Bytes :=
  Glyph.bytes x.glyphs.toList

end Expanded

namespace Fields

/-- The blanks that separate together. -/
def isBlank (b : UInt8) : Bool := b == 32 || b == 9 || b == 10 || b == 0

/-- Splitting, on the way through a text. -/
structure State where
  /-- Where the field begins. -/
  start : Nat := 0
  /-- Whether a blank was the last thing seen. -/
  behindBlank : Bool := false
  /-- Where the separators before the end begin, once no field may begin. -/
  tail : Option Nat := none
  /-- How many fields may still begin; none means any number. -/
  left : Option Nat
  /-- The fields found, the latest first, by their places. -/
  found : List (Nat × Nat) := []

/-- Splits at one byte. -/
def step (ifs : Bytes) (r : Region) (behindArguments : Bool) (s : State) (q : Nat)
    (b : UInt8) : State :=
  let separates := if r.argumentsOnly then b == 0 else ifs.contains b || b == 0
  let isBlank := separates && isBlank b
  if s.left = some 0 then
    if isBlank then { s with tail := some (s.tail.getD q) }
    else
      { s with
        tail := if separates && s.behindBlank then s.tail else none
        behindBlank := false }
  else
    let goOn (s : State) (q : Nat) (separates : Bool) : State :=
      if !separates then { s with behindBlank := false }
      else
        let s := if behindArguments || r.argumentsOnly then s else { s with behindBlank := isBlank }
        if q = s.start && s.behindBlank then { s with start := q + 1, behindBlank := false }
        else
          match s.left with
          | some (left + 1) =>
            if left = 0 then { s with left := some 0, tail := some q }
            else { s with left := some left, found := (s.start, q) :: s.found, start := q + 1 }
          | _ => { s with found := (s.start, q) :: s.found, start := q + 1 }
    if s.behindBlank then
      let q := if separates then q + 1 else q
      let s := { s with start := q }
      if isBlank then s else goOn s q false
    else goOn s q separates

/-- Splits a region. -/
def splitRegion (ifs : Bytes) (glyphs : Array Glyph) (behindArguments : Bool) (s : State)
    (r : Region) : State :=
  (List.range (r.stop - r.start)).foldl (fun s i =>
    match glyphs[r.start + i]? with
    | some (.byte b _) => step ifs r behindArguments s (r.start + i) b
    | _ => s) { s with behindBlank := false }

/-- The fields of a text, at most so many if a number is given. What is
left for the last field has its separators still, but not those at the
end. -/
def split (ifs : Bytes) (limit : Option Nat) (x : Expanded) : List (List Glyph) :=
  let (s, last) := x.regions.foldl (fun (s, behindArguments) r =>
    (splitRegion ifs x.glyphs behindArguments s r, r.argumentsOnly))
    (({ left := limit } : State), false)
  let stop := s.tail.getD x.size
  let found := if last || s.start < stop then (s.start, stop) :: s.found else s.found
  found.reverse.map fun (start, stop) => (x.glyphs.extract start stop).toList

end Fields
end LineShell.Script
