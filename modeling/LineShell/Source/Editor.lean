/-
Lines from a line editor (`Editor`). What the editor gives is a line, the
end of the input, or a failure that ends the session.

A line goes into the history of the editor unless it is blank.
-/
import LineShell.Library.Editing
import LineShell.Text.Blank

namespace LineShell

/-- Offers a line to the history. -/
def Editor.History.offer (line : String) (h : History) : History :=
  if Text.allBlank line then h else h.add line

-- ============================================================== the source

/-- What an editor reads from. -/
inductive EditorInput
  /-- The standard input, which is not a terminal. -/
  | standard (input : StandardInput)
  /-- A terminal: the keys for one line after the other. -/
  | keys (rows : List String)
  deriving DecidableEq, Repr

/-- A line editor. -/
structure Source.Editor where
  input : EditorInput
  history : Editor.History := []
  deriving DecidableEq, Repr

namespace Source.Editor

/-- What is left to read. -/
def weight (source : Source.Editor) : Nat :=
  match source.input with
  | .standard input => input.size
  | .keys rows => rows.length

/-- Reads without looking at the history afterwards; gives what is left of
the standard input as well. -/
def readInput (source : Source.Editor) (rest : Bytes) : Reading × EditorInput × Bytes :=
  match source.input with
  | .standard input =>
    let (piece, input, rest) := input.takePiece rest
    (Editor.ofPiece piece, .standard input, rest)
  | .keys [] => (.finished, .keys [], rest)
  | .keys (row :: rows) => (Editor.typed source.history {} row.toList, .keys rows, rest)

/-- Reads a line and offers it to the history. -/
def read (source : Source.Editor) (rest : Bytes) : Reading × Source.Editor × Bytes :=
  match source.readInput rest with
  | (.line line, input, rest) => (.line line, ⟨input, source.history.offer line⟩, rest)
  | (reading, input, rest) => (reading, { source with input }, rest)

theorem weight_read_lt (source : Source.Editor) (rest : Bytes)
    (h : (source.read rest).1 ≠ .finished) :
    (source.read rest).2.1.weight < source.weight := by
  have key : (source.readInput rest).1 ≠ .finished →
      (Source.Editor.mk (source.readInput rest).2.1 []).weight < source.weight := by
    rcases source with ⟨input | _ | ⟨row, rows⟩, history⟩
    · intro hne
      refine input.size_takePiece_lt rest fun hend => hne ?_
      simp only [readInput, hend, Editor.ofPiece]
    · simp [readInput]
    · simp [readInput, weight]
  unfold read at h ⊢
  rcases hr : source.readInput rest with ⟨reading, input, after⟩
  rw [hr] at key
  cases reading <;> simp_all [weight]

/-- The editor draws its own prompt and uses only the input of the
console. -/
instance : Source Source.Editor where
  read _ source console :=
    let (reading, source, rest) := source.read console.input.rest
    (reading, source, { console with input := console.input.advance rest })
  size := weight
  size_lt _ source console h := weight_read_lt source console.input.rest h

end Source.Editor
end LineShell
