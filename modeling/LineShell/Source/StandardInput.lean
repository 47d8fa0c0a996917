/-
The standard input of the interpreter, which it shares with the programs
it starts. It reads a block at a time and keeps what it has not used; a
program goes on where the last block ended. So a program finds nothing of
an input that fits into one block.

How much may be read in all is bounded (`left`), so that the input is used
up in finitely many readings, whatever programs do.

Not every failure to read shows. An interrupted reading is made again, and
what cannot be read because it is not open for reading counts as an input
that has ended.
-/
import LineShell.Source.Stream

namespace LineShell

/-- What has been read of the standard input and not used, and how much
may still be read. -/
structure StandardInput where
  buffered : Bytes := []
  left : Nat
  /-- What the first reading fails with. -/
  failure : Option SystemError := none
  deriving DecidableEq, Repr

namespace StandardInput

/-- How much is read at a time. -/
def blockSize : Nat := 8192

/-- A bound for how much an input may grow. -/
def unbounded : Nat := 1 <<< 60

/-- What is left to read. -/
def size (s : StandardInput) : Nat :=
  s.buffered.length + s.left + if s.failure.isSome then 1 else 0

/-- The next block of an input. -/
def block (left : Nat) (input : Bytes) : Bytes :=
  input.take (min blockSize left)

theorem length_block_le (left : Nat) (input : Bytes) : (block left input).length ≤ left := by
  simp only [block, List.length_take]
  omega

/-- Takes the rest of a line, of which `got` has been read; gives what is
left of the input as well. -/
def takeLine (got buffered : Bytes) (left : Nat) (input : Bytes) :
    Piece × StandardInput × Bytes :=
  match buffered.dropWhile (· != Outlet.newline) with
  | _ :: more =>
    (.terminated (got ++ buffered.takeWhile (· != Outlet.newline)),
      { buffered := more, left }, input)
  | [] =>
    if _h : block left input = [] then (.unterminated (got ++ buffered), { left }, input)
    else
      takeLine (got ++ buffered) (block left input) (left - (block left input).length)
        (input.drop (block left input).length)
termination_by left
decreasing_by
  have := List.length_pos_iff.2 _h
  have := length_block_le left input
  omega

/-- Takes the next piece. -/
def takePiece (s : StandardInput) (input : Bytes) : Piece × StandardInput × Bytes :=
  match s.failure with
  | none => takeLine [] s.buffered s.left input
  | some cause =>
    if cause.isInterrupted then takeLine [] s.buffered s.left input
    else if cause == .badDescriptor then (.unterminated [], s, input)
    else (.failed cause, { s with failure := none }, input)

-- ======================================================= pieces get used up

/-- Reading uses something up, unless it gives what had been read. -/
theorem size_takeLine (got buffered : Bytes) (left : Nat) (input : Bytes) :
    (takeLine got buffered left input).2.1.size ≤ buffered.length + left ∧
      ((takeLine got buffered left input).1 ≠ .unterminated got →
        (takeLine got buffered left input).2.1.size < buffered.length + left) := by
  fun_induction takeLine got buffered left input with
  | case1 got buffered left input c more h =>
    have hlen : (buffered.dropWhile (· != Outlet.newline)).length ≤ buffered.length :=
      (List.dropWhile_sublist _).length_le
    rw [h, List.length_cons] at hlen
    simp only [size, Option.isSome_none, Bool.false_eq_true, if_false]
    exact ⟨by omega, fun _ => by omega⟩
  | case2 got buffered left input h hblock =>
    simp only [size, List.length_nil, Option.isSome_none, Bool.false_eq_true, if_false]
    refine ⟨by omega, fun hne => ?_⟩
    have hbuf : buffered ≠ [] := fun hnil => hne (by rw [hnil, List.append_nil])
    have := List.length_pos_iff.2 hbuf
    omega
  | case3 got buffered left input h hblock ih =>
    have hle := length_block_le left input
    refine ⟨by omega, fun hne => ?_⟩
    by_cases hbuf : buffered = []
    · have := ih.2 (by rw [hbuf, List.append_nil]; simpa [hbuf] using hne)
      omega
    · have := List.length_pos_iff.2 hbuf
      omega

/-- A reading that is not the end uses something up. -/
theorem size_takePiece_lt (s : StandardInput) (input : Bytes)
    (h : (s.takePiece input).1 ≠ .unterminated []) :
    (s.takePiece input).2.1.size < s.size := by
  have hsize : s.buffered.length + s.left ≤ s.size := Nat.le_add_right _ _
  unfold takePiece at h ⊢
  cases hfailure : s.failure with
  | none =>
    simp only [hfailure] at h
    exact Nat.lt_of_lt_of_le ((size_takeLine [] s.buffered s.left input).2 h) hsize
  | some cause =>
    simp only [hfailure] at h
    dsimp only
    split at h
    · rename_i hagain
      rw [if_pos hagain]
      exact Nat.lt_of_lt_of_le ((size_takeLine [] s.buffered s.left input).2 h) hsize
    · rename_i hfinal
      rw [if_neg hfinal]
      split at h
      · exact absurd rfl h
      · rename_i hopen
        rw [if_neg hopen]
        simp [size, hfailure]

end StandardInput

/-- Lines of the standard input. The prompts are shown on the output of
the console. -/
structure Source.Standard where
  input : StandardInput
  deriving DecidableEq, Repr

namespace Source.Standard

/-- Shows a prompt on the output of a console; a failure is noted. -/
def showPrompt (prompt : String) (console : Console) : Console :=
  let (error, out) := Stream.announce prompt console.out
  Stream.noteLoss error { console with out }

/-- Shows a prompt and reads a line. -/
def read (prompt : String) (source : Standard) (console : Console) :
    Reading × Standard × Console :=
  let console := showPrompt prompt console
  let (piece, input, rest) := source.input.takePiece console.feed.rest
  (piece.reading, { input }, { console with input := console.feed.advance rest })

instance : Source Standard where
  read := read
  size source := source.input.size
  size_lt prompt source console h := by
    refine StandardInput.size_takePiece_lt source.input (showPrompt prompt console).feed.rest
      fun hend => h ?_
    change Piece.reading (source.input.takePiece (showPrompt prompt console).feed.rest).1 = _
    rw [hend]
    rfl

end Source.Standard
end LineShell
