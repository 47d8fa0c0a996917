/-
The lines of the standard input, which is read block by block. Where the
blocks end does not show in what is read: a reading gives the first line of
what is buffered and what is still to come, and leaves the others
(`StandardInput.takePiece_spec`), as long as it may read on to the end.

# Lines that are not decoded

A line is told here by its bytes, without its end (`Bytes.rawLines`). Decoding
comes afterwards, for each source in its own way. Bytes are UTF-8 if every one
of their lines is (`Bytes.isText_iff`), since the ends of lines are ASCII.
-/
import LineShell.Proofs.Lines
import LineShell.Source.StandardInput

namespace LineShell

-- =============================================================== raw lines

namespace Bytes

/-- The lines of bytes, not decoded. -/
def rawLines (bytes : Bytes) : List Bytes :=
  bytes.pieces.map Piece.dropReturn ++ if bytes.remnant = [] then [] else [bytes.remnant]

theorem lines_eq_rawLines (bytes : Bytes) : bytes.lines = bytes.rawLines.map Utf8.lossy := by
  unfold lines rawLines
  rw [List.map_append, List.map_map]
  split
  · rfl
  · rfl

theorem rawLines_of_not_mem {bytes : Bytes} (h : Outlet.newline ∉ bytes) :
    bytes.rawLines = if bytes = [] then [] else [bytes] := by
  unfold rawLines
  rw [pieces_of_not_mem h, remnant_of_not_mem h, List.map_nil, List.nil_append]

theorem rawLines_append_newline {line : Bytes} (h : Outlet.newline ∉ line) (more : Bytes) :
    Bytes.rawLines (line ++ Outlet.newline :: more)
      = Piece.dropReturn line :: more.rawLines := by
  unfold rawLines
  rw [pieces_append_newline h, remnant_append_newline h, List.map_cons, List.cons_append]

/-- A line has no bytes but those of the input. -/
theorem mem_of_mem_dropReturn {line : Bytes} {byte : UInt8}
    (h : byte ∈ Piece.dropReturn line) : byte ∈ line := by
  unfold Piece.dropReturn at h
  split at h
  · exact List.dropLast_subset line h
  · exact h

theorem mem_of_mem_rawLines {bytes raw : Bytes} {byte : UInt8} (hraw : raw ∈ bytes.rawLines)
    (h : byte ∈ raw) : byte ∈ bytes := by
  induction bytes using line_induction with
  | @last bytes hlast =>
      rw [rawLines_of_not_mem hlast] at hraw
      split at hraw
      · cases hraw
      · rwa [List.mem_singleton.1 hraw] at h
  | @line line more hline ih =>
      rw [rawLines_append_newline hline] at hraw
      rcases List.mem_cons.1 hraw with rfl | hraw
      · exact List.mem_append_left _ (mem_of_mem_dropReturn h)
      · exact List.mem_append_right line (List.mem_cons_of_mem _ (ih hraw))

-- ================================================================ decoding

/-- Whether bytes are UTF-8. -/
def isText (bytes : Bytes) : Bool :=
  (Utf8.Decoder.run bytes).sound

theorem decode?_eq (bytes : Bytes) :
    Utf8.decode? bytes = if bytes.isText then some (Utf8.lossy bytes) else none :=
  rfl

/-- Around an ASCII byte both sides are UTF-8, or the whole is not. -/
theorem isText_append (front back : Bytes) {byte : UInt8} (h : byte < 0x80) :
    isText (front ++ byte :: back) = (front.isText && back.isText) := by
  unfold isText
  rw [Utf8.Decoder.run_append front back h, Bool.and_comm]
  rfl

theorem isText_dropReturn (line : Bytes) : isText (Piece.dropReturn line) = line.isText := by
  unfold Piece.dropReturn
  split
  · rename_i hreturn
    obtain ⟨front, rfl⟩ := List.getLast?_eq_some_iff.1 (by simpa using hreturn)
    have hwhole : isText (front ++ [13]) = (isText front && isText []) :=
      isText_append front [] (by decide)
    rw [List.dropLast_concat, hwhole, show isText [] = true from rfl, Bool.and_true]
  · rfl

/-- Bytes are UTF-8 if each of their lines is. -/
theorem isText_iff (bytes : Bytes) : bytes.isText ↔ ∀ raw ∈ bytes.rawLines, raw.isText := by
  induction bytes using line_induction with
  | @last bytes hlast =>
      rw [rawLines_of_not_mem hlast]
      split
      · rename_i hnil
        subst hnil
        simp [show isText [] = true from rfl]
      · simp
  | @line line more hline ih =>
      rw [rawLines_append_newline hline, isText_append line more (by decide), Bool.and_eq_true,
        ih, List.forall_mem_cons, isText_dropReturn]

end Bytes

-- ============================================================= one reading

/-- The line that a piece is, not decoded. -/
def Piece.raw? : Piece → Option Bytes
  | .terminated contents => some (dropReturn contents)
  | .unterminated [] => none
  | .unterminated contents => some contents
  | .failed _ => none

/-- What a reading gives for the line that a piece is. -/
theorem Piece.reading_of_raw? {piece : Piece} (h : ∀ cause, piece ≠ .failed cause) :
    piece.reading = (piece.raw?.map fun raw => Reading.line (Utf8.lossy raw)).getD .finished := by
  cases piece with
  | terminated contents => rfl
  | unterminated contents =>
      cases contents with
      | nil => rfl
      | cons byte bytes => rfl
  | failed cause => exact absurd rfl (h cause)

namespace StandardInput

/-- The input can be read. That the first reading may be interrupted does not
matter. -/
def Readable (s : StandardInput) : Prop :=
  ∀ cause ∈ s.failure, cause.isInterrupted

theorem Readable.of_none {s : StandardInput} (h : s.failure = none) : s.Readable := by
  rw [Readable, h]
  exact nofun

theorem takePiece_of_readable {s : StandardInput} (h : s.Readable) (input : Bytes) :
    s.takePiece input = takeLine [] s.buffered s.left input := by
  unfold takePiece
  cases hfailure : s.failure with
  | none => rfl
  | some cause => exact if_pos (h cause hfailure)

/-- What is buffered and what is still to come have these lines, and all of
it may be read. -/
structure Holds (s : StandardInput) (input : Bytes) (raws : List Bytes) : Prop where
  lines : Bytes.rawLines (s.buffered ++ input) = raws
  enough : input.length ≤ s.left
  readable : s.Readable

/-- A reading has given the first line that there is, or none, and the others
are held. -/
structure Gives (raws : List Bytes) (piece : Piece) (s : StandardInput) (input : Bytes) : Prop where
  raw : piece.raw? = raws.head?
  rest : s.Holds input raws.tail
  sound : ∀ cause, piece ≠ .failed cause

/-- A line that fills the first block with its newline is all that is read. -/
theorem takePiece_of_block {line : Bytes} (hline : Outlet.newline ∉ line)
    (hblock : line.length + 1 = blockSize) {left : Nat} (hleft : blockSize ≤ left) (more : Bytes) :
    takePiece { left } (line ++ Outlet.newline :: more)
      = (.terminated line, { left := left - blockSize }, more) := by
  have hfirst : block left (line ++ Outlet.newline :: more) = line ++ [Outlet.newline] := by
    unfold block
    rw [Nat.min_eq_left hleft, ← hblock, List.append_cons]
    exact List.take_left' (by simp)
  have hall : ∀ byte ∈ line, (byte != Outlet.newline) = true := by
    intro byte hbyte
    exact bne_iff_ne.2 fun heq => hline (heq ▸ hbyte)
  have hrest : (line ++ Outlet.newline :: more).drop (line ++ [Outlet.newline]).length = more := by
    rw [List.append_cons line Outlet.newline more]
    exact List.drop_left
  unfold takePiece
  rw [takeLine, List.dropWhile_nil]
  dsimp only
  rw [dif_neg (by simp [hfirst]), hfirst, hrest, takeLine, List.length_append,
    List.length_singleton, hblock, List.dropWhile_append_of_pos hall,
    List.takeWhile_append_of_pos hall]
  simp

theorem readable_takeLine (got buffered : Bytes) (left : Nat) (input : Bytes) :
    (takeLine got buffered left input).2.1.failure = none ∧
      ∀ cause, (takeLine got buffered left input).1 ≠ .failed cause := by
  fun_induction takeLine got buffered left input with
  | case1 | case2 =>
      refine ⟨rfl, fun cause h => ?_⟩
      cases h
  | case3 got buffered left input hnone hblock ih => exact ih

/-- Only the first reading fails. -/
theorem readable_takePiece {s : StandardInput} (h : s.Readable) (input : Bytes) :
    (s.takePiece input).2.1.Readable ∧ ∀ cause, (s.takePiece input).1 ≠ .failed cause := by
  rw [takePiece_of_readable h]
  obtain ⟨hnone, hsound⟩ := readable_takeLine [] s.buffered s.left input
  exact ⟨.of_none hnone, hsound⟩

/-- What has been read of a line stands in front of what is buffered. -/
theorem takeLine_spec {got buffered : Bytes} (left : Nat) {input : Bytes}
    (hgot : Outlet.newline ∉ got) (hleft : input.length ≤ left) :
    Gives (Bytes.rawLines (got ++ (buffered ++ input))) (takeLine got buffered left input).1
      (takeLine got buffered left input).2.1 (takeLine got buffered left input).2.2 := by
  -- on the blocks; `got` grows only by bytes without a newline
  fun_induction takeLine got buffered left input with
  | case1 got buffered left input byte more hsome =>
      have hline : Outlet.newline ∉ got ++ buffered.takeWhile (· != Outlet.newline) := by
        simp [hgot, Bytes.newline_not_mem_takeWhile buffered]
      have hcut : got ++ (buffered ++ input)
          = got ++ buffered.takeWhile (· != Outlet.newline)
            ++ Outlet.newline :: (more ++ input) := by
        conv_lhs => rw [Bytes.eq_append_newline_of_dropWhile hsome]
        simp
      rw [hcut, Bytes.rawLines_append_newline hline]
      exact ⟨rfl, ⟨rfl, hleft, .of_none rfl⟩, by simp⟩
  | case2 got buffered left input hnone hblock =>
      have hbuffered := Bytes.newline_not_mem_of_dropWhile hnone
      have hinput : input = [] := by
        -- there was something to read if there had been input
        unfold block at hblock
        rcases List.take_eq_nil_iff.1 hblock with hzero | hnil
        · have hsize : 0 < blockSize := by decide
          exact List.eq_nil_of_length_eq_zero (by omega)
        · exact hnil
      subst hinput
      have hline : Outlet.newline ∉ got ++ buffered := by simp [hgot, hbuffered]
      rw [List.append_nil, Bytes.rawLines_of_not_mem hline]
      refine ⟨?_, ⟨?_, Nat.zero_le _, .of_none rfl⟩, by simp⟩
      · cases hall : got ++ buffered with
        | nil => rfl
        | cons byte bytes => rfl
      · split
        · rfl
        · rfl
  | case3 got buffered left input hnone hblock ih =>
      have hbuffered := Bytes.newline_not_mem_of_dropWhile hnone
      have hcut : block left input ++ input.drop (block left input).length = input := by
        unfold block
        rw [List.length_take]
        conv_rhs => rw [← List.take_append_drop (min blockSize left) input]
        congr 1
        by_cases hlong : min blockSize left ≤ input.length
        · rw [Nat.min_eq_left hlong]
        · rw [Nat.min_eq_right (by omega), List.drop_length, List.drop_eq_nil_of_le (by omega)]
      have hgives := ih (by simp [hgot, hbuffered]) (by
        rw [List.length_drop]
        omega)
      rw [hcut, List.append_assoc] at hgives
      exact hgives

/-- A reading of the standard input gives its first line, and leaves the
others. -/
theorem takePiece_spec {s : StandardInput} {input : Bytes} {raws : List Bytes}
    (h : s.Holds input raws) :
    Gives raws (s.takePiece input).1 (s.takePiece input).2.1 (s.takePiece input).2.2 := by
  rw [takePiece_of_readable h.readable, ← h.lines]
  exact takeLine_spec s.left List.not_mem_nil h.enough

end StandardInput
end LineShell
