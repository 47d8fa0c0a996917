/-
What successive readings of a stream give, said of its bytes and not of
the fills that they arrive in. Errors cut a stream into segments
(`Fill.segments`); an interrupted fill is none of these errors. A segment
is cut at its newlines, and each piece before one is a line. What is
behind the last newline of a segment is lost if an error ended the
segment, and is one more line, unless it is empty, if it is the last
(`Segments.readings`). After that the stream is at its end, for good.

# One piece at a time

What a reading has taken and not given yet (`got`) is a piece without a
newline, and it stands in front of the first segment of what is still to
come. That is the whole invariant: a reading gives the first of the
readings of `got` in front of the segments, and leaves the others
(`readings_takePiece`). Fills only matter for how often `got` grows.
-/
import LineShell.Source.Stream
import Mathlib.Data.List.TakeWhile

namespace LineShell

-- ================================================================ pieces

/-- The pieces of bytes that a newline ends, without it. -/
def Bytes.pieces (bytes : Bytes) : List Bytes :=
  (bytes.splitOn Outlet.newline).dropLast

/-- What there is behind the last newline. -/
def Bytes.remnant (bytes : Bytes) : Bytes :=
  (bytes.splitOn Outlet.newline).getLastD []

/-- Bytes up to the first newline have none. -/
theorem Bytes.newline_not_mem_takeWhile (bytes : Bytes) :
    Outlet.newline ∉ bytes.takeWhile (· != Outlet.newline) := by
  intro hmem
  have hne : (Outlet.newline != Outlet.newline) = true :=
    List.mem_takeWhile_imp (p := (· != Outlet.newline)) hmem
  exact absurd hne (by decide)

/-- Bytes are the part up to the first newline, the newline, and what
comes after it. -/
theorem Bytes.eq_append_newline_of_dropWhile {bytes more : Bytes} {byte : UInt8}
    (h : bytes.dropWhile (· != Outlet.newline) = byte :: more) :
    bytes = bytes.takeWhile (· != Outlet.newline) ++ Outlet.newline :: more := by
  have hbyte : byte = Outlet.newline := by
    have := List.head?_dropWhile_not (· != Outlet.newline) bytes
    rw [h] at this
    simpa using this
  rw [← hbyte, ← h, hbyte, List.takeWhile_append_dropWhile]

/-- Bytes in which no newline is found have none. -/
theorem Bytes.newline_not_mem_of_dropWhile {bytes : Bytes}
    (h : bytes.dropWhile (· != Outlet.newline) = []) : Outlet.newline ∉ bytes := by
  intro hmem
  have hne : (Outlet.newline != Outlet.newline) = true := List.dropWhile_eq_nil_iff.1 h _ hmem
  exact absurd hne (by decide)

theorem Bytes.pieces_of_not_mem {bytes : Bytes} (h : Outlet.newline ∉ bytes) :
    bytes.pieces = [] := by
  rw [pieces, List.splitOn_eq_singleton h]
  rfl

theorem Bytes.remnant_of_not_mem {bytes : Bytes} (h : Outlet.newline ∉ bytes) :
    bytes.remnant = bytes := by
  rw [remnant, List.splitOn_eq_singleton h]
  rfl

theorem Bytes.pieces_append_newline {line : Bytes} (h : Outlet.newline ∉ line)
    (more : Bytes) : Bytes.pieces (line ++ Outlet.newline :: more) = line :: more.pieces := by
  rw [pieces, List.splitOn_append_cons_self_of_not_mem h,
    List.dropLast_cons_of_ne_nil (List.splitOn_ne_nil _ _)]
  rfl

theorem Bytes.remnant_append_newline {line : Bytes} (h : Outlet.newline ∉ line)
    (more : Bytes) : Bytes.remnant (line ++ Outlet.newline :: more) = more.remnant := by
  rw [remnant, List.splitOn_append_cons_self_of_not_mem h]
  unfold remnant
  cases hmore : List.splitOn Outlet.newline more with
  | nil => exact absurd hmore (List.splitOn_ne_nil _ _)
  | cons piece pieces => rfl

-- ============================================================== segments

/-- A stream, cut at its errors: the segments that end in one, in order,
and the one that ends with the input. -/
structure Segments where
  failed : List (Bytes × SystemError) := []
  last : Bytes := []
  deriving DecidableEq, Repr

namespace Segments

/-- Bytes in front of the first segment. -/
def behind (bytes : Bytes) : Segments → Segments
  | ⟨[], last⟩ => ⟨[], bytes ++ last⟩
  | ⟨(segment, cause) :: failed, last⟩ => ⟨(bytes ++ segment, cause) :: failed, last⟩

/-- An error in front of the first segment. -/
def afterError (cause : SystemError) (s : Segments) : Segments :=
  { s with failed := ([], cause) :: s.failed }

/-- The reading of a piece that a newline ended. -/
def lineOf (piece : Bytes) : Reading :=
  .line (Utf8.lossy (Piece.dropReturn piece))

/-- The readings of a segment that an error ended. -/
def failedReadings (segment : Bytes × SystemError) : List Reading :=
  segment.1.pieces.map lineOf ++ [.failed (.inputFailed segment.2)]

/-- The readings of the segment that ends with the input. -/
def lastReadings (last : Bytes) : List Reading :=
  last.pieces.map lineOf
    ++ if last.remnant = [] then [] else [.line (Utf8.lossy last.remnant)]

/-- The readings of a stream up to its end. -/
def readings (s : Segments) : List Reading :=
  s.failed.flatMap failedReadings ++ lastReadings s.last

/-- A stream with these segments, in which each comes in one fill. -/
def fills (s : Segments) : List Fill :=
  s.failed.flatMap (fun segment => [.bytes segment.1, .error segment.2]) ++ [.bytes s.last]

end Segments

/-- The segments of a stream. -/
def Fill.segments : List Fill → Segments
  | [] => {}
  | .bytes contents :: fills => (segments fills).behind contents
  | .error cause :: fills =>
    if cause.isInterrupted then segments fills else (segments fills).afterError cause

namespace Segments

theorem behind_behind (first second : Bytes) (s : Segments) :
    (s.behind second).behind first = s.behind (first ++ second) := by
  rcases s with ⟨_ | ⟨⟨segment, cause⟩, failed⟩, last⟩
  · simp [behind]
  · simp [behind]

theorem behind_nil (s : Segments) : s.behind [] = s := by
  rcases s with ⟨_ | ⟨⟨segment, cause⟩, failed⟩, last⟩
  · rfl
  · rfl

/-- A line in front of the first segment is the first reading. -/
theorem readings_behind_line {line : Bytes} (h : Outlet.newline ∉ line) (more : Bytes)
    (s : Segments) :
    (s.behind (line ++ Outlet.newline :: more)).readings
      = lineOf line :: (s.behind more).readings := by
  rcases s with ⟨_ | ⟨⟨segment, cause⟩, failed⟩, last⟩
  · simp only [behind, readings, lastReadings, List.append_assoc, List.cons_append,
      List.flatMap_nil, List.nil_append, Bytes.pieces_append_newline h,
      Bytes.remnant_append_newline h, List.map_cons]
    rfl
  · simp only [behind, readings, failedReadings, List.append_assoc, List.cons_append,
      List.flatMap_cons, Bytes.pieces_append_newline h, List.map_cons]

/-- A piece that no newline ends is lost with an error. -/
theorem readings_behind_afterError {got : Bytes} (h : Outlet.newline ∉ got)
    (cause : SystemError) (s : Segments) :
    ((s.afterError cause).behind got).readings = .failed (.inputFailed cause) :: s.readings := by
  simp only [behind, afterError, readings, failedReadings, List.append_nil, List.flatMap_cons,
    Bytes.pieces_of_not_mem h, List.map_nil, List.nil_append, List.cons_append]

/-- A piece that no newline ends is a line of its own at the end. -/
theorem readings_behind_nil {got : Bytes} (h : Outlet.newline ∉ got) :
    (behind got {}).readings = if got = [] then [] else [.line (Utf8.lossy got)] := by
  simp only [behind, readings, lastReadings, List.append_nil, List.flatMap_nil,
    List.nil_append, Bytes.pieces_of_not_mem h, Bytes.remnant_of_not_mem h, List.map_nil]

end Segments

/-- A piece is the first reading of what was got in front of the
segments, and what is left of the stream has the other readings. Where
the piece is the end of the input there is nothing on either side. -/
theorem Fill.readings_takePiece (got : Bytes) (hgot : Outlet.newline ∉ got)
    (fills : List Fill) :
    if (takePiece got fills).1.reading = .finished then
      ((segments fills).behind got).readings = [] ∧
        (segments (takePiece got fills).2).readings = []
    else
      ((segments fills).behind got).readings
        = (takePiece got fills).1.reading :: (segments (takePiece got fills).2).readings := by
  -- on the fills; `got` grows only by bytes without a newline
  fun_induction takePiece got fills with
  | case1 got =>
      cases got with
      | nil => exact ⟨rfl, rfl⟩
      | cons byte more =>
          rw [if_neg (by simp [Piece.reading])]
          exact Segments.readings_behind_nil hgot
  | case2 got cause fills hcause ih =>
      rw [segments, if_pos hcause]
      exact ih hgot
  | case3 got cause fills hcause =>
      rw [if_neg (by simp [Piece.reading]), segments, if_neg hcause]
      exact Segments.readings_behind_afterError hgot cause _
  | case4 got contents fills hnone ih =>
      have hcontents := Bytes.newline_not_mem_of_dropWhile hnone
      rw [segments, Segments.behind_behind]
      exact ih (by simp [hgot, hcontents])
  | case5 got contents fills byte more hsome =>
      have hline : Outlet.newline ∉ got ++ contents.takeWhile (· != Outlet.newline) := by
        simp [hgot, Bytes.newline_not_mem_takeWhile contents]
      have hcut : got ++ contents
          = got ++ contents.takeWhile (· != Outlet.newline) ++ Outlet.newline :: more := by
        rw [List.append_assoc, ← Bytes.eq_append_newline_of_dropWhile hsome]
      rw [if_neg (by simp [Piece.reading]), segments, Segments.behind_behind, hcut,
        Segments.readings_behind_line hline]
      rfl

-- ============================================================== prompts

namespace Source.Stream

/-- That a prompt is lost is noted, and that is all. -/
theorem exists_noteLoss (error : Option SystemError) (console : Console) :
    ∃ log, noteLoss error console = { console with log } := by
  cases error with
  | none => exact ⟨console.log, rfl⟩
  | some error => exact ⟨.promptLost error :: console.log, rfl⟩

/-- A stream that shows its prompts elsewhere changes nothing of the console
but the log, and goes on to show them elsewhere. -/
theorem exists_log_read {source : Stream} (h : source.prompts.isSome) (prompt : String)
    (console : Console) :
    (Source.read prompt source console).2.1.prompts.isSome ∧
      ∃ log, (Source.read prompt source console).2.2 = { console with log } := by
  obtain ⟨outlet, hprompts⟩ := Option.isSome_iff_exists.1 h
  simp only [Source.read, read, showPrompt, hprompts]
  exact ⟨rfl, exists_noteLoss _ console⟩

end Source.Stream

-- ======================================================== all readings

namespace Source.Stream

/-- What successive readings give, one for each prompt. -/
def readings (prompts : List String) (source : Stream) (console : Console) : List Reading :=
  match prompts with
  | [] => []
  | prompt :: prompts =>
    let (reading, source, console) := source.read prompt console
    reading :: readings prompts source console

/-- The readings of the segments, and then the end as often as it is
asked for. -/
theorem readings_eq_take (prompts : List String) (source : Stream) (console : Console) :
    readings prompts source console
      = ((Fill.segments source.fills).readings
          ++ List.replicate prompts.length Reading.finished).take prompts.length := by
  -- on the prompts, since a stream that is at its end can be asked for ever
  induction prompts generalizing source console with
  | nil => rfl
  | cons prompt prompts ih =>
      have hpiece := Fill.readings_takePiece [] (by simp) source.fills
      rw [Segments.behind_nil] at hpiece
      simp only [readings, read, fills_showPrompt, ih]
      split at hpiece
      case isTrue hend =>
        obtain ⟨hnone, hrest⟩ := hpiece
        rw [hend, hnone, hrest, List.nil_append, List.nil_append, List.length_cons,
          List.replicate_succ, List.take_succ_cons]
      case isFalse =>
        have hle : prompts.length
            ≤ ((Fill.segments (Fill.takePiece [] source.fills).2).readings
              ++ List.replicate prompts.length Reading.finished).length := by simp
        rw [hpiece, List.cons_append, List.length_cons, List.take_succ_cons,
          List.replicate_succ', ← List.append_assoc, List.take_append_of_le_length hle]

end Source.Stream
end LineShell
