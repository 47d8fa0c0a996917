/-
Lines of a stream of bytes. The stream arrives in fills, each some bytes
or an error, and a line may begin in one fill and end in another.

A line ends at a newline or at the end of the input. Its newline is not
part of it, and neither is one carriage return before the newline; what
is left is read as UTF-8, bytes that are none replaced. An interrupted
fill is tried again. Any other error is the result of the reading, and
what had been read of the line is lost.

The prompt is written and flushed before anything is read. That this
fails is noted and changes nothing else.
-/
import LineShell.Source

namespace LineShell

/-- What a stream answers when it is asked for more. -/
inductive Fill
  | bytes (contents : Bytes)
  | error (cause : SystemError)
  deriving DecidableEq, Repr

/-- What is left to read in fills. -/
def Fill.weight : List Fill → Nat
  | [] => 0
  | .bytes contents :: fills => contents.length + 1 + weight fills
  | .error _ :: fills => 1 + weight fills

/-- A piece of a stream. -/
inductive Piece
  /-- A line, without its newline. -/
  | terminated (contents : Bytes)
  /-- What there was before the end of the input. -/
  | unterminated (contents : Bytes)
  | failed (cause : SystemError)
  deriving DecidableEq, Repr

/-- Takes the next piece of a stream, of which `got` has been read. -/
def Fill.takePiece (got : Bytes) : List Fill → Piece × List Fill
  | [] => (.unterminated got, [])
  | .error cause :: fills =>
    if cause.isInterrupted then takePiece got fills else (.failed cause, fills)
  | .bytes contents :: fills =>
    match contents.dropWhile (· != Outlet.newline) with
    | [] => takePiece (got ++ contents) fills
    | _ :: more =>
      (.terminated (got ++ contents.takeWhile (· != Outlet.newline)), .bytes more :: fills)

/-- A line without the carriage return at its end. -/
def Piece.dropReturn (line : Bytes) : Bytes :=
  if line.getLast? == some 13 then line.dropLast else line

/-- What a reading gives for a piece. -/
def Piece.reading : Piece → Reading
  | .terminated contents => .line (Utf8.lossy (dropReturn contents))
  | .unterminated [] => .finished
  | .unterminated contents => .line (Utf8.lossy contents)
  | .failed cause => .failed (.inputFailed cause)

-- ======================================================= pieces get used up

theorem Fill.takePiece_weight (got : Bytes) (fills : List Fill) :
    match takePiece got fills with
    | (.unterminated contents, rest) =>
      weight rest ≤ weight fills ∧ (contents ≠ got → weight rest < weight fills)
    | (_, rest) => weight rest < weight fills := by
  fun_induction takePiece got fills with
  | case1 got => simp
  | case2 got cause fills _ ih =>
    split <;> simp_all [weight] <;> omega
  | case3 got cause fills _ => simp [weight]
  | case4 got contents fills h ih =>
    split <;> simp_all [weight] <;> omega
  | case5 got contents fills c more h =>
    have hlen : (contents.dropWhile (· != Outlet.newline)).length ≤ contents.length :=
      (List.dropWhile_sublist _).length_le
    rw [h, List.length_cons] at hlen
    simp only [weight]
    omega

/-- A reading that is not the end uses something up. -/
theorem Fill.weight_takePiece_lt (fills : List Fill)
    (h : (takePiece [] fills).1.reading ≠ .finished) :
    weight (takePiece [] fills).2 < weight fills := by
  have key := takePiece_weight [] fills
  rcases hp : takePiece [] fills with ⟨piece, rest⟩
  rw [hp] at key h
  cases piece with
  | terminated contents => exact key
  | failed cause => exact key
  | unterminated contents =>
    refine key.2 fun hnil => h ?_
    simp [hnil, Piece.reading]

-- ============================================================== the source

/-- A stream of bytes, with an outlet for the prompts; `none` shows them on
the output of the console. -/
structure Source.Stream where
  fills : List Fill
  prompts : Option Outlet := some {}
  deriving DecidableEq, Repr

namespace Source.Stream

/-- Writes a prompt to an outlet and flushes it. -/
def announce (prompt : String) (o : Outlet) : Option SystemError × Outlet :=
  o.write (Bytes.ofText prompt) |> Outlet.andThen Outlet.flush

/-- Notes that a prompt could not be shown, if that is so. -/
def noteLoss (error : Option SystemError) (console : Console) : Console :=
  match error with
  | some error => console.note (.promptLost error)
  | none => console

/-- Shows a prompt; a failure is noted. -/
def showPrompt (prompt : String) (source : Stream) (console : Console) : Stream × Console :=
  match source.prompts with
  | some outlet =>
    let (error, outlet) := announce prompt outlet
    ({ source with prompts := some outlet }, noteLoss error console)
  | none =>
    let (error, out) := announce prompt console.out
    (source, noteLoss error { console with out })

/-- Shows a prompt and reads a line. -/
def read (prompt : String) (source : Stream) (console : Console) :
    Reading × Stream × Console :=
  let (source, console) := source.showPrompt prompt console
  let (piece, fills) := Fill.takePiece [] source.fills
  (piece.reading, { source with fills }, console)

/-- Showing a prompt reads nothing. -/
theorem fills_showPrompt (prompt : String) (source : Stream) (console : Console) :
    (source.showPrompt prompt console).1.fills = source.fills := by
  unfold showPrompt
  split <;> rfl

instance : Source Stream where
  read := read
  size source := Fill.weight source.fills
  size_lt prompt source console h := by
    have hf := fills_showPrompt prompt source console
    simp only [read, hf] at h ⊢
    exact Fill.weight_takePiece_lt source.fills h

end Source.Stream
end LineShell
