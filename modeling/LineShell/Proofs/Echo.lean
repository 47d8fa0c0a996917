/-
What `echo` does with the words of its line. It prints them with a space
between each two, so of the gaps of the line nothing is left but that there
were some, and of the words everything is left: what is printed has the same
words as the line had behind `echo` (`Words.ofLine_intercalate`). Printed
again, it is the same.

There is one word that `echo` does not print, a `-n` in front of the others;
it keeps the line open. Behind it, and anywhere else, `-n` is a word.
-/
import LineShell.Proofs.Conduct
import LineShell.Proofs.Encoding
import LineShell.Proofs.Outlet
import LineShell.Proofs.Words

namespace LineShell

variable {spawn : Spawner}

namespace Builtin

/-- Words with a space between each two. -/
def joined (words : List String) : Bytes :=
  Bytes.ofText (" ".intercalate words)

theorem echoWords_of_head {words : List String} (h : words.head? ≠ some "-n") :
    echoWords words = (words, true) := by
  unfold echoWords
  split
  · exact absurd rfl h
  · rfl

/-- Without a `-n` in front `echo` prints all of its words, and a line end. -/
theorem echo_of_head {rest : List String} (h : rest.head? ≠ some "-n") (s : Session) :
    echo ("echo" :: rest) s = s.print [joined rest, lineEnd] := by
  unfold echo
  rw [show ("echo" :: rest).drop 1 = rest from rfl, echoWords_of_head h]
  rfl

/-- With one it prints the others, and none. -/
theorem echo_of_open (words : List String) (s : Session) :
    echo ("echo" :: "-n" :: words) s = s.print [joined words] :=
  rfl

/-- The pieces that are printed for a line are those of its text. -/
theorem ofText_printed (words : List String) :
    Bytes.ofText (" ".intercalate words ++ "\n") = [joined words, lineEnd].flatten := by
  rw [Bytes.ofText_append, List.flatten_cons, List.flatten_singleton]
  rfl

end Builtin

namespace Words

/-- The words of what `echo` prints. -/
theorem ofLine_printed {words : List String} (h : ∀ word ∈ words, IsWord word) :
    ofLine (" ".intercalate words ++ "\n") = words := by
  rw [ofLine_append_gap _ (by simp [IsGap, IsGapChar]), ofLine_intercalate h]

/-- It is what `echo` has to be given to print it. -/
theorem ofLine_echo_printed {words : List String} (h : ∀ word ∈ words, IsWord word) :
    ofLine ("echo " ++ (" ".intercalate words ++ "\n")) = "echo" :: words := by
  have hecho : ∀ word ∈ "echo" :: words, IsWord word := by
    intro word hword
    rcases List.mem_cons.1 hword with rfl | hword
    · exact ⟨by decide, by simp [IsGapChar]⟩
    · exact h word hword
  have hline : "echo " ++ " ".intercalate words = " ".intercalate ("echo" :: words)
      ∨ words = [] := by
    cases words with
    | nil => exact .inr rfl
    | cons word words =>
        rw [String.intercalate_cons_cons]
        exact .inl rfl
  rw [← String.append_assoc, ofLine_append_gap _ (by simp [IsGap, IsGapChar])]
  rcases hline with hline | rfl
  · rw [hline, ofLine_intercalate hecho]
  · decide

end Words

namespace Session

/-- A line that goes on, after it has written these bytes. -/
def Prints (spawn : Spawner) (line : String) (s : Session) (bytes : Bytes) : Prop :=
  (s.runLine spawn line).1 = .goOn ∧
    (s.runLine spawn line).2.console.out.written = s.console.out.written ++ bytes

/-- A line that begins with `echo` does as `echo` does with its words. -/
theorem prints_of_echo {line : String} {rest : List String}
    (hline : Words.ofLine line = "echo" :: rest) {s : Session} (hout : s.console.out.TakesAll)
    {pieces : List Bytes}
    (hecho : ∀ t : Session, Builtin.echo ("echo" :: rest) t = t.print pieces) :
    s.Prints spawn line pieces.flatten := by
  obtain ⟨hnone, hwritten, -⟩ := hout.print pieces
  have hrun : s.runLine spawn line = (.goOn, ((s.split line).2.begun "echo").printed pieces) := by
    show (s.split line).2.runWords spawn (Words.ofLine line) = _
    rw [hline]
    exact (hecho _).trans (print_of_taken hnone)
  unfold Prints
  rw [hrun]
  exact ⟨rfl, hwritten⟩

/-- On an output that takes everything, `echo` goes on and loses none of its
words. If there is no `-n` in front of them, what it prints is a line with
these words and no others, which has `echo` print the same again. If there is
one, it prints what is behind it, whatever that is, and leaves the line
open. -/
theorem echo_loses_no_word {line : String} {rest : List String}
    (hline : Words.ofLine line = "echo" :: rest) {s : Session} (hout : s.console.out.TakesAll) :
    (rest.head? ≠ some "-n" → ∃ printed : Bytes,
      printed = Bytes.ofText (" ".intercalate rest ++ "\n") ∧ s.Prints spawn line printed ∧
        Words.ofLine (Utf8.lossy printed) = rest ∧
        ∀ t : Session, t.console.out.TakesAll →
          t.Prints spawn ("echo " ++ Utf8.lossy printed) printed) ∧
      ∀ words, rest = "-n" :: words →
        s.Prints spawn line (Bytes.ofText (" ".intercalate words)) := by
  have hrest : ∀ word ∈ rest, Words.IsWord word := by
    intro word hword
    have hmem : word ∈ Words.ofLine line := by
      rw [hline]
      exact List.mem_cons_of_mem _ hword
    exact Words.isWord_of_mem_ofLine hmem
  refine ⟨fun hhead => ⟨_, rfl, ?_, ?_, fun t ht => ?_⟩, ?_⟩
  · rw [Builtin.ofText_printed]
    exact prints_of_echo hline hout (Builtin.echo_of_head hhead)
  · rw [Utf8.lossy_ofText]
    exact Words.ofLine_printed hrest
  · rw [Utf8.lossy_ofText, Builtin.ofText_printed]
    exact prints_of_echo (Words.ofLine_echo_printed hrest) ht (Builtin.echo_of_head hhead)
  · rintro words rfl
    have hprints : s.Prints spawn line [Bytes.ofText (" ".intercalate words)].flatten :=
      prints_of_echo hline hout (Builtin.echo_of_open words)
    rwa [List.flatten_singleton] at hprints

/-- Of two gaps a space each is left, and a second `-n` is a word like
another. -/
theorem echo_loses_no_word_dashes :
    let spawn : Spawner := fun _ _ => .error .noEntry
    let s : Session :=
      { machine := { files := .empty, workingDirectory := ⟨[], 0⟩ }
        environment := { directory := [47] } }
    Words.ofLine " echo\ta  -n\r\n" = ["echo", "a", "-n"] ∧
      Words.ofLine "echo -n -n --help" = ["echo", "-n", "-n", "--help"] ∧
      s.console.out.TakesAll ∧
      s.Prints spawn " echo\ta  -n\r\n" (Bytes.ofText "a -n\n") ∧
      s.Prints spawn "echo -n -n --help" (Bytes.ofText "-n --help") := by
  intro spawn s
  have hline : Words.ofLine " echo\ta  -n\r\n" = ["echo", "a", "-n"] := by decide
  have hopen : Words.ofLine "echo -n -n --help" = ["echo", "-n", "-n", "--help"] := by decide
  have hout : s.console.out.TakesAll := ⟨⟨rfl, by simp [s]⟩, fun _ => rfl⟩
  obtain ⟨printed, rfl, hprints, -⟩ := (echo_loses_no_word hline hout).1 (by decide)
  exact ⟨hline, hopen, hout, hprints, (echo_loses_no_word hopen hout).2 _ rfl⟩

end Session
end LineShell
