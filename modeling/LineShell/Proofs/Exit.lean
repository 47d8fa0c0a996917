/-
How a session ends that reads a stream without errors: with its first
line that begins with the word `exit`, or with its input. Nothing else that
a command can be or do ends it, fails it or makes it pass over a line; the
verdict `leave` is that of `exit` and of no other command, whatever follows
the word (`verdict_eq_leave_iff`).

So of a turn of the loop no more is left than this: there is a line, and it
asks to leave or not, or there is none. The loop of such a stream is a
recursion over the lines of its bytes (`turns_of_lines`), and what is
dispatched, what is read and which prompts are shown is each said of the
lines up to the one that leaves (`untilExit`).
-/
import LineShell.Proofs.Conduct
import LineShell.Proofs.Dialogue
import LineShell.Proofs.Dispatch
import LineShell.Proofs.Lines

namespace LineShell

-- =========================================================== asking to leave

/-- Whether a line asks to leave: its first word is `exit`. -/
def asksToLeave (line : String) : Bool :=
  (Words.ofLine line).head? == some "exit"

/-- Lines up to the first that asks to leave, which is the last of them. -/
def untilExit : List String → List String
  | [] => []
  | line :: lines => if asksToLeave line then [line] else line :: untilExit lines

/-- What is read of lines: those up to the first that asks to leave, and the
end of the input if there is none. -/
def readingsUntilExit (lines : List String) : List Reading :=
  (untilExit lines).map Reading.line ++ if lines.any asksToLeave then [] else [.finished]

/-- The commands of lines. Blank lines have none. -/
def commandsOf (lines : List String) : List (List String) :=
  (lines.map Words.ofLine).filter (· ≠ [])

theorem untilExit_of_leaves {line : String} (h : asksToLeave line) (lines : List String) :
    untilExit (line :: lines) = [line] := by
  rw [untilExit, if_pos h]

theorem untilExit_of_stays {line : String} (h : ¬asksToLeave line) (lines : List String) :
    untilExit (line :: lines) = line :: untilExit lines := by
  rw [untilExit, if_neg h]

theorem Verdict.goesOn_iff {verdict : Verdict} : verdict.goesOn = true ↔ verdict ≠ .leave := by
  cases verdict <;> decide

namespace Session

variable {spawn : Spawner}

/-- A command leaves if it is `exit`, and only then. -/
theorem verdict_eq_leave_iff (spawn : Spawner) (words : List String) (s : Session) :
    (s.runWords spawn words).1 = .leave ↔ words.head? = some "exit" := by
  have hconduct := conduct_runWords spawn words s
  generalize s.runWords spawn words = ended at hconduct
  rcases ended with ⟨verdict, s'⟩
  have hprinting : ∀ {name : String}, name ∈ Builtin.printing → name ≠ "exit" := by
    rintro name hname rfl
    exact absurd hname (by decide)
  have hprogram : ∀ {name : String}, Builtin.named? name = none → name ≠ "exit" := by
    rintro name hname rfl
    cases hname
  cases hconduct with
  | idle => simp
  | left rest => simp
  | printed rest pieces hname hprint => simpa using hprinting hname
  | notPrinted rest pieces hname hprint => simpa using hprinting hname
  | @refused name rest _ form message hform hread =>
      have hname : name ≠ "exit" := by
        rintro rfl
        cases hform
      simpa using hname
  | moved hcd hgoal => simp
  | notMoved hfault => simp
  | notFlushed rest hname hflush => simpa using hprogram hname
  | notFound rest hname hflush hfind => simpa using hprogram hname
  | notStarted hname hflush hfind hrequest hspawn => simpa using hprogram hname
  | ran hname hflush hfind hrequest hspawn => simpa using hprogram hname

/-- After a line it goes on, unless the line asks to leave. -/
theorem goesOn_runLine_iff (spawn : Spawner) (line : String) (s : Session) :
    (s.runLine spawn line).1.goesOn = true ↔ ¬asksToLeave line := by
  have hverdict := verdict_eq_leave_iff spawn (s.split line).1 (s.split line).2
  rw [Verdict.goesOn_iff, asksToLeave, beq_iff_eq]
  exact not_congr hverdict

end Session

-- ============================================================ single reads

/-- What is left of a stream without errors has none. -/
theorem Fill.flows_takePiece {fills : List Fill} (got : Bytes) (h : Flows fills) :
    Flows (takePiece got fills).2 := by
  fun_induction takePiece got fills with
  | case1 => exact h
  | case2 got cause fills hcause ih =>
      exact ih fun other hmem => h other (List.mem_cons_of_mem _ hmem)
  | case3 got cause fills hcause =>
      exact fun other hmem => h other (List.mem_cons_of_mem _ hmem)
  | case4 got contents fills hnone ih =>
      exact ih fun other hmem => h other (List.mem_cons_of_mem _ hmem)
  | case5 got contents fills byte more hsome =>
      intro cause hmem
      rcases List.mem_cons.1 hmem with heq | hmem
      · cases heq
      · exact h cause (List.mem_cons_of_mem _ hmem)

namespace Source.Stream

/-- The lines that are still to come of a stream. -/
def lines (source : Stream) : List String :=
  (Fill.contents source.fills).lines

/-- A reading of a stream without errors gives the first of its lines and
leaves the others; if there are none it gives the end of the input. -/
theorem read_of_flows {source source' : Stream} {prompt : String} {console console' : Console}
    {reading : Reading}
    (h : Source.read prompt source console = (reading, source', console'))
    (hflows : Fill.Flows source.fills) :
    Fill.Flows source'.fills ∧
      (source.lines = [] ∧ reading = .finished ∨
        ∃ line, source.lines = line :: source'.lines ∧ reading = .line line) := by
  have hfills := fills_showPrompt prompt source console
  have hreading : (Fill.takePiece [] source.fills).1.reading = reading := by
    rw [← hfills]
    exact congrArg (fun read => read.1) h
  have hrest : (Fill.takePiece [] source.fills).2 = source'.fills := by
    rw [← hfills]
    exact congrArg (fun read => read.2.1.fills) h
  have hflows' : Fill.Flows source'.fills := by
    rw [← hrest]
    exact Fill.flows_takePiece [] hflows
  have hpiece := Fill.readings_takePiece [] (by simp) source.fills
  rw [Segments.behind_nil, hreading, hrest, Fill.readings_of_flows hflows,
    Fill.readings_of_flows hflows'] at hpiece
  refine ⟨hflows', ?_⟩
  split at hpiece
  · rename_i hend
    exact .inl ⟨List.map_eq_nil_iff.1 hpiece.1, hend⟩
  · obtain ⟨line, lines, hsplit, hline, hlines⟩ := List.map_eq_cons_iff.1 hpiece
    have hinj : Function.Injective Reading.line := fun _ _ heq => Reading.line.inj heq
    have hsame := List.map_injective_iff.2 hinj hlines
    exact .inr ⟨line, hsplit.trans (congrArg (line :: ·) hsame), hline.symm⟩

/-- A stream shows its prompt in every reading. -/
theorem prompts_of_read {source source' : Stream} {prompt : String}
    {console console' : Console} {reading : Reading}
    (h : Source.read prompt source console = (reading, source', console')) :
    source'.prompts = source.prompts.map fun outlet => (announce prompt outlet).2 := by
  have hshown : (source.showPrompt prompt console).1.prompts = source'.prompts :=
    congrArg (fun read => read.2.1.prompts) h
  rw [← hshown]
  unfold showPrompt
  cases hprompts : source.prompts with
  | none => exact hprompts
  | some outlet => rfl

/-- An outlet to which a prompt was announced so often. -/
def announced (prompt : String) : Nat → Outlet → Outlet
  | 0, outlet => outlet
  | count + 1, outlet => announced prompt count (announce prompt outlet).2

end Source.Stream

-- ============================================================== all lines

namespace Session

variable {spawn : Spawner}

/-- Induction along the turns of a loop that reads a stream without errors:
there is no line, or one that asks to leave, or one after which there is
another turn. -/
theorem turns_of_lines (spawn : Spawner)
    {motive : (source : Source.Stream) → Session → Fill.Flows source.fills → Prop}
    (finished : ∀ {source source' : Source.Stream} {s : Session} {console : Console}
        (hflows : Fill.Flows source.fills),
      Source.read s.prompt source s.console = (.finished, source', console) →
      source.lines = [] → motive source s hflows)
    (leaves : ∀ {source source' : Source.Stream} {s : Session} {console : Console}
        {line : String} (hflows : Fill.Flows source.fills),
      Source.read s.prompt source s.console = (.line line, source', console) →
      source.lines = line :: source'.lines → asksToLeave line → motive source s hflows)
    (goesOn : ∀ {source source' : Source.Stream} {s : Session} {console : Console}
        {line : String} (hflows : Fill.Flows source.fills) (hflows' : Fill.Flows source'.fills),
      Source.read s.prompt source s.console = (.line line, source', console) →
      source.lines = line :: source'.lines → ¬asksToLeave line →
      motive source' (({ s with console } : Session).runLine spawn line).2 hflows' →
        motive source s hflows)
    (source : Source.Stream) (s : Session) (hflows : Fill.Flows source.fills) :
    motive source s hflows := by
  induction source, s using turn_induction (σ := Source.Stream) spawn with
  | finished h =>
      obtain ⟨-, hnone | ⟨line, -, hline⟩⟩ := Source.Stream.read_of_flows h hflows
      · exact finished hflows h hnone.1
      · cases hline
  | fatal hfault h =>
      obtain ⟨-, hnone | ⟨line, -, hline⟩⟩ := Source.Stream.read_of_flows h hflows
      · cases hnone.2
      · cases hline
  | survived hfault h ih =>
      obtain ⟨-, hnone | ⟨line, -, hline⟩⟩ := Source.Stream.read_of_flows h hflows
      · cases hnone.2
      · cases hline
  | leaves h hleave =>
      obtain ⟨-, hnone | ⟨line, hlines, hline⟩⟩ := Source.Stream.read_of_flows h hflows
      · cases hnone.2
      · cases hline
        rw [goesOn_runLine_iff, not_not] at hleave
        exact leaves hflows h hlines hleave
  | goesOn h hgo ih =>
      obtain ⟨hflows', hnone | ⟨line, hlines, hline⟩⟩ := Source.Stream.read_of_flows h hflows
      · cases hnone.2
      · cases hline
        exact goesOn hflows hflows' h hlines ((goesOn_runLine_iff spawn _ _).1 hgo) (ih hflows')

/-- The loop ends well. -/
theorem result_of_flows (source : Source.Stream) (s : Session)
    (hflows : Fill.Flows source.fills) : (s.converse spawn source).result = .ok () := by
  induction source, s, hflows using turns_of_lines spawn with
  | finished _ h hlines => rw [converse_of_finished h]
  | leaves _ h hlines hleave =>
      rw [converse_of_line_leaves h (by rwa [goesOn_runLine_iff, not_not])]
  | goesOn _ hflows' h hlines hstay ih =>
      rw [converse_of_line_goesOn h ((goesOn_runLine_iff spawn _ _).2 hstay)]
      exact ih

/-- The words of a line are those of its command. -/
theorem words_dispatched (line : String) (s : Session) :
    (s.dispatched spawn line).map Dispatch.words = commandsOf [line] := by
  have hwords : (s.split line).1 = Words.ofLine line := rfl
  unfold dispatched commandsOf
  rw [hwords, List.map_singleton]
  cases Words.ofLine line with
  | nil => rfl
  | cons word words => rfl

/-- The commands are those of the lines up to the one that leaves. -/
theorem words_dispatches (source : Source.Stream) (s : Session)
    (hflows : Fill.Flows source.fills) :
    (Loop.dispatches spawn ⟨.asking, source, s⟩).map Dispatch.words
      = commandsOf (untilExit source.lines) := by
  induction source, s, hflows using turns_of_lines spawn with
  | finished _ h hlines =>
      rw [Loop.dispatches_of_finished h, hlines]
      rfl
  | leaves _ h hlines hleave =>
      rw [Loop.dispatches_of_line h, if_neg (by rwa [goesOn_runLine_iff, not_not]),
        List.append_nil, words_dispatched, hlines, untilExit_of_leaves hleave]
  | goesOn _ hflows' h hlines hstay ih =>
      rw [Loop.dispatches_of_line h, if_pos ((goesOn_runLine_iff spawn _ _).2 hstay),
        List.map_append, words_dispatched, ih, hlines, untilExit_of_stays hstay]
      simp only [commandsOf, List.map_cons, List.map_nil, List.filter_cons, List.filter_nil]
      split
      · rfl
      · rfl

/-- What is read are those lines, and the end of the input if none of them
leaves. -/
theorem readings_of_flows (spawn : Spawner) (source : Source.Stream) (s : Session)
    (hflows : Fill.Flows source.fills) :
    (readAndRun spawn source s).readings = readingsUntilExit source.lines := by
  induction source, s, hflows using turns_of_lines spawn with
  | finished _ h hlines =>
      rw [readAndRun_of_finished h, hlines]
      rfl
  | leaves _ h hlines hleave =>
      rw [readAndRun_of_line_leaves h (by rwa [goesOn_runLine_iff, not_not]), hlines,
        readingsUntilExit, untilExit_of_leaves hleave]
      simp [hleave]
  | goesOn _ hflows' h hlines hstay ih =>
      rw [readAndRun_of_line_goesOn h ((goesOn_runLine_iff spawn _ _).2 hstay), hlines,
        readingsUntilExit, untilExit_of_stays hstay]
      simp [Dialogue.after, ih, readingsUntilExit, hstay]

/-- The prompts that a stream shows are as many as the readings. -/
theorem prompts_readAndRun (spawn : Spawner) (source : Source.Stream) (s : Session) :
    (readAndRun spawn source s).source.prompts
      = source.prompts.map
          (Source.Stream.announced s.prompt (readAndRun spawn source s).readings.length) := by
  induction source, s using turn_induction (σ := Source.Stream) spawn with
  | finished h =>
      rw [readAndRun_of_finished h]
      exact Source.Stream.prompts_of_read h
  | fatal hfault h =>
      rw [readAndRun_of_fatal hfault h]
      exact Source.Stream.prompts_of_read h
  | survived hfault h ih =>
      rw [readAndRun_of_survived hfault h]
      refine ih.trans ?_
      rw [Source.Stream.prompts_of_read h, Option.map_map]
      rfl
  | leaves h hleave =>
      rw [readAndRun_of_line_leaves h hleave]
      exact Source.Stream.prompts_of_read h
  | goesOn h hgo ih =>
      rw [readAndRun_of_line_goesOn h hgo]
      -- the prompt is the same in the next turn, since no command changes it
      refine ih.trans ?_
      rw [Source.Stream.prompts_of_read h, Option.map_map, prompt_runLine]
      rfl

end Session

end LineShell
