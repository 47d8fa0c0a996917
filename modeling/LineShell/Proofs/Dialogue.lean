/-
The loop without its phases: show the prompt and read; run the line, or
say what went wrong, and do the same again (`Session.readAndRun`). This
is how one would tell what an interpreter does. The loop has phases
instead, takes notes and flushes the output at the end, and in all else
it ends as the plain recursion does (`EndsAs`), on any source.

# Who is asked, and how often

That a loop ends with the same source does not say how it got there. A
source may be watched (`Source.Watched`): then every reading is put on
record, with the prompt that was shown for it. The record of the loop is
the list of readings of the plain recursion, one for each event that was
taken and one for the end of the input if that was reached.
-/
import LineShell.Proofs.Loop
import LineShell.Proofs.Outlet
import LineShell.Source.Events

namespace LineShell

variable {σ : Type}

-- ================================================================= endings

/-- How reading and running has ended, and what was read. -/
structure Dialogue (σ : Type) where
  result : Except Fault Unit
  source : σ
  session : Session
  /-- In the order of reading. -/
  readings : List Reading

/-- One more reading in front. -/
def Dialogue.after (reading : Reading) (d : Dialogue σ) : Dialogue σ :=
  { d with readings := reading :: d.readings }

/-- The loop has ended as the plain recursion has. Both have written the
same, and whether the output is flushed at the end is all that its outlet
tells them apart by; of the console only the log is not compared. -/
structure EndsAs (l : LoopEnd σ) (d : Dialogue σ) : Prop where
  result : l.result = d.result
  source : l.source = d.source
  machine : l.session.machine = d.session.machine
  environment : l.session.environment = d.session.environment
  prompt : l.session.prompt = d.session.prompt
  written : l.session.console.out.written = d.session.console.out.written
  out : l.session.console.out
    = if d.result.isOk then d.session.console.out.flush.2 else d.session.console.out
  err : l.session.console.err = d.session.console.err
  input : l.session.console.input = d.session.console.input
  children : l.session.console.children = d.session.console.children

/-- What was read before plays no part in it. -/
theorem EndsAs.after {l : LoopEnd σ} {d : Dialogue σ} (h : EndsAs l d) (reading : Reading) :
    EndsAs l (d.after reading) :=
  ⟨h.result, h.source, h.machine, h.environment, h.prompt, h.written, h.out, h.err, h.input,
    h.children⟩

/-- A loop that has left with a note and flushed its output. -/
theorem endsAs_flushed (source : σ) (s : Session) (entry : LogEntry)
    (readings : List Reading) :
    EndsAs ⟨.ok (), source, (s.note entry).flushed⟩ ⟨.ok (), source, s, readings⟩ :=
  ⟨rfl, rfl, rfl, rfl, rfl, Outlet.written_flush s.console.out, rfl, rfl, rfl, rfl⟩

/-- A loop that was stopped with a note. -/
theorem endsAs_stopped (fault : Fault) (source : σ) (s : Session) (entry : LogEntry)
    (readings : List Reading) :
    EndsAs ⟨.error fault, source, s.note entry⟩ ⟨.error fault, source, s, readings⟩ :=
  ⟨rfl, rfl, rfl, rfl, rfl, rfl, rfl, rfl, rfl, rfl⟩

/-- Something was read, and nothing after the end of the input. -/
def Dialogue.StopsAtEnd (d : Dialogue σ) : Prop :=
  ∃ before last, d.readings = before ++ [last] ∧ .finished ∉ before

theorem Dialogue.StopsAtEnd.after {d : Dialogue σ} (h : d.StopsAtEnd) {reading : Reading}
    (hne : reading ≠ .finished) : (d.after reading).StopsAtEnd := by
  obtain ⟨before, last, hreadings, hbefore⟩ := h
  refine ⟨reading :: before, last, ?_, ?_⟩
  · rw [Dialogue.after, hreadings, List.cons_append]
  · intro hmem
    rcases List.mem_cons.1 hmem with heq | hmem
    · exact hne heq.symm
    · exact hbefore hmem

-- ===================================================== the plain recursion

namespace Session

variable [Source σ]

/-- Reads and runs, line by line. A line that asks to leave is the last;
so is a fault of the memory, the input or the editor, about which nothing
is written. About any other fault a line is written, and it goes on. -/
def readAndRun (spawn : Spawner) (source : σ) (s : Session) : Dialogue σ :=
  match _h : Source.read s.prompt source s.console with
  | (.finished, source', console) => ⟨.ok (), source', { s with console }, [.finished]⟩
  | (.line line, source', console) =>
    match ({ s with console } : Session).runLine spawn line with
    | (.leave, next) => ⟨.ok (), source', next, [.line line]⟩
    | (_, next) => (readAndRun spawn source' next).after (.line line)
  | (.failed fault, source', console) =>
    match fault with
    | .noMemory | .inputFailed _ | .editorFailed _ =>
      ⟨.error fault, source', { s with console }, [.failed fault]⟩
    | _ =>
      (readAndRun spawn source'
        { s with
          console := (console.note (.failed fault)).complain ("lsh: " :: fault.pieces) }).after
        (.failed fault)
termination_by Source.size source
decreasing_by all_goals exact Source.size_lt_of_read _h (by simp)

variable {spawn : Spawner} {source source' : σ} {s : Session} {console : Console}

/-- The end of the input is the last thing read. -/
theorem readAndRun_of_finished
    (h : Source.read s.prompt source s.console = (.finished, source', console)) :
    readAndRun spawn source s = ⟨.ok (), source', { s with console }, [.finished]⟩ := by
  rw [readAndRun]
  split <;> rename_i h' <;> rw [h] at h' <;> cases h'
  rfl

/-- A line that asks to leave is the last thing read. -/
theorem readAndRun_of_line_leaves {line : String}
    (h : Source.read s.prompt source s.console = (.line line, source', console))
    (hleave : ¬(({ s with console } : Session).runLine spawn line).1.goesOn) :
    readAndRun spawn source s
      = ⟨.ok (), source', (({ s with console } : Session).runLine spawn line).2,
          [.line line]⟩ := by
  rw [readAndRun]
  split <;> rename_i h' <;> rw [h] at h' <;> cases h'
  cases hrun : ({ s with console } : Session).runLine spawn line with
  | mk verdict next =>
      rw [hrun] at hleave
      cases verdict with
      | leave => rfl
      | goOn => exact absurd rfl hleave
      | goOnAfterFault => exact absurd rfl hleave

/-- After any other line it goes on. -/
theorem readAndRun_of_line_goesOn {line : String}
    (h : Source.read s.prompt source s.console = (.line line, source', console))
    (hgo : (({ s with console } : Session).runLine spawn line).1.goesOn) :
    readAndRun spawn source s
      = (readAndRun spawn source'
          (({ s with console } : Session).runLine spawn line).2).after (.line line) := by
  rw [readAndRun]
  split <;> rename_i h' <;> rw [h] at h' <;> cases h'
  cases hrun : ({ s with console } : Session).runLine spawn line with
  | mk verdict next =>
      rw [hrun] at hgo
      cases verdict with
      | leave => cases hgo
      | goOn => rfl
      | goOnAfterFault => rfl

/-- A fault that ends the session is returned, and nothing is written. -/
theorem readAndRun_of_fatal {fault : Fault} (hfault : fault.endsSession = true)
    (h : Source.read s.prompt source s.console = (.failed fault, source', console)) :
    readAndRun spawn source s
      = ⟨.error fault, source', { s with console }, [.failed fault]⟩ := by
  rw [readAndRun]
  split <;> rename_i h' <;> rw [h] at h' <;> cases h'
  cases fault with
  | noMemory => rfl
  | inputFailed cause => rfl
  | editorFailed cause => rfl
  | argumentMissing command => cases hfault
  | notEntered path cause => cases hfault
  | notRun command reason => cases hfault
  | notStarted command cause => cases hfault
  | outputFailed cause => cases hfault

/-- About any other fault a line is written, and it goes on. -/
theorem readAndRun_of_survived {fault : Fault} (hfault : fault.endsSession = false)
    (h : Source.read s.prompt source s.console = (.failed fault, source', console)) :
    readAndRun spawn source s
      = (readAndRun spawn source' (({ s with console } : Session).report fault).2).after
          (.failed fault) := by
  rw [readAndRun]
  split <;> rename_i h' <;> rw [h] at h' <;> cases h'
  cases fault with
  | noMemory => cases hfault
  | inputFailed cause => cases hfault
  | editorFailed cause => cases hfault
  | argumentMissing command => rfl
  | notEntered path cause => rfl
  | notRun command reason => rfl
  | notStarted command cause => rfl
  | outputFailed cause => rfl

-- ======================================================= turn by turn

/-- Turn by turn both do the same. -/
theorem endsAs_readAndRun (spawn : Spawner) (source : σ) (s : Session) :
    EndsAs (converse spawn source s) (readAndRun spawn source s) := by
  -- in every turn both come to the same session, so only the ends differ
  induction source, s using turn_induction (σ := σ) spawn with
  | finished h =>
      rw [converse_of_finished h, readAndRun_of_finished h]
      exact endsAs_flushed _ _ .endOfInput _
  | fatal hfault h =>
      rw [converse_of_fatal hfault h, readAndRun_of_fatal hfault h]
      exact endsAs_stopped _ _ _ (.stopped _) _
  | survived hfault h ih =>
      rw [converse_of_survived hfault h, readAndRun_of_survived hfault h]
      exact ih.after _
  | leaves h hleave =>
      rw [converse_of_line_leaves h hleave, readAndRun_of_line_leaves h hleave]
      exact endsAs_flushed _ _ .exitRequested _
  | goesOn h hgo ih =>
      rw [converse_of_line_goesOn h hgo, readAndRun_of_line_goesOn h hgo]
      exact ih.after _

/-- Running a line does not change the prompt. -/
theorem prompt_runLine (spawn : Spawner) (line : String) (s : Session) :
    (s.runLine spawn line).2.prompt = s.prompt := by
  have houtcome := outcome_runWords spawn (s.split line).1 (s.split line).2
  exact houtcome.prompt_eq

end Session

-- ====================================================== watched sources

/-- A source whose readings are put on record, each with the prompt that
it was to show. -/
structure Source.Watched (σ : Type) where
  source : σ
  /-- In the order of reading. -/
  record : List (String × Reading) := []

instance [Source σ] : Source (Source.Watched σ) where
  read prompt watched console :=
    let (reading, source, console) := Source.read prompt watched.source console
    (reading, ⟨source, watched.record ++ [(prompt, reading)]⟩, console)
  size watched := Source.size watched.source
  size_lt prompt watched console := Source.size_lt prompt watched.source console

namespace Session

variable [Source σ]

/-- Reading a watched source. -/
theorem read_watched {prompt : String} {source source' : σ} {console console' : Console}
    {reading : Reading} (h : Source.read prompt source console = (reading, source', console'))
    (record : List (String × Reading)) :
    Source.read prompt (Source.Watched.mk source record) console
      = (reading, ⟨source', record ++ [(prompt, reading)]⟩, console') := by
  simp only [Source.read, h]

/-- The plain recursion shows its prompt for each reading, once. -/
theorem source_readAndRun_watched (spawn : Spawner) (source : σ) (s : Session)
    (record : List (String × Reading)) :
    (readAndRun spawn (Source.Watched.mk source record) s).source
      = ⟨(readAndRun spawn source s).source,
          record ++ (readAndRun spawn source s).readings.map fun r => (s.prompt, r)⟩ := by
  induction source, s using turn_induction (σ := σ) spawn generalizing record with
  | finished h =>
      rw [readAndRun_of_finished (read_watched h record), readAndRun_of_finished h]
      rfl
  | fatal hfault h =>
      rw [readAndRun_of_fatal hfault (read_watched h record), readAndRun_of_fatal hfault h]
      rfl
  | survived hfault h ih =>
      rw [readAndRun_of_survived hfault (read_watched h record),
        readAndRun_of_survived hfault h]
      refine (ih _).trans ?_
      rw [List.append_assoc]
      rfl
  | leaves h hleave =>
      rw [readAndRun_of_line_leaves (read_watched h record) hleave,
        readAndRun_of_line_leaves h hleave]
      rfl
  | goesOn h hgo ih =>
      rw [readAndRun_of_line_goesOn (read_watched h record) hgo,
        readAndRun_of_line_goesOn h hgo]
      -- the next prompt is the same, since no command changes it
      refine (ih _).trans ?_
      rw [prompt_runLine, List.append_assoc]
      rfl

end Session

-- ======================================================== listed events

/-- The reading of an event. -/
def Reading.ofEvent : Except Fault String → Reading
  | .ok text => .line text
  | .error fault => .failed fault

namespace Source.Events

end Source.Events

/-- Of a list of events a beginning was read, in order, and the rest is
left. The end of the input was read if nothing is left, or not at all. -/
def Dialogue.TakesFrom (events : List (Except Fault String)) (d : Dialogue Source.Events) :
    Prop :=
  ∃ taken, events = taken ++ d.source.events ∧
    (d.readings = taken.map Reading.ofEvent ∨
      d.readings = taken.map Reading.ofEvent ++ [.finished] ∧ d.source.events = [])

theorem Dialogue.TakesFrom.after {events : List (Except Fault String)}
    {d : Dialogue Source.Events} (h : d.TakesFrom events) (event : Except Fault String) :
    (d.after (Reading.ofEvent event)).TakesFrom (event :: events) := by
  obtain ⟨taken, hevents, hreadings⟩ := h
  refine ⟨event :: taken, ?_, ?_⟩
  · rw [hevents]
    rfl
  · rcases hreadings with hreadings | ⟨hreadings, hnone⟩
    · refine .inl ?_
      rw [Dialogue.after, hreadings, List.map_cons]
    · refine .inr ⟨?_, hnone⟩
      rw [Dialogue.after, hreadings, List.map_cons, List.cons_append]

namespace Session

end Session
end LineShell
