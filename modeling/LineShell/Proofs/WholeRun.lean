/-
The program as a whole, on streams that can be written: its exit code and
what it adds to its output and to its diagnostics (`Outcome.Tells`). What it
does is decided by its arguments first. A request for help, or an argument in
error, is answered without a look at the input; anything else gives the
options of a session, of which the prompt shows.

# The session

A session of builtins is told by the lines that it reads
(`Session.transcribes_readAndRun`), and a session whose input cannot be read
by one prompt and the error. The program ends with the outlets of the session
and hands on what they hold back, so that what was written to them is what
was received (`tells_finish`).
-/
import LineShell.CommandLine
import LineShell.Proofs.Transcript
import LineShell.Proofs.Variables

namespace LineShell

namespace CommandLine

variable {spawn : Spawner} {i : Invocation}

/-- The program has left with this code, and has written this to its streams. -/
structure Outcome.Tells (i : Invocation) (code : Nat) (out err : Bytes) (o : Outcome) : Prop where
  code : o.code = code
  output : o.output.received = i.output.received ++ out
  errors : o.errors.received = i.errors.received ++ err

/-- An invocation that ends before a session has told why, whatever the input
is, and has not read it. -/
theorem tells_ended (hout : i.output.IsOpen) (herr : i.errors.IsOpen) (code : Nat)
    (output errors : String) (input : Feed) (failure? : Option Int) :
    let ended := ({ i with input, failure? } : Invocation).ended code output errors
    ended.Tells i code (Bytes.ofText output) (Bytes.ofText errors) ∧ ended.input = input :=
  ⟨⟨rfl, (hout.write _).1, (herr.write _).1⟩, rfl⟩

-- ======================================================= before the session

theorem find?_decode?_eq_none_iff {words : List Bytes} :
    words.find? (fun word => (Utf8.decode? word).isNone) = none
      ↔ ∀ word ∈ words, word.isText := by
  rw [List.find?_eq_none]
  refine forall₂_congr fun word _ => ?_
  rw [Bytes.decode?_eq]
  by_cases htext : word.isText
  · simp [htext]
  · simp [htext]

/-- Arguments that are text are read as options. -/
theorem run_of_isText (spawn : Spawner) (hwords : ∀ word ∈ i.arguments, word.isText) :
    run spawn i
      = match Options.form.read (i.arguments.map Utf8.lossy) with
        | .helpRequested => i.ended 0 (Options.form.usage programName ++ "\n") ""
        | .refused message =>
          i.ended 1 "" (message ++ "\nRun " ++ programName ++ " --help for more information.\n")
        | .given a =>
          match Environment.capture? i.machine with
          | none => i.ended gaveUp "" ""
          | some e => finish ((i.session e (.ofArguments a)).converse spawn i.source) := by
  unfold run
  rw [find?_decode?_eq_none_iff.2 hwords]
  dsimp only
  unfold Options.read
  cases Options.form.read (i.arguments.map Utf8.lossy) with
  | given a => rfl
  | helpRequested => rfl
  | refused message => rfl

/-- Nothing is told of the filter that logs nothing. -/
theorem warningsOf_off {vars : ProcessVariables}
    (h : vars.find? LogFilter.variableName = none) : LogFilter.warningsOf vars "off" = "" := by
  rw [LogFilter.warningsOf, h]
  decide

-- ============================================================ the session

theorem clear_session (hout : i.output.IsOpen) (herr : i.errors.IsOpen) (e : Environment)
    (o : Options) : (i.session e o).Clear :=
  ⟨⟨hout, nofun⟩, ⟨(herr.write _).2, fun _ => rfl⟩, rfl⟩

theorem written_session (herr : i.errors.IsOpen)
    (hunset : i.machine.vars.find? LogFilter.variableName = none) (e : Environment) {o : Options}
    (hlog : o.log = "off") :
    (i.session e o).console.out.written = i.output.received ∧
      (i.session e o).console.err.written = i.errors.received := by
  refine ⟨List.append_nil _, ?_⟩
  have hsaid : Bytes.ofText (LogFilter.warningsOf i.machine.vars o.log) = [] := by
    rw [hlog, warningsOf_off hunset]
    rfl
  have hwritten := (herr.write (Bytes.ofText (LogFilter.warningsOf i.machine.vars o.log))).1
  refine (List.append_nil _).trans (hwritten.trans ?_)
  rw [hsaid, List.append_nil]

/-- The input can be read, if it is only interrupted. -/
theorem readable_source (h : ∀ code ∈ i.failure?, code = 4) : i.source.input.Readable := by
  intro cause hcause
  obtain ⟨code, hcode, rfl⟩ := Option.map_eq_some_iff.1 hcause
  rw [h code hcode]
  rfl

/-- It holds its lines, as far as it is not written to. -/
theorem holds_source (h : ∀ code ∈ i.failure?, code = 4) (e : Environment) (o : Options) :
    i.source.input.Holds (i.session e o).console.input.rest i.input.rest.rawLines := by
  refine ⟨rfl, ?_, readable_source h⟩
  unfold Invocation.source
  dsimp only
  split
  · exact Nat.le_add_right _ _
  · exact Nat.le_refl _

-- ============================================================== the end

theorem clear_of_endsAs {l : LoopEnd Source.Standard} {d : Dialogue Source.Standard}
    (h : EndsAs l d) (hclear : d.session.Clear) : l.session.Clear := by
  refine ⟨?_, h.err ▸ hclear.err, h.err ▸ hclear.direct⟩
  rw [h.out]
  split
  · exact hclear.out.flush.2.2.1
  · exact hclear.out

/-- What was written in a session is received when the program ends, and the
error that has ended it is told then. -/
theorem tells_finish {ended : LoopEnd Source.Standard} {d : Dialogue Source.Standard}
    (h : EndsAs ended d) (hclear : d.session.Clear) {out err : Bytes}
    (hout : d.session.console.out.written = i.output.received ++ out)
    (herr : d.session.console.err.written = i.errors.received ++ err) :
    (d.result = .ok () → (finish ended).Tells i 0 out err) ∧
      ∀ fault, d.result = .error fault →
        (finish ended).Tells i 1 out (err ++ Bytes.ofText (stopText fault)) := by
  obtain ⟨htakes, htakes', hdirect⟩ := clear_of_endsAs h hclear
  have hreceived : ended.session.console.out.drain.2.channel.received
      = i.output.received ++ out := by
    rw [htakes.drain.2.2.2, h.written, hout]
  have hall : ∀ {o : Outlet}, o.TakesAll → o.byLine = false → o.channel.received = o.written := by
    intro o ho hline
    rw [Outlet.written, ho.fit hline, List.append_nil]
  constructor
  · intro hresult
    unfold finish
    rw [h.result, hresult]
    refine ⟨rfl, hreceived, ?_⟩
    exact (hall htakes' hdirect).trans (h.err ▸ herr)
  · intro fault hresult
    obtain ⟨-, hwritten, hlast⟩ := htakes'.print [Bytes.ofText (stopText fault)]
    have hline := Outlet.byLine_print hdirect [Bytes.ofText (stopText fault)]
    rw [Outlet.print_singleton] at hwritten hlast hline
    unfold finish
    rw [h.result, hresult]
    refine ⟨rfl, hreceived, (hall hlast hline).trans (hwritten.trans ?_)⟩
    rw [h.err, herr, List.flatten_singleton, List.append_assoc]

section session

variable (herr : i.errors.IsOpen) (hout : i.output.IsOpen)
  (hunset : i.machine.vars.find? LogFilter.variableName = none) (spawn : Spawner)
  (e : Environment) {o : Options} (hlog : o.log = "off")
include herr hout hunset hlog

/-- An input that cannot be read is asked for once. -/
theorem tells_of_failure {code : Int} (hfailure : i.failure? = some code) (hagain : code ≠ 4)
    (hclosed : code ≠ 9) :
    (finish ((i.session e o).converse spawn i.source)).Tells i 1 (Bytes.ofText o.prompt)
      (Bytes.ofText (stopText (.inputFailed (.number code)))) := by
  obtain ⟨hbefore, hbefore'⟩ := written_session herr hunset e hlog
  have hsource : i.source.input.failure = some (.number code) := by
    show i.failure?.map _ = _
    rw [hfailure]
    rfl
  obtain ⟨hresult, hasks⟩ :=
    Session.readAndRun_of_failure spawn (clear_session hout herr e o) hsource
      (mt SystemError.isInterrupted_number_iff.1 hagain) (by simpa [SystemError.badDescriptor])
  have hends := Session.endsAs_readAndRun spawn i.source (i.session e o)
  have hsaid : (Session.readAndRun spawn i.source (i.session e o)).session.console.err.written
      = i.errors.received ++ [] := by
    rw [hasks.err, hbefore', List.append_nil]
  have hwritten : (Session.readAndRun spawn i.source (i.session e o)).session.console.out.written
      = i.output.received ++ Bytes.ofText o.prompt := by
    rw [hasks.out, hbefore]
    rfl
  have htells := (tells_finish hends hasks.clear hwritten hsaid).2 _ hresult
  rwa [List.nil_append] at htells

/-- So is one that is not open for reading, which has ended. -/
theorem tells_of_closed (hfailure : i.failure? = some 9) :
    (finish ((i.session e o).converse spawn i.source)).Tells i 0 (Bytes.ofText o.prompt) [] := by
  obtain ⟨hbefore, hbefore'⟩ := written_session herr hunset e hlog
  have hsource : i.source.input.failure = some .badDescriptor := by
    show i.failure?.map _ = _
    rw [hfailure]
    rfl
  obtain ⟨hresult, hasks⟩ :=
    Session.readAndRun_of_closed spawn (clear_session hout herr e o) hsource
  have hends := Session.endsAs_readAndRun spawn i.source (i.session e o)
  refine (tells_finish hends hasks.clear ?_ ?_).1 hresult
  · rw [hasks.out, hbefore]
    rfl
  · rw [hasks.err, hbefore', List.append_nil]

/-- A session of builtins is told by its lines. -/
theorem tells_of_readable (hreadable : ∀ code ∈ i.failure?, code = 4)
    (hbuiltins : ∀ d ∈ Loop.dispatches spawn ⟨.asking, i.source, i.session e o⟩,
      ¬Builtin.isProgram d.words) :
    ∃ read, untilExit read = read ∧
      (Session.readAndRun spawn i.source (i.session e o)).readings = readingsUntilExit read ∧
      (finish ((i.session e o).converse spawn i.source)).Tells i 0
        ((i.session e o).transcript spawn read) ((i.session e o).diagnostics spawn read) ∧
      ((i.session e o).ReadsApart → read = untilExit i.input.rest.lines) := by
  obtain ⟨hbefore, hbefore'⟩ := written_session herr hunset e hlog
  obtain ⟨read, htranscribes, hread⟩ := Session.transcribes_readAndRun spawn i.source
    (i.session e o) (clear_session hout herr e o) (readable_source hreadable) hbuiltins
  have hends := Session.endsAs_readAndRun spawn i.source (i.session e o)
  refine ⟨read, htranscribes.whole, htranscribes.readings, ?_, fun hapart => ?_⟩
  · refine (tells_finish hends htranscribes.clear ?_ ?_).1 htranscribes.result
    · rw [htranscribes.out, hbefore]
    · rw [htranscribes.err, hbefore']
  · rw [hread _ hapart (holds_source hreadable e o), Bytes.lines_eq_rawLines]

end session

/-- A text of one line stands behind the mark as it is. -/
theorem indented_of_oneLine (mark margin : String) {text : String} (h : Text.OneLine text) :
    Report.indented mark margin text = mark ++ text := by
  unfold Report.indented
  rw [List.splitOn_eq_singleton h]
  simp

/-- The report that the input could not be read. -/
theorem stopText_inputFailed {cause : SystemError} (h : Text.OneLine cause.message) :
    stopText (.inputFailed cause)
      = "Error: interpreter stopped\n\nCaused by:\n    0: read error: " ++ cause.message
        ++ "\n    1: " ++ cause.message ++ "\n" := by
  have herror : Text.OneLine (Fault.inputFailed cause).message := by
    rw [Fault.message_inputFailed, Text.oneLine_append]
    exact ⟨by decide, h⟩
  have hlines : Report.causeLines [(Fault.inputFailed cause).message, cause.message]
      = ["    0: " ++ (Fault.inputFailed cause).message, "    1: " ++ cause.message] := by
    show [Report.indented "    0: " _ _, Report.indented "    1: " _ _] = _
    rw [indented_of_oneLine _ _ herror, indented_of_oneLine _ _ h]
  show Report.text _ [(Fault.inputFailed cause).message, cause.message] = _
  unfold Report.text
  rw [hlines, Fault.message_inputFailed]
  generalize cause.message = text
  simp [String.join_cons, ← String.append_assoc]

/-- The program, from its arguments to its exit code. Let the arguments and the
variables be text, let no variable name a filter for the log, and let the
streams take what is written. A request for help is answered with the usage
and the code 0, arguments in error with the reason and the code 1. Neither
depends on the input, none of which is read, and no prompt is shown.

Any other arguments, if none of them is a filter either, give a session and
its prompt. If reading the input gives an error, the prompt is shown once, the
diagnostics tell the error, and the code is 1. No errors in this sense are the
numbers 4, an interruption, after which it is read again, and 9, which is that
of an input that is not open and counts as its end.

If the input can be read, and every command is a builtin, the code is 0,
whatever comes of the commands. Then lines are read up to an `exit` or to the
end of the input, and for each of these readings the prompt is shown. The
output is the transcript of the lines, and the diagnostics are what the lines
have complained of. These are the lines of the input, unless the output leads
to the very file that is read. -/
theorem run_tells (spawn : Spawner) (i : Invocation)
    (hwords : ∀ word ∈ i.arguments, word.isText)
    (hvars : ∀ entry ∈ i.machine.vars.entries, entry.1.isText ∧ entry.2.isText)
    (hunset : i.machine.vars.find? LogFilter.variableName = none)
    (hout : i.output.IsOpen) (herr : i.errors.IsOpen) :
    match Options.form.read (i.arguments.map Utf8.lossy) with
    | .helpRequested => ∀ input failure?,
        (run spawn { i with input, failure? }).Tells i 0
            (Bytes.ofText (Options.form.usage programName ++ "\n")) [] ∧
          (run spawn { i with input, failure? }).input = input
    | .refused message => ∀ input failure?,
        (run spawn { i with input, failure? }).Tells i 1 []
            (Bytes.ofText
              (message ++ "\nRun " ++ programName ++ " --help for more information.\n")) ∧
          (run spawn { i with input, failure? }).input = input
    | .given a => a.values.lookup "--log" = none →
        ∃ e, Environment.capture? i.machine = some e ∧
          let s := i.session e (.ofArguments a)
          let prompt := (a.values.lookup "--prompt").getD "> "
          (∀ code, i.failure? = some code → code ≠ 4 → code ≠ 9 →
            (run spawn i).Tells i 1 (Bytes.ofText prompt)
              (Bytes.ofText ("Error: interpreter stopped\n\nCaused by:\n    0: read error: "
                ++ (SystemError.number code).message ++ "\n    1: "
                ++ (SystemError.number code).message ++ "\n"))) ∧
          (i.failure? = some 9 → (run spawn i).Tells i 0 (Bytes.ofText prompt) []) ∧
          ((∀ code ∈ i.failure?, code = 4) →
            (∀ d ∈ Loop.dispatches spawn ⟨.asking, i.source, s⟩, ¬Builtin.isProgram d.words) →
              ∃ read, untilExit read = read ∧
                (s.converse spawn (Source.Watched.mk i.source [])).source.record
                  = (readingsUntilExit read).map (fun reading => (prompt, reading)) ∧
                (run spawn i).Tells i 0 (s.transcript spawn read) (s.diagnostics spawn read) ∧
                ((∀ place, i.input.file? = some place →
                    i.output.location? ≠ some place.location) →
                  read = untilExit i.input.rest.lines)) := by
  have hrun := fun input failure? =>
    run_of_isText (i := { i with input, failure? }) spawn hwords
  cases hread : Options.form.read (i.arguments.map Utf8.lossy) with
  | helpRequested =>
      intro input failure?
      rw [hrun, hread]
      exact tells_ended hout herr 0 _ "" input failure?
  | refused message =>
      intro input failure?
      rw [hrun, hread]
      exact tells_ended hout herr 1 "" _ input failure?
  | given a =>
      intro hlog
      have hoff : (Options.ofArguments a).log = "off" := by rw [Options.ofArguments, hlog]; rfl
      obtain ⟨own, hown⟩ := ProcessVariables.asText?_isSome_iff.2 hvars
      obtain ⟨e, he⟩ : ∃ e, Environment.capture? i.machine = some e :=
        ⟨_, by rw [Environment.capture?, hown]; rfl⟩
      have hsession := run_of_isText spawn hwords
      rw [hread, he] at hsession
      refine ⟨e, he, ?_⟩
      dsimp only
      rw [hsession]
      refine ⟨fun code hfailure hagain hclosed => ?_, fun hfailure => ?_,
        fun hreadable hbuiltins => ?_⟩
      · rw [← stopText_inputFailed (SystemError.IsStock.number code).oneLine_message]
        exact tells_of_failure herr hout hunset spawn e hoff hfailure hagain hclosed
      · exact tells_of_closed herr hout hunset spawn e hoff hfailure
      · obtain ⟨read, hwhole, hreadings, htells, hlines⟩ :=
          tells_of_readable herr hout hunset spawn e hoff hreadable hbuiltins
        refine ⟨read, hwhole, ?_, htells, hlines⟩
        rw [(Session.endsAs_readAndRun spawn (Source.Watched.mk i.source []) _).source,
          Session.source_readAndRun_watched, hreadings]
        rfl

/-- A line that is blank and one that fails are lines like any other. -/
theorem run_tells_three_lines :
    let machine : Machine := { files := .empty, workingDirectory := ⟨[], 0⟩ }
    let spawn : Spawner := fun _ _ => .error .noEntry
    let i : Invocation :=
      { arguments := ["--plain", "--prompt", "$ "].map Bytes.ofText
        input := .ofFile [Bytes.ofText "lines"] (Bytes.ofText "echo hi\r\n\ncd" ++ [32, 10])
        machine }
    (∀ word ∈ i.arguments, word.isText) ∧
      (∀ entry ∈ i.machine.vars.entries, entry.1.isText ∧ entry.2.isText) ∧
      i.machine.vars.find? LogFilter.variableName = none ∧ i.output.IsOpen ∧ i.errors.IsOpen ∧
      (run spawn i).Tells i 0 (Bytes.ofText "$ hi\n$ $ $ ")
        (Bytes.ofText "lsh: cd: expected argument\n") := by
  intro machine spawn i
  have hwords : ∀ word ∈ i.arguments, word.isText := by decide
  have hopen : Channel.IsOpen {} := ⟨rfl, by decide⟩
  have hread : Options.form.read (i.arguments.map Utf8.lossy)
      = .given { values := [("--prompt", "$ ")], switches := ["--plain"] } := by decide
  have htells := run_tells spawn i hwords nofun rfl hopen hopen
  rw [hread] at htells
  obtain ⟨e, he, -, -, hsession⟩ := htells rfl
  obtain rfl : { directory := [47] } = e := Option.some.inj he
  obtain ⟨read, -, -, htold, hlines⟩ := hsession nofun (by decide +kernel)
  obtain rfl : read = ["echo hi", "", "cd "] := (hlines nofun).trans (by decide)
  refine ⟨hwords, nofun, rfl, hopen, hopen, ?_⟩
  have hout : (i.session { directory := [47] } { prompt := "$ ", plain := true }).transcript spawn
      ["echo hi", "", "cd "] = Bytes.ofText "$ hi\n$ $ $ " := by decide +kernel
  have herr : (i.session { directory := [47] } { prompt := "$ ", plain := true }).diagnostics spawn
      ["echo hi", "", "cd "] = Bytes.ofText "lsh: cd: expected argument\n" := by decide +kernel
  rw [← hout, ← herr]
  exact htold

end CommandLine
end LineShell
