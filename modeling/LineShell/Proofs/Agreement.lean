/-
Verdict, diagnostics and log over whole runs. A session is heard if all
that it says is written somewhere, line by line (`Session.Heard`), and it
stays so, whatever is run in it. Reading from a stream says nothing, and
the loop says nothing either. So what stands on the outlet for diagnostics
after a run is what its commands have said, one behind the other
(`heard_converse`): a line for each that has failed, and no other.

Programs must write elsewhere for that, since what they write to the same
channel is not told apart. And the output must give its reasons in one
line, for it is reported as it is given (`two_lines_of_a_reason`).
-/
import LineShell.Proofs.Diagnosis
import LineShell.Source.Stream

namespace LineShell

-- ============================================================= whole runs

namespace Session

/-- What is said in a session is heard, line by line: its outlet for
diagnostics takes everything, the output gives its reasons in one line, and
programs write elsewhere. -/
structure Heard (s : Session) : Prop where
  err : s.console.err.TakesAll
  out : s.console.out.AnswersInOneLine
  apart : s.console.children ≠ .shared

end Session

/-- A command leaves it so. -/
theorem Conduct.heard {spawn : Spawner} {words : List String} {s s' : Session}
    {verdict : Verdict} (h : Conduct spawn words s verdict s') (hs : s.Heard) : s'.Heard := by
  have hcomplaint : ∀ (console : Console) (pieces : List String), console.err = s.console.err →
      (console.complain pieces).err.TakesAll := by
    intro console pieces hsame
    exact (Console.complain_spec (hsame ▸ hs.err) pieces).1
  cases h with
  | idle => exact hs
  | left rest => exact ⟨hs.err, hs.out, hs.apart⟩
  | printed rest pieces hname hprint => exact ⟨hs.err, hs.out.print pieces, hs.apart⟩
  | notPrinted rest pieces hname hprint =>
      exact ⟨hcomplaint _ _ rfl, hs.out.print pieces, hs.apart⟩
  | refused _ hform hread => exact ⟨hcomplaint _ _ rfl, hs.out, hs.apart⟩
  | moved hcd hgoal => exact ⟨hs.err, hs.out, hs.apart⟩
  | notMoved hfault => exact ⟨hcomplaint _ _ rfl, hs.out, hs.apart⟩
  | notFlushed rest hname hflush => exact ⟨hcomplaint _ _ rfl, hs.out.flush, hs.apart⟩
  | notFound rest hname hflush hfind => exact ⟨hcomplaint _ _ rfl, hs.out.flush, hs.apart⟩
  | notStarted hname hflush hfind hrequest hspawn =>
      exact ⟨hcomplaint _ _ rfl, hs.out.flush, hs.apart⟩
  | @ran name rest _ found r ran hname hflush hfind hrequest hspawn =>
      cases hchildren : s.console.children with
      | shared => exact absurd hchildren hs.apart
      | apart output errors =>
          have hasking : (s.asking name found.path r).console.children
              = .apart output errors := hchildren
          have hconsole := Console.withStreams_of_apart ran.streams hasking
          refine ⟨?_, ?_, ?_⟩
          · show (Console.withStreams _ _).err.TakesAll
            rw [hconsole]
            exact hs.err
          · show (Console.withStreams _ _).out.AnswersInOneLine
            rw [hconsole]
            exact hs.out.flush
          · show (Console.withStreams _ _).children ≠ .shared
            rw [hconsole]
            simp

namespace Session

variable {spawn : Spawner}

/-- A command of a session that is heard says one line if it fails. -/
theorem Heard.said {words : List String} {s : Session} (hs : s.Heard)
    (hwords : ∀ word ∈ words, Text.OneLine word) (hspawn : RefusesPlainly spawn) :
    (Dispatch.of spawn words s).SaysIfFailed ∧
      (s.runWords spawn words).2.console.err.written
        = s.console.err.written ++ (Dispatch.of spawn words s).said := by
  have hagrees : (Dispatch.of spawn words s).Agrees spawn :=
    (conduct_runWords spawn words s).agrees hs.err
  unfold Dispatch.SaysIfFailed
  split
  · rename_i hfailed
    obtain ⟨text, faults, hdiagnosis, hsaid, hwritten⟩ := hagrees.said_of_failed hfailed
    refine ⟨?_, hwritten⟩
    rw [hsaid]
    exact Text.isLine_asLine (hdiagnosis.oneLine hwords hs.out hspawn)
  · rename_i hfailed
    exact hagrees.said_of_not_failed hs.apart hfailed

/-- So it is with the commands of a line, of which there is one at most. -/
theorem Heard.runLine {s : Session} (hs : s.Heard) (hspawn : RefusesPlainly spawn)
    (line : String) :
    (s.runLine spawn line).2.Heard ∧
      (∀ d ∈ s.dispatched spawn line, d.Agrees spawn ∧ d.SaysIfFailed) ∧
      (s.runLine spawn line).2.console.err.written
        = s.console.err.written ++ (s.dispatched spawn line).flatMap Dispatch.said := by
  have hsplit : (s.split line).2.Heard := ⟨hs.err, hs.out, hs.apart⟩
  have hwords : ∀ word ∈ (s.split line).1, Text.OneLine word :=
    fun word hmem => Words.oneLine_of_mem_ofLine hmem
  have hconduct := conduct_runWords spawn (s.split line).1 (s.split line).2
  obtain ⟨hspeaks, hwritten⟩ := hsplit.said hwords hspawn
  have hheard : (s.runLine spawn line).2.Heard := hconduct.heard hsplit
  unfold dispatched
  by_cases hblank : (s.split line).1.isEmpty
  · rw [if_pos hblank]
    refine ⟨hheard, by simp, ?_⟩
    show ((s.split line).2.runWords spawn (s.split line).1).2.console.err.written = _
    rw [List.isEmpty_iff.1 hblank]
    exact (List.append_nil _).symm
  · rw [if_neg hblank]
    refine ⟨hheard, fun d hd => ?_, ?_⟩
    · rw [List.mem_singleton.1 hd]
      exact ⟨hconduct.agrees hsplit.err, hspeaks⟩
    · rw [List.flatMap_singleton]
      exact hwritten

end Session

namespace Outlet

theorem AnswersInOneLine.announce {o : Outlet} (h : o.AnswersInOneLine) (prompt : String) :
    (Source.Stream.announce prompt o).2.AnswersInOneLine := by
  have hwrite : (o.write (Bytes.ofText prompt)).2.AnswersInOneLine :=
    (ends_write Channel.keeps_answersWith _ h).1
  unfold Source.Stream.announce
  rcases hr : o.write (Bytes.ofText prompt) with ⟨_ | cause, mid⟩
  · rw [hr] at hwrite
    exact hwrite.flush
  · rw [hr] at hwrite
    exact hwrite

end Outlet

namespace Source.Stream

/-- Of the console a prompt changes the output, if it is shown there, and a
note is taken if it cannot be shown. -/
theorem showPrompt_console (prompt : String) (source : Stream) (console : Console) :
    ∃ out log, (source.showPrompt prompt console).2 = { console with out, log } ∧
      (out = console.out ∨ out = (announce prompt console.out).2) := by
  unfold showPrompt
  split
  · rename_i outlet _
    obtain ⟨log, hlog⟩ := exists_noteLoss (announce prompt outlet).1 console
    exact ⟨console.out, log, hlog, .inl rfl⟩
  · obtain ⟨log, hlog⟩ := exists_noteLoss (announce prompt console.out).1
      { console with out := (announce prompt console.out).2 }
    exact ⟨_, log, hlog, .inr rfl⟩

/-- A stream that fails ends the session. -/
theorem endsSession_of_piece {piece : Piece} {fault : Fault}
    (h : piece.reading = .failed fault) : fault.endsSession = true := by
  unfold Piece.reading at h
  split at h
  · cases h
  · cases h
  · cases h
  · cases h
    rfl

/-- Reading from a stream says nothing. -/
theorem heard_read {source source' : Stream} {s : Session} {reading : Reading}
    {console : Console}
    (h : Source.read s.prompt source s.console = (reading, source', console)) (hs : s.Heard) :
    ({ s with console } : Session).Heard ∧ console.err = s.console.err ∧
      ∀ fault, reading = .failed fault → fault.endsSession = true := by
  have hconsole : (source.showPrompt s.prompt s.console).2 = console :=
    congrArg (fun read => read.2.2) h
  have hreading : (Fill.takePiece [] (source.showPrompt s.prompt s.console).1.fills).1.reading
      = reading :=
    congrArg (fun read => read.1) h
  obtain ⟨out, log, hshown, hout⟩ := showPrompt_console s.prompt source s.console
  obtain rfl : { s.console with out, log } = console := hshown.symm.trans hconsole
  refine ⟨⟨hs.err, ?_, hs.apart⟩, rfl, fun fault hfault => ?_⟩
  · rcases hout with rfl | rfl
    · exact hs.out
    · exact hs.out.announce s.prompt
  · exact endsSession_of_piece (hreading.trans hfault)

end Source.Stream

namespace Session

/-- Whatever stream the lines come from, what is said is what the commands
have said, one after the other. -/
theorem heard_converse {spawn : Spawner} (hspawn : RefusesPlainly spawn)
    (source : Source.Stream) (s : Session) (hs : s.Heard) :
    (∀ d ∈ Loop.dispatches spawn ⟨.asking, source, s⟩, d.Agrees spawn ∧ d.SaysIfFailed) ∧
      (s.converse spawn source).session.console.err.written
        = s.console.err.written
          ++ (Loop.dispatches spawn ⟨.asking, source, s⟩).flatMap Dispatch.said := by
  induction source, s using turn_induction (σ := Source.Stream) spawn with
  | @finished source source' s console h =>
      obtain ⟨-, herr, -⟩ := Source.Stream.heard_read h hs
      rw [Loop.dispatches_of_finished h, converse_of_finished h]
      refine ⟨by simp, ?_⟩
      show console.err.written = _
      rw [herr, List.flatMap_nil, List.append_nil]
  | @fatal source source' s console fault hfault h =>
      obtain ⟨-, herr, -⟩ := Source.Stream.heard_read h hs
      rw [Loop.dispatches_of_fatal hfault h, converse_of_fatal hfault h]
      refine ⟨by simp, ?_⟩
      show console.err.written = _
      rw [herr, List.flatMap_nil, List.append_nil]
  | @survived source source' s console fault hfault h ih =>
      obtain ⟨-, -, hfatal⟩ := Source.Stream.heard_read h hs
      rw [hfatal fault rfl] at hfault
      cases hfault
  | @leaves source source' s console line h hleave =>
      obtain ⟨hheard, herr, -⟩ := Source.Stream.heard_read h hs
      obtain ⟨-, hcommands, hwritten⟩ := hheard.runLine hspawn line
      rw [Loop.dispatches_of_line h, if_neg hleave, List.append_nil,
        converse_of_line_leaves h hleave]
      refine ⟨hcommands, ?_⟩
      show (({ s with console } : Session).runLine spawn line).2.console.err.written = _
      rw [hwritten, ← herr]
  | @goesOn source source' s console line h hgo ih =>
      obtain ⟨hheard, herr, -⟩ := Source.Stream.heard_read h hs
      obtain ⟨hnext, hcommands, hwritten⟩ := hheard.runLine hspawn line
      obtain ⟨hmore, hended⟩ := ih hnext
      rw [Loop.dispatches_of_line h, if_pos hgo, converse_of_line_goesOn h hgo]
      refine ⟨fun d hd => ?_, ?_⟩
      · rcases List.mem_append.1 hd with hd | hd
        · exact hcommands d hd
        · exact hmore d hd
      · rw [hended, hwritten, List.flatMap_append, List.append_assoc, herr]

/-- Lines of commands that fail are as many as these commands. -/
theorem count_newline_said {ds : List Dispatch} (h : ∀ d ∈ ds, d.SaysIfFailed) :
    (ds.flatMap Dispatch.said).count Outlet.newline
      = ds.countP fun d => d.verdict = .goOnAfterFault := by
  induction ds with
  | nil => rfl
  | cons d ds ih =>
      have hd := h d List.mem_cons_self
      have hds := ih fun e he => h e (List.mem_cons_of_mem _ he)
      rw [List.flatMap_cons, List.count_append, hds, List.countP_cons]
      unfold Dispatch.SaysIfFailed at hd
      split at hd
      · rename_i hfailed
        rw [Bytes.count_newline_of_isLine hd, if_pos (by simpa using hfailed), Nat.add_comm]
      · rename_i hfailed
        rw [hd, if_neg (by simpa using hfailed), List.count_nil, Nat.zero_add, Nat.add_zero]

/-- Verdict, diagnostics and log agree for every command, if what is said
can be written. A command that has not failed says nothing and notes no
fault. One that has failed reports one fault, and that one is noted; or its
arguments do not fill its form, and it says so, and nothing is noted.

Where the output gives its reasons in one line, what is said of the words
of a line is one line. After any source of bytes, then, the lines that were
said are as many as the commands that failed, each said by its command and
in their order. -/
theorem diagnostics_agree (spawn : Spawner) (s : Session) (herr : s.console.err.TakesAll) :
    (∀ words, (Dispatch.of spawn words s).Agrees spawn) ∧
      (s.console.out.AnswersInOneLine → RefusesPlainly spawn →
        (∀ line, (Dispatch.of spawn (Words.ofLine line) s).verdict = .goOnAfterFault →
          (Dispatch.of spawn (Words.ofLine line) s).said.IsLine) ∧
        (s.console.children ≠ .shared → ∀ source : Source.Stream,
          let ds := Loop.dispatches spawn ⟨.asking, source, s⟩
          (s.converse spawn source).session.console.err.written
              = s.console.err.written ++ ds.flatMap Dispatch.said ∧
            (∀ d ∈ ds, d.Agrees spawn ∧ d.SaysIfFailed) ∧
            (ds.flatMap Dispatch.said).count Outlet.newline
              = ds.countP fun d => d.verdict = .goOnAfterFault)) := by
  have hagrees : ∀ words, (Dispatch.of spawn words s).Agrees spawn :=
    fun words => (conduct_runWords spawn words s).agrees herr
  refine ⟨hagrees, fun hout hspawn => ⟨fun line hfailed => ?_, fun happart source => ?_⟩⟩
  · obtain ⟨text, faults, hdiagnosis, hsaid, -⟩ :=
      (hagrees (Words.ofLine line)).said_of_failed hfailed
    have hwords : ∀ word ∈ Words.ofLine line, Text.OneLine word :=
      fun word hmem => Words.oneLine_of_mem_ofLine hmem
    rw [hsaid]
    exact Text.isLine_asLine (hdiagnosis.oneLine hwords hout hspawn)
  · obtain ⟨hcommands, hwritten⟩ := heard_converse hspawn source s ⟨herr, hout, happart⟩
    exact ⟨hwritten, hcommands, count_newline_said fun d hd => (hcommands d hd).2⟩

/-- `cd` without a directory says one line. -/
theorem diagnostics_agree_cd :
    let s : Session :=
      { machine := { files := .empty, workingDirectory := ⟨[], 0⟩ }
        environment := { directory := [47] } }
    let spawn : Spawner := fun _ _ => .error .accessDenied
    let d := Dispatch.of spawn (Words.ofLine "cd --") s
    let source : Source.Stream := { fills := [.bytes (Bytes.ofText "cd --\nexit\n")] }
    s.console.err.TakesAll ∧ s.console.out.AnswersInOneLine ∧ RefusesPlainly spawn ∧
      s.console.children ≠ .shared ∧ d.verdict = .goOnAfterFault ∧ d.said.IsLine ∧
      (s.converse spawn source).session.console.err.written.count Outlet.newline
        = (Loop.dispatches spawn ⟨.asking, source, s⟩).countP
            fun d => d.verdict = .goOnAfterFault := by
  intro s spawn d source
  have herr : s.console.err.TakesAll := ⟨⟨rfl, by decide⟩, fun _ => rfl⟩
  have hout : s.console.out.AnswersInOneLine :=
    (Channel.answersWith_iff_of_last rfl).2 ⟨nofun, nofun⟩
  have hspawn : RefusesPlainly spawn := by
    intro r scene cause hcause
    cases hcause
    exact .number 13
  have happart : s.console.children ≠ .shared := by decide
  have hfailed : d.verdict = .goOnAfterFault := by
    have hwords : Words.ofLine "cd --" = ["cd", "--"] := by decide
    show (s.runWords spawn (Words.ofLine "cd --")).1 = _
    rw [hwords]
    rfl
  obtain ⟨hline, hruns⟩ := (diagnostics_agree spawn s herr).2 hout hspawn
  obtain ⟨hwritten, -, hcount⟩ := hruns happart source
  refine ⟨herr, hout, hspawn, happart, hfailed, hline "cd --" hfailed, ?_⟩
  rw [hwritten, List.count_append, hcount]
  exact Nat.zero_add _

/-- An output may give its reason in two lines, and it is reported as it
is given: one command has failed, and has said two lines. -/
theorem two_lines_of_a_reason :
    let s : Session :=
      { machine := { files := .empty, workingDirectory := ⟨[], 0⟩ }
        environment := { directory := [47] }
        console :=
          { out := { channel := { room := some 0, refusal := some (.worded .other "a\nb") } } } }
    let d := Dispatch.of (fun _ _ => .error .accessDenied) (Words.ofLine "echo hi") s
    s.console.err.TakesAll ∧ d.verdict = .goOnAfterFault ∧
      d.said = Bytes.ofText "lsh: write error: a\nb\n" ∧ ¬d.said.IsLine := by
  intro s d
  have herr : s.console.err.TakesAll := ⟨⟨rfl, by decide⟩, fun _ => rfl⟩
  have hwords : Words.ofLine "echo hi" = ["echo", "hi"] := by decide
  have hpiece : Bytes.ofText "hi" = [104, 105] := by decide
  have hrefused : ((s.begun "echo").console.out.print [Bytes.ofText "hi", Builtin.lineEnd]).1
      = some (.worded .other "a\nb") := by
    rw [hpiece]
    simp [s, begun, note, Console.note, Outlet.print, Outlet.write, Outlet.pass,
      Outlet.andThen, Channel.write, Channel.offer, Channel.accepts, Channel.answer]
  have hrun : s.runWords (fun _ _ => .error .accessDenied) (Words.ofLine "echo hi")
      = ((s.begun "echo").printed [Bytes.ofText "hi", Builtin.lineEnd]).report
          (.outputFailed (.worded .other "a\nb")) := by
    rw [hwords]
    exact print_of_refused hrefused
  have hsaid : d.said = Bytes.ofText "lsh: write error: a\nb\n" := by
    refine Dispatch.said_of_written ?_
    show (Session.runWords _ _ s).2.console.err.written = _
    rw [hrun]
    refine (Console.complain_spec herr _).2.trans ?_
    decide
  have hfailed : d.verdict = .goOnAfterFault := congrArg Prod.fst hrun
  refine ⟨herr, hfailed, hsaid, fun hline => ?_⟩
  have hcount := Bytes.count_newline_of_isLine hline
  rw [hsaid] at hcount
  exact absurd hcount (by decide)

end Session

end LineShell
