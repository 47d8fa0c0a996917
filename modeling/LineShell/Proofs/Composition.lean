/-
Inputs that follow each other. A session that reads one input to its end
and then another does what it does with the two as one input: nothing but
the session itself is carried over from one line to the next, so it does
not matter where the input is cut, as long as no line is.

The cut costs a prompt, to which the first input has no line left, and a
flush of the output behind it (`Session.OneTurnLess`). That the flush is not
noticed by what follows is `Outlet.FlushesThrough.even_flush`, and the two
ways to read are compared as commands in sequence (`alike_converse_perform`).
An outlet that holds something back may notice it if its channel fills up
(`Outlet.flush_noticed`); a channel alone does not, for what it answers is
told by what was offered to it.

An input that asks to leave is as good as one with more behind it. This is
told turn by turn, for then the two are in step up to the last turn
(`converse_front_of_leaving`).
-/
import LineShell.Proofs.Deeds
import LineShell.Proofs.Sequence

namespace LineShell

/-- Outlets for output that may differ in how often they were flushed. -/
def Likeness.even : Likeness where
  out := Outlet.Even
  err := Eq
  print := Outlet.Even.print
  flush h := ⟨h.flush.1, h.flush.2.1⟩
  lend := Outlet.Even.lend
  complain := Likeness.same.complain

/-- Programs do not see how often that was. -/
theorem Likeness.lends_even : even.Lends where
  out h := ⟨h.flush.2.2.clear, h.takeBack_flush⟩
  finds := Likeness.lends_same.finds
  leaves := Likeness.lends_same.leaves

-- ============================================================ what is read

theorem untilExit_append {lines : List String} (h : lines.any asksToLeave = false)
    (more : List String) : untilExit (lines ++ more) = lines ++ untilExit more := by
  induction lines with
  | nil => rfl
  | cons line lines ih =>
      rw [List.any_cons, Bool.or_eq_false_iff] at h
      rw [List.cons_append, untilExit_of_stays (by simp [h.1]), ih h.2, List.cons_append]

/-- Behind lines of which none leaves the readings are those of what
follows. -/
theorem readingsUntilExit_append {lines : List String} (h : lines.any asksToLeave = false)
    (more : List String) :
    readingsUntilExit (lines ++ more) = lines.map Reading.line ++ readingsUntilExit more := by
  rw [readingsUntilExit, untilExit_append h, List.any_append, h, Bool.false_or, List.map_append,
    List.append_assoc]
  rfl

namespace Source.Stream

theorem announced_succ (prompt : String) (count : Nat) (o : Outlet) :
    announced prompt (count + 1) o = (announce prompt (announced prompt count o)).2 := by
  induction count generalizing o with
  | zero => rfl
  | succ count ih => exact ih _

theorem announced_add (prompt : String) (count more : Nat) (o : Outlet) :
    announced prompt more (announced prompt count o) = announced prompt (count + more) o := by
  induction more with
  | zero => rfl
  | succ more ih => rw [announced_succ, ih, ← Nat.add_assoc, announced_succ]

/-- A stream with more behind it is read in the same way, as long as there
is a line. -/
theorem read_front {a a' ab : Stream} {prompt line : String} {console console' : Console}
    {more : List String} (hflows : Fill.Flows ab.fills) (hprompts : ab.prompts = a.prompts)
    (hlines : ab.lines = line :: more)
    (h : Source.read prompt a console = (.line line, a', console')) :
    ∃ ab', Source.read prompt ab console = (.line line, ab', console') ∧ Fill.Flows ab'.fills ∧
      ab'.prompts = a'.prompts ∧ ab'.lines = more := by
  rcases hread : Source.read prompt ab console with ⟨reading, ab', console''⟩
  have hconsole : console'' = console' := by
    have hshown : (ab.showPrompt prompt console).2 = (a.showPrompt prompt console).2 := by
      simp only [showPrompt, hprompts]
      cases a.prompts with
      | none => rfl
      | some outlet => rfl
    have hab : (ab.showPrompt prompt console).2 = console'' :=
      congrArg (fun read => read.2.2) hread
    have ha : (a.showPrompt prompt console).2 = console' := congrArg (fun read => read.2.2) h
    rw [← hab, hshown, ha]
  subst hconsole
  obtain ⟨hflows', ⟨hnone, -⟩ | ⟨line', hlines', rfl⟩⟩ := read_of_flows hread hflows
  · rw [hlines] at hnone
    cases hnone
  · obtain ⟨rfl, rfl⟩ := List.cons.inj (hlines.symm.trans hlines')
    refine ⟨ab', rfl, hflows', ?_, rfl⟩
    rw [prompts_of_read hread, prompts_of_read h, hprompts]

/-- A stream with the lines of two others, one behind the other. All three
are read without errors and have outlets of their own for prompts. -/
structure Joins (a b ab : Stream) : Prop where
  flows₁ : Fill.Flows a.fills
  flows₂ : Fill.Flows b.fills
  flows : Fill.Flows ab.fills
  prompts₁ : a.prompts.isSome
  prompts₂ : b.prompts.isSome
  prompts : ab.prompts.isSome
  lines : ab.lines = a.lines ++ b.lines

end Source.Stream

namespace Session

variable {spawn : Spawner}

-- ========================================================= asking to leave

/-- A command of a stream leaves if one of its lines asks for it. -/
theorem exists_leave_iff (spawn : Spawner) (source : Source.Stream) (s : Session)
    (hflows : Fill.Flows source.fills) :
    (∃ d ∈ Loop.dispatches spawn ⟨.asking, source, s⟩, d.verdict = .leave)
      ↔ source.lines.any asksToLeave = true := by
  have hdispatched : ∀ (line : String) (s : Session),
      (∃ d ∈ s.dispatched spawn line, d.verdict = .leave) ↔ asksToLeave line = true := by
    intro line s
    by_cases hblank : Words.ofLine line = []
    · simp [dispatched_of_blank hblank, asksToLeave, hblank]
    · rw [dispatched_of_words hblank, asksToLeave, beq_iff_eq,
        ← verdict_eq_leave_iff spawn (Words.ofLine line) (s.split line).2]
      simp [Dispatch.of]
  induction source, s, hflows using turns_of_lines spawn with
  | finished _ h hlines =>
      rw [Loop.dispatches_of_finished h, hlines]
      simp
  | @leaves _ _ s console line _ h hlines hleave =>
      obtain ⟨d, hmem, hverdict⟩ := (hdispatched line { s with console }).2 hleave
      rw [Loop.dispatches_of_line h, hlines, List.any_cons, hleave]
      exact iff_of_true ⟨d, List.mem_append_left _ hmem, hverdict⟩ rfl
  | @goesOn _ _ s console line _ hflows' h hlines hstay ih =>
      rw [Loop.dispatches_of_line h, if_pos ((goesOn_runLine_iff spawn _ _).2 hstay), hlines,
        List.any_cons, Bool.or_eq_true]
      refine Iff.trans ?_ (or_congr (hdispatched line { s with console }) ih)
      simp only [List.mem_append, or_and_right, exists_or]

/-- What is behind a line that asks to leave makes no difference, and is
left to read. -/
theorem converse_front_of_leaving (spawn : Spawner) (a ab : Source.Stream) {s : Session}
    {more : List String} (hflows_a : Fill.Flows a.fills) (hflows : Fill.Flows ab.fills)
    (hprompts : ab.prompts = a.prompts) (hlines : ab.lines = a.lines ++ more)
    (hleave : a.lines.any asksToLeave = true) :
    (s.converse spawn ab).session = (s.converse spawn a).session ∧
      Loop.dispatches spawn ⟨.asking, ab, s⟩ = Loop.dispatches spawn ⟨.asking, a, s⟩ ∧
      (s.converse spawn ab).source.prompts = (s.converse spawn a).source.prompts ∧
      (s.converse spawn ab).source.lines = (s.converse spawn a).source.lines ++ more := by
  induction a, s, hflows_a using turns_of_lines spawn generalizing ab with
  | finished _ _ hnone =>
      rw [hnone] at hleave
      cases hleave
  | @leaves _ _ s console line _ h hcut hleaves =>
      rw [hcut] at hlines
      obtain ⟨ab', hread, -, hprompts', hlines'⟩ :=
        Source.Stream.read_front hflows hprompts hlines h
      have hstops := mt (goesOn_runLine_iff spawn line { s with console }).1 (not_not.2 hleaves)
      rw [converse_of_line_leaves h hstops, converse_of_line_leaves hread hstops,
        Loop.dispatches_of_line h, Loop.dispatches_of_line hread, if_neg hstops, if_neg hstops]
      exact ⟨rfl, rfl, hprompts', hlines'⟩
  | @goesOn _ _ s console line _ hflows' h hcut hstay ih =>
      rw [hcut] at hlines
      obtain ⟨ab', hread, hflows_ab', hprompts', hlines'⟩ :=
        Source.Stream.read_front hflows hprompts hlines h
      have hgo := (goesOn_runLine_iff spawn line { s with console }).2 hstay
      have hlater := hleave
      rw [hcut, List.any_cons, Bool.or_eq_true] at hlater
      obtain ⟨hsession, hdispatches, hends, hrest⟩ :=
        ih ab' hflows_ab' hprompts' hlines' (hlater.resolve_left hstay)
      rw [converse_of_line_goesOn h hgo, converse_of_line_goesOn hread hgo,
        Loop.dispatches_of_line h, Loop.dispatches_of_line hread, if_pos hgo, if_pos hgo,
        hdispatches]
      exact ⟨hsession, rfl, hends, hrest⟩

-- ========================================================== one at a time

/-- The prompt is the same at the end. -/
theorem prompt_converse {σ : Type} [Source σ] (spawn : Spawner) (source : σ) (s : Session) :
    (s.converse spawn source).session.prompt = s.prompt := by
  have hleads := Loop.leads_run spawn ⟨.asking, source, s⟩
  exact (hleads.invariant (fun t => t.prompt = s.prompt) (fun _ => True)
    (fun hbehind hprompt => (prompt_eq_of_behind hbehind).trans hprompt)
    (fun words t hprompt => ⟨trivial, (outcome_runWords spawn words t).prompt_eq.trans hprompt⟩)
    rfl).2

/-- How many of the commands that were told of are those of programs. -/
def programsAmong (told : List (List String × Verdict)) : Nat :=
  told.countP fun ran => Builtin.isProgram ran.1

/-- A stream flushes the output once for each program and once at the end. -/
theorem flushes_converse (spawn : Spawner) (source : Source.Stream) (s : Session)
    (hflows : Fill.Flows source.fills) (hprompts : source.prompts.isSome)
    (hout : s.console.out.FlushesThrough) :
    (s.converse spawn source).session.console.out.FlushesThrough ∧
      (s.converse spawn source).session.console.out.channel.flushes
        = s.console.out.channel.flushes
          + (programsAmong ((Loop.dispatches spawn ⟨.asking, source, s⟩).map Dispatch.told)
            + 1) := by
  obtain ⟨traces, closing, horderly, hcloses, hdoes⟩ :=
    orderly_converse spawn source s (Source.Stream.leavesOutput hprompts)
  rw [result_of_flows source s hflows] at hcloses
  obtain ⟨answer, rfl⟩ := hcloses
  obtain ⟨hout', hflushes⟩ := hdoes.flushes hout
  refine ⟨hout', ?_⟩
  rw [hflushes, List.countP_append, Dispatch.countP_isFlush_flatten horderly, programsAmong,
    List.countP_map]
  rfl

section continued

variable {a b ab : Source.Stream} {s : Session}

/-- A second input is read as if it were behind the first, if no command of
that leaves. The flush between them makes no difference. -/
theorem alike_continued (spawn : Spawner) (hjoins : a.Joins b ab)
    (hout : s.console.out.FlushesThrough)
    (hstay : ∀ ran ∈ (Loop.dispatches spawn ⟨.asking, a, s⟩).map Dispatch.told,
      ran.2 ≠ .leave) :
    ∃ s₁ s₂ : Session, s₁.Alike .even s₂ ∧
      ((s.converse spawn a).session.converse spawn b).session.Alike .same s₁.flushed ∧
      (s.converse spawn ab).session.Alike .same s₂.flushed ∧
      (Loop.dispatches spawn ⟨.asking, ab, s⟩).map Dispatch.told
        = (Loop.dispatches spawn ⟨.asking, a, s⟩).map Dispatch.told
          ++ (Loop.dispatches spawn ⟨.asking, b, (s.converse spawn a).session⟩).map
              Dispatch.told := by
  obtain ⟨hended_a, htold_a⟩ :=
    alike_converse_perform spawn a hjoins.flows₁ hjoins.prompts₁ (Alike.refl s)
  obtain ⟨hended_b, htold_b⟩ := alike_converse_perform spawn b hjoins.flows₂ hjoins.prompts₂
    (Alike.refl (s.converse spawn a).session)
  obtain ⟨hended_ab, htold_ab⟩ :=
    alike_converse_perform spawn ab hjoins.flows hjoins.prompts (Alike.refl s)
  rw [htold_a] at hstay
  rw [hjoins.lines, commandsOf_append, perform_append hstay] at hended_ab htold_ab
  -- the first input has left a session that is flushed, and even with the one that is not
  generalize hmid : (s.perform spawn (commandsOf a.lines)).2 = mid at hended_a hended_ab htold_ab
  have heven : (s.converse spawn a).session.Alike .even mid := by
    have hstart : s.Alike .even s :=
      ⟨rfl, Outlet.even_self_iff.2 hout, rfl, rfl, rfl, fun _ => Likeness.lends_even⟩
    have hthrough := (alike_perform spawn (commandsOf a.lines) hstart).2.console.out
    rw [hmid] at hthrough
    have hafter : (s.converse spawn a).session.console.out = mid.console.out.flush.2 :=
      hended_a.console.out
    refine ⟨hended_a.behind, ?_, hended_a.console.err, hended_a.console.input,
      hended_a.console.children, fun _ => Likeness.lends_even⟩
    rw [hafter]
    exact (Outlet.even_self_iff.1 hthrough).even_flush
  obtain ⟨htold, halike⟩ := alike_perform spawn (commandsOf b.lines) heven
  refine ⟨_, _, halike, hended_b, hended_ab, ?_⟩
  rw [htold_ab, htold_a, htold_b, htold]

/-- There is one flush more, at the end of the first input. -/
theorem flushes_continued (spawn : Spawner) (hjoins : a.Joins b ab)
    (hout : s.console.out.FlushesThrough)
    (htold : (Loop.dispatches spawn ⟨.asking, ab, s⟩).map Dispatch.told
      = (Loop.dispatches spawn ⟨.asking, a, s⟩).map Dispatch.told
        ++ (Loop.dispatches spawn ⟨.asking, b, (s.converse spawn a).session⟩).map
            Dispatch.told) :
    ((s.converse spawn a).session.converse spawn b).session.console.out.channel.flushes
      = (s.converse spawn ab).session.console.out.channel.flushes + 1 := by
  obtain ⟨hout_a, hcount_a⟩ := flushes_converse spawn a s hjoins.flows₁ hjoins.prompts₁ hout
  obtain ⟨-, hcount_b⟩ := flushes_converse spawn b (s.converse spawn a).session hjoins.flows₂
    hjoins.prompts₂ hout_a
  obtain ⟨-, hcount_ab⟩ := flushes_converse spawn ab s hjoins.flows hjoins.prompts hout
  rw [htold, programsAmong, List.countP_append] at hcount_ab
  rw [hcount_b, hcount_a, hcount_ab, programsAmong, programsAmong]
  omega

/-- And one prompt more, to which there is no line. -/
theorem prompts_continued (spawn : Spawner) (hjoins : a.Joins b ab)
    (hprompts : ab.prompts = a.prompts)
    (hprompts_b : b.prompts = (s.converse spawn a).source.prompts)
    (hnone : a.lines.any asksToLeave = false) :
    ((s.converse spawn a).session.converse spawn b).source.prompts
      = (s.converse spawn ab).source.prompts.map
          (fun o => (Source.Stream.announce s.prompt o).2) := by
  have hends := congrArg List.length (readingsUntilExit_append hnone [])
  have hcontinues := congrArg List.length (readingsUntilExit_append hnone b.lines)
  rw [List.append_nil, List.length_append] at hends
  rw [← hjoins.lines, List.length_append] at hcontinues
  obtain ⟨outlet, houtlet⟩ := Option.isSome_iff_exists.1 hjoins.prompts₁
  rw [prompts_converse spawn b _ hjoins.flows₂, prompts_converse spawn ab s hjoins.flows,
    hprompts_b, hprompts, prompts_converse spawn a s hjoins.flows₁, prompt_converse, houtlet]
  simp only [Option.map_some]
  rw [Source.Stream.announced_add, ← Source.Stream.announced_succ, hcontinues, hends,
    show readingsUntilExit [] = [.finished] from rfl, List.length_singleton, Nat.add_right_comm]

/-- What comes of two inputs as one (`both`), and of the one behind the other
(`second`): the same, but for a turn at the end of the first, at which there
was nothing left to read. It has cost a flush of the output and a prompt. -/
structure OneTurnLess (prompt : String) (both second : LoopEnd Source.Stream) : Prop where
  result : both.result = second.result
  /-- All is the same but the output and the log. -/
  session : (both.session.withOut {}).unlogged = (second.session.withOut {}).unlogged
  /-- The output has received the same, -/
  received : both.session.console.out.channel.received
    = second.session.console.out.channel.received
  /-- and goes on alike, -/
  clear : both.session.console.out.channel.clear = second.session.console.out.channel.clear
  /-- but was flushed once more. -/
  flushes : second.session.console.out.channel.flushes
    = both.session.console.out.channel.flushes + 1
  prompts : second.source.prompts
    = both.source.prompts.map (fun o => (Source.Stream.announce prompt o).2)

/-- Two inputs come to the same one after the other and as one, if no command
of the first leaves, and flushes go through to the channel of the output.
What programs find on it, and whether they write there, does not matter. -/
theorem oneTurnLess_continued (spawn : Spawner) (hjoins : a.Joins b ab)
    (hout : s.console.out.FlushesThrough)
    (hprompts : ab.prompts = a.prompts)
    (hprompts_b : b.prompts = (s.converse spawn a).source.prompts)
    (hstay : ∀ ran ∈ (Loop.dispatches spawn ⟨.asking, a, s⟩).map Dispatch.told,
      ran.2 ≠ .leave) :
    (Loop.dispatches spawn ⟨.asking, ab, s⟩).map Dispatch.told
        = (Loop.dispatches spawn ⟨.asking, a, s⟩).map Dispatch.told
          ++ (Loop.dispatches spawn ⟨.asking, b, (s.converse spawn a).session⟩).map
              Dispatch.told ∧
      OneTurnLess s.prompt (s.converse spawn ab)
        ((s.converse spawn a).session.converse spawn b) := by
  have hnone : a.lines.any asksToLeave = false := by
    rw [Bool.eq_false_iff]
    intro hasks
    obtain ⟨d, hmem, hverdict⟩ := (exists_leave_iff spawn a s hjoins.flows₁).2 hasks
    exact hstay d.told (List.mem_map_of_mem hmem) hverdict
  obtain ⟨s₁, s₂, heven, hsecond, hboth, htold⟩ := alike_continued spawn hjoins hout hstay
  -- both ways end with a flush of outlets that are even before it
  have hout_both : (s.converse spawn ab).session.console.out = s₂.console.out.flush.2 :=
    hboth.console.out
  have hout_second : ((s.converse spawn a).session.converse spawn b).session.console.out
      = s₁.console.out.flush.2 := hsecond.console.out
  have hchannels := heven.console.out.flush.2.2
  refine ⟨htold, ?_, ?_, ?_, ?_, flushes_continued spawn hjoins hout htold,
    prompts_continued spawn hjoins hprompts hprompts_b hnone⟩
  · exact (result_of_flows ab s hjoins.flows).trans (result_of_flows b _ hjoins.flows₂).symm
  · calc ((s.converse spawn ab).session.withOut {}).unlogged
        = (s₂.withOut {}).unlogged := hboth.unlogged_withOut hboth.console.err {}
      _ = (s₁.withOut {}).unlogged := (heven.unlogged_withOut heven.console.err {}).symm
      _ = (((s.converse spawn a).session.converse spawn b).session.withOut {}).unlogged :=
        (hsecond.unlogged_withOut hsecond.console.err {}).symm
  · rw [hout_both, hout_second]
    exact hchannels.received.symm
  · rw [hout_both, hout_second]
    exact hchannels.clear.symm

end continued

/-- Two inputs, the first of which ends where a line ends, come to the same
one after the other and as one, whatever channels the output and the
diagnostics go to and wherever programs write. If no command of the first
leaves, the same is told of the same commands, and one turn less comes of
it. If a command of the first leaves, the session is that of the first input
alone, and the lines of the second are left to read. -/
theorem sessions_compose (spawn : Spawner) (front back joined : List Fill) (prompts : Outlet)
    (channel : Channel) (s : Session) (hfront : Fill.Flows front) (hback : Fill.Flows back)
    (hjoined : Fill.Flows joined) (hwhole : (Fill.contents front).IsWhole)
    (hcontents : Fill.contents joined = Fill.contents front ++ Fill.contents back) :
    let start := s.withOut { channel }
    let first := start.converse spawn { fills := front, prompts := some prompts : Source.Stream }
    let second := first.session.converse spawn
      { fills := back, prompts := first.source.prompts : Source.Stream }
    let both := start.converse spawn { fills := joined, prompts := some prompts : Source.Stream }
    let told (fills : List Fill) (prompts : Option Outlet) (s : Session) :=
      (Loop.dispatches spawn ⟨.asking, ({ fills, prompts } : Source.Stream), s⟩).map Dispatch.told
    ((∀ ran ∈ told front (some prompts) start, ran.2 ≠ .leave) →
      told joined (some prompts) start
          = told front (some prompts) start ++ told back first.source.prompts first.session ∧
        OneTurnLess s.prompt both second) ∧
    ((∃ ran ∈ told front (some prompts) start, ran.2 = .leave) →
      both.result = first.result ∧
        told joined (some prompts) start = told front (some prompts) start ∧
        both.session = first.session ∧ both.source.prompts = first.source.prompts ∧
        both.source.lines = first.source.lines ++ (Fill.contents back).lines) := by
  intro start first second both told
  have hlines : (Fill.contents joined).lines
      = (Fill.contents front).lines ++ (Fill.contents back).lines := by
    rw [hcontents, Bytes.lines_append hwhole]
  constructor
  · intro hstay
    have hjoins : Source.Stream.Joins { fills := front, prompts := some prompts }
        { fills := back, prompts := first.source.prompts }
        { fills := joined, prompts := some prompts } := by
      refine ⟨hfront, hback, hjoined, rfl, ?_, rfl, hlines⟩
      rw [show first.source.prompts = _ from prompts_converse spawn _ start hfront]
      rfl
    exact oneTurnLess_continued spawn hjoins (.inl rfl) rfl rfl hstay
  · rintro ⟨ran, hmem, hverdict⟩
    obtain ⟨d, hd, rfl⟩ := List.mem_map.1 hmem
    have hleave := (exists_leave_iff spawn { fills := front, prompts := some prompts } start
      hfront).1 ⟨d, hd, hverdict⟩
    obtain ⟨hsession, hdispatches, hprompts, hrest⟩ := converse_front_of_leaving spawn
      { fills := front, prompts := some prompts } { fills := joined, prompts := some prompts }
      hfront hjoined rfl hlines hleave
    exact ⟨(result_of_flows _ start hjoined).trans (result_of_flows _ start hfront).symm,
      congrArg (List.map Dispatch.told) hdispatches, hsession, hprompts, hrest⟩

/-- A cut between two fills or within one, after a blank line, with programs
that write where the session does: the output receives the same and is
flushed once more. With `exit` in front of the cut what is behind it is left
to read. -/
theorem sessions_compose_two_commands :
    let spawn : Spawner := fun _ _ => .error .noEntry
    let channel : Channel := { room := some 3, portion := some 2 }
    let s : Session :=
      { machine := { files := .empty, workingDirectory := ⟨[], 0⟩ }
        environment := { directory := [47] }
        console := { out := { channel }, children := .shared } }
    let back : List Fill := [.bytes (Bytes.ofText "ls\necho b")]
    let ended (fills : List Fill) :=
      s.converse spawn { fills, prompts := some {} : Source.Stream }
    let first := ended [.bytes (Bytes.ofText "pwd\n\n")]
    let second := first.session.converse spawn
      { fills := back, prompts := first.source.prompts : Source.Stream }
    let both := ended (.bytes (Bytes.ofText "pwd\n\n") :: back)
    let left := ended [.bytes (Bytes.ofText "exit\nls\necho b")]
    both.session.console.out.channel.received = second.session.console.out.channel.received ∧
      second.session.console.out.channel.flushes
        = both.session.console.out.channel.flushes + 1 ∧
      left.session = (ended [.bytes (Bytes.ofText "exit\n")]).session ∧
      left.source.lines = (ended [.bytes (Bytes.ofText "exit\n")]).source.lines
        ++ ["ls", "echo b"] := by
  intro spawn channel s back ended first second both left
  have hflows : ∀ contents : List Bytes, Fill.Flows (contents.map Fill.bytes) := by
    intro contents cause hmem
    simp at hmem
  obtain ⟨hcomposes, -⟩ := sessions_compose spawn [.bytes (Bytes.ofText "pwd\n\n")] back
    (.bytes (Bytes.ofText "pwd\n\n") :: back) {} channel s (hflows [_]) (hflows [_])
    (hflows [_, _]) (.inr (by decide)) (by decide)
  obtain ⟨-, hleaves⟩ := sessions_compose spawn [.bytes (Bytes.ofText "exit\n")] back
    [.bytes (Bytes.ofText "exit\nls\necho b")] {} channel s (hflows [_]) (hflows [_])
    (hflows [_]) (.inr (by decide)) (by decide)
  have hstay : ∀ ran ∈ (Loop.dispatches spawn ⟨.asking,
      ({ fills := [.bytes (Bytes.ofText "pwd\n\n")], prompts := some {} } : Source.Stream),
      s⟩).map Dispatch.told, ran.2 ≠ .leave := by
    intro ran hmem hverdict
    obtain ⟨d, hd, rfl⟩ := List.mem_map.1 hmem
    have hasks := (exists_leave_iff spawn _ s (hflows [_])).1 ⟨d, hd, hverdict⟩
    exact absurd hasks (by decide)
  have hexit : ∃ ran ∈ (Loop.dispatches spawn ⟨.asking,
      ({ fills := [.bytes (Bytes.ofText "exit\n")], prompts := some {} } : Source.Stream),
      s⟩).map Dispatch.told, ran.2 = .leave := by
    obtain ⟨d, hd, hverdict⟩ := (exists_leave_iff spawn
      { fills := [.bytes (Bytes.ofText "exit\n")], prompts := some {} } s (hflows [_])).2
      (by decide)
    exact ⟨d.told, List.mem_map_of_mem hd, hverdict⟩
  obtain ⟨-, hless⟩ := hcomposes hstay
  obtain ⟨-, -, hsession, -, hrest⟩ := hleaves hexit
  exact ⟨hless.received, hless.flushes, hsession, hrest.trans (congrArg _ (by decide))⟩

end Session
end LineShell
