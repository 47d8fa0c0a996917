/-
What a session makes of its input, without the loop. The commands of the
input are run one after the other until one of them leaves (`perform`);
there are no lines in this, no prompts and no end of the input. A stream
that is read without errors comes to the same, but for the log and one
flush at the end (`alike_converse_perform`). So nothing of the input
matters but its commands, the words of the lines that are not blank.

# Blank lines

The two sides are not in step, since a blank line takes a turn and a prompt
and is no command. The induction is along the turns, and a turn with a
blank line leaves the other side where it is. How many such turns there
were shows in the number of prompts, and nowhere else
(`length_readingsUntilExit`).
-/
import LineShell.Proofs.Exit
import LineShell.Proofs.Likeness
import Mathlib.Logic.Relation

namespace LineShell

-- ===================================================== commands of lines

theorem commandsOf_append (lines more : List String) :
    commandsOf (lines ++ more) = commandsOf lines ++ commandsOf more := by
  unfold commandsOf
  rw [List.map_append, List.filter_append]

theorem commandsOf_of_blank {line : String} (h : Words.ofLine line = []) (lines : List String) :
    commandsOf (line :: lines) = commandsOf lines := by
  simp [commandsOf, h]

theorem commandsOf_of_words {line : String} (h : Words.ofLine line ≠ []) (lines : List String) :
    commandsOf (line :: lines) = Words.ofLine line :: commandsOf lines := by
  simp [commandsOf, h]

theorem commandsOf_singleton {line line' : String} (h : Words.ofLine line = Words.ofLine line') :
    commandsOf [line] = commandsOf [line'] := by
  unfold commandsOf
  rw [List.map_singleton, List.map_singleton, h]

/-- Whether a line asks to leave shows in its command. -/
theorem any_asksToLeave (lines : List String) :
    lines.any asksToLeave = (commandsOf lines).any (·.head? == some "exit") := by
  induction lines with
  | nil => rfl
  | cons line lines ih =>
      rw [List.any_cons, ih]
      by_cases hblank : Words.ofLine line = []
      · rw [commandsOf_of_blank hblank, asksToLeave, hblank]
        rfl
      · rw [commandsOf_of_words hblank, List.any_cons]
        rfl

/-- How many blank lines are read of these. -/
def blanksRead (lines : List String) : Nat :=
  (untilExit lines).countP fun line => Words.ofLine line = []

/-- A reading is one of a command, of a blank line, or of the end. -/
theorem length_readingsUntilExit (lines : List String) :
    (readingsUntilExit lines).length
      = (commandsOf (untilExit lines)).length + blanksRead lines
        + if (commandsOf lines).any (·.head? == some "exit") then 0 else 1 := by
  have hsplit : (untilExit lines).length
      = (commandsOf (untilExit lines)).length + blanksRead lines := by
    rw [List.length_eq_countP_add_countP (fun line => Words.ofLine line ≠ []), commandsOf,
      ← List.countP_eq_length_filter, List.countP_map, blanksRead]
    simp [Function.comp_def]
  rw [readingsUntilExit, List.length_append, List.length_map, hsplit, any_asksToLeave]
  split
  · rfl
  · rfl

namespace Session

variable {spawn : Spawner} {L : Likeness}

-- ============================================================ in sequence

/-- Runs commands one after the other, until one of them leaves. Gives what
is told of those that were run. -/
def perform (spawn : Spawner) :
    List (List String) → Session → List (List String × Verdict) × Session
  | [], s => ([], s)
  | words :: commands, s =>
    let (verdict, s) := s.runWords spawn words
    if verdict.goesOn then
      let (told, s) := perform spawn commands s
      ((words, verdict) :: told, s)
    else ([(words, verdict)], s)

theorem perform_of_goesOn {words : List String} {s : Session}
    (h : (s.runWords spawn words).1.goesOn) (commands : List (List String)) :
    s.perform spawn (words :: commands)
      = ((words, (s.runWords spawn words).1)
          :: ((s.runWords spawn words).2.perform spawn commands).1,
        ((s.runWords spawn words).2.perform spawn commands).2) := by
  rw [perform]
  dsimp only
  rw [if_pos h]

theorem perform_of_leaves {words : List String} {s : Session}
    (h : ¬(s.runWords spawn words).1.goesOn) (commands : List (List String)) :
    s.perform spawn (words :: commands)
      = ([(words, (s.runWords spawn words).1)], (s.runWords spawn words).2) := by
  rw [perform]
  dsimp only
  rw [if_neg h]

/-- Commands behind others, of which none leaves, are run where these have
ended. -/
theorem perform_append {front : List (List String)} {s : Session}
    (h : ∀ told ∈ (s.perform spawn front).1, told.2 ≠ .leave) (back : List (List String)) :
    s.perform spawn (front ++ back)
      = ((s.perform spawn front).1 ++ ((s.perform spawn front).2.perform spawn back).1,
        ((s.perform spawn front).2.perform spawn back).2) := by
  induction front generalizing s with
  | nil => rfl
  | cons words front ih =>
      have hgo : (s.runWords spawn words).1.goesOn := by
        by_contra hleaves
        have hverdict := h (words, (s.runWords spawn words).1) (by
          rw [perform_of_leaves hleaves]
          exact List.mem_singleton_self _)
        exact hleaves (Verdict.goesOn_iff.2 hverdict)
      rw [perform_of_goesOn hgo] at h ⊢
      have hrest := ih fun told hmem => h told (List.mem_cons_of_mem _ hmem)
      rw [List.cons_append, perform_of_goesOn hgo, hrest]
      rfl

/-- Commands do the same in alike sessions. -/
theorem alike_perform (spawn : Spawner) (commands : List (List String)) {s₁ s₂ : Session}
    (h : s₁.Alike L s₂) :
    (s₁.perform spawn commands).1 = (s₂.perform spawn commands).1 ∧
      (s₁.perform spawn commands).2.Alike L (s₂.perform spawn commands).2 := by
  induction commands generalizing s₁ s₂ with
  | nil => exact ⟨rfl, h⟩
  | cons words commands ih =>
      obtain ⟨hverdict, hsession⟩ := alike_runWords spawn h words
      by_cases hgo : (s₁.runWords spawn words).1.goesOn
      · obtain ⟨htold, hrest⟩ := ih hsession
        rw [perform_of_goesOn hgo, perform_of_goesOn (hverdict ▸ hgo), hverdict, htold]
        exact ⟨rfl, hrest⟩
      · rw [perform_of_leaves hgo, perform_of_leaves (hverdict ▸ hgo), hverdict]
        exact ⟨rfl, hsession⟩

theorem dispatched_of_blank {line : String} (h : Words.ofLine line = []) (s : Session) :
    s.dispatched spawn line = [] :=
  if_pos (List.isEmpty_iff.2 h)

theorem dispatched_of_words {line : String} (h : Words.ofLine line ≠ []) (s : Session) :
    s.dispatched spawn line = [Dispatch.of spawn (Words.ofLine line) (s.split line).2] :=
  if_neg (mt List.isEmpty_iff.1 h)

/-- A line after which the loop goes on is the command that it has, if it has
one. -/
theorem perform_line_of_goesOn {line : String} {s₁ s₂ : Session} (h : s₁.Alike L s₂)
    (hgo : (s₁.runLine spawn line).1.goesOn) :
    ∃ s₂' : Session, (s₁.runLine spawn line).2.Alike L s₂' ∧
      ∀ lines, s₂.perform spawn (commandsOf (line :: lines))
        = ((s₁.dispatched spawn line).map Dispatch.told
            ++ (s₂'.perform spawn (commandsOf lines)).1,
          (s₂'.perform spawn (commandsOf lines)).2) := by
  have hline : s₁.runLine spawn line = (s₁.split line).2.runWords spawn (Words.ofLine line) := rfl
  have hsplit : (s₁.split line).2.Alike L s₂ := h.note_left _
  rw [hline] at hgo ⊢
  by_cases hblank : Words.ofLine line = []
  · refine ⟨s₂, ?_, fun lines => ?_⟩
    · rw [hblank]
      exact hsplit
    · rw [commandsOf_of_blank hblank, dispatched_of_blank hblank, List.map_nil,
        List.nil_append]
  · obtain ⟨hverdict, hsession⟩ := alike_runWords spawn hsplit (Words.ofLine line)
    refine ⟨_, hsession, fun lines => ?_⟩
    rw [commandsOf_of_words hblank, perform_of_goesOn (hverdict ▸ hgo),
      dispatched_of_words hblank, ← hverdict]
    rfl

/-- With a line after which it leaves, that is all. -/
theorem perform_line_of_leaves {line : String} {s₁ s₂ : Session} (h : s₁.Alike L s₂)
    (hleave : ¬(s₁.runLine spawn line).1.goesOn) :
    ∃ s₂' : Session, (s₁.runLine spawn line).2.Alike L s₂' ∧
      ∀ lines, s₂.perform spawn (commandsOf (line :: lines))
        = ((s₁.dispatched spawn line).map Dispatch.told, s₂') := by
  have hline : s₁.runLine spawn line = (s₁.split line).2.runWords spawn (Words.ofLine line) := rfl
  have hsplit : (s₁.split line).2.Alike L s₂ := h.note_left _
  rw [hline] at hleave ⊢
  by_cases hblank : Words.ofLine line = []
  · rw [hblank] at hleave
    exact absurd rfl hleave
  · obtain ⟨hverdict, hsession⟩ := alike_runWords spawn hsplit (Words.ofLine line)
    refine ⟨_, hsession, fun lines => ?_⟩
    rw [commandsOf_of_words hblank, perform_of_leaves (hverdict ▸ hleave),
      dispatched_of_words hblank, ← hverdict]
    rfl

-- =============================================================== the loop

/-- A stream that is read without errors is its commands in sequence, and a
flush of the output. -/
theorem alike_converse_perform (spawn : Spawner) (source : Source.Stream) {s₁ s₂ : Session}
    (hflows : Fill.Flows source.fills) (hprompts : source.prompts.isSome) (h : s₁.Alike L s₂) :
    (s₁.converse spawn source).session.Alike L
        (s₂.perform spawn (commandsOf source.lines)).2.flushed ∧
      (Loop.dispatches spawn ⟨.asking, source, s₁⟩).map Dispatch.told
        = (s₂.perform spawn (commandsOf source.lines)).1 := by
  -- what is read leaves nothing but notes behind
  have hnoted : ∀ {source source' : Source.Stream} {s₁ s₂ : Session} {console : Console}
      {reading : Reading}, source.prompts.isSome → s₁.Alike L s₂ →
      Source.read s₁.prompt source s₁.console = (reading, source', console) →
      source'.prompts.isSome ∧ ({ s₁ with console } : Session).Alike L s₂ := by
    intro source source' s₁ s₂ console reading hprompts h hread
    obtain ⟨hprompts', log, hlog⟩ :=
      Source.Stream.exists_log_read hprompts s₁.prompt s₁.console
    rw [hread] at hprompts' hlog
    obtain rfl : console = { s₁.console with log } := hlog
    exact ⟨hprompts', h.withConsole (h.console.withLog log s₂.console.log)⟩
  induction source, s₁, hflows using turns_of_lines spawn generalizing s₂ with
  | @finished source source' s₁ console hflows hread hlines =>
      obtain ⟨-, halike⟩ := hnoted hprompts h hread
      rw [converse_of_finished hread, Loop.dispatches_of_finished hread, hlines]
      exact ⟨(halike.note_left _).flushed, rfl⟩
  | @leaves source source' s₁ console line hflows hread hlines hleave =>
      obtain ⟨-, halike⟩ := hnoted hprompts h hread
      have hstops : ¬(({ s₁ with console } : Session).runLine spawn line).1.goesOn := by
        rwa [goesOn_runLine_iff, not_not]
      obtain ⟨s₂', hran, hperform⟩ := perform_line_of_leaves halike hstops
      rw [converse_of_line_leaves hread hstops, Loop.dispatches_of_line hread, if_neg hstops,
        List.append_nil, hlines, hperform]
      exact ⟨(hran.note_left _).flushed, rfl⟩
  | @goesOn source source' s₁ console line hflows hflows' hread hlines hstay ih =>
      obtain ⟨hprompts', halike⟩ := hnoted hprompts h hread
      have hgo := (goesOn_runLine_iff spawn line { s₁ with console }).2 hstay
      obtain ⟨s₂', hran, hperform⟩ := perform_line_of_goesOn halike hgo
      obtain ⟨hended, htold⟩ := ih hprompts' hran
      rw [converse_of_line_goesOn hread hgo, Loop.dispatches_of_line hread, if_pos hgo,
        List.map_append, htold, hlines, hperform]
      exact ⟨hended, rfl⟩

/-- A stream shows as many prompts as there are readings. -/
theorem prompts_converse (spawn : Spawner) (source : Source.Stream) (s : Session)
    (hflows : Fill.Flows source.fills) :
    (s.converse spawn source).source.prompts = source.prompts.map
      (Source.Stream.announced s.prompt (readingsUntilExit source.lines).length) := by
  rw [(endsAs_readAndRun spawn source s).source, prompts_readAndRun,
    readings_of_flows spawn source s hflows]

end Session

-- =================================================================== edits

namespace Bytes

/-- What a line ends with in front of other bytes: the end of a line, or
nothing if nothing follows. -/
def EndsLine (ending back : Bytes) : Prop :=
  IsLineEnd ending ∨ ending = [] ∧ back = []

/-- Bytes that are edited without a change to the words in them. -/
inductive Edited : Bytes → Bytes → Prop
  /-- A blank line is put in. -/
  | blank {front line ending back : Bytes} (hfront : front.IsWhole)
      (hline : Outlet.newline ∉ line) (hblank : Words.ofLine (Utf8.lossy line) = [])
      (hending : EndsLine ending back) : Edited (front ++ back) (front ++ (line ++ ending ++ back))
  /-- A line is spaced in another way, or gets another end. -/
  | spaced {front line line' ending ending' back : Bytes} (hfront : front.IsWhole)
      (hline : Outlet.newline ∉ line) (hline' : Outlet.newline ∉ line')
      (hwords : Words.ofLine (Utf8.lossy line) = Words.ofLine (Utf8.lossy line'))
      (hending : EndsLine ending back) (hending' : EndsLine ending' back) :
      Edited (front ++ (line ++ ending ++ back)) (front ++ (line' ++ ending' ++ back))

/-- The command of a line does not depend on how it ends. -/
theorem commandsOf_line {line ending back : Bytes} (hline : Outlet.newline ∉ line)
    (hending : EndsLine ending back) :
    commandsOf (lines (line ++ ending ++ back))
      = commandsOf [Utf8.lossy line] ++ commandsOf back.lines := by
  rcases hending with (rfl | rfl) | ⟨rfl, rfl⟩
  · rw [List.append_assoc, List.singleton_append, lines_append_newline hline,
      ← List.singleton_append, commandsOf_append,
      commandsOf_singleton (ofLine_lossy_dropReturn line)]
  · have hreturn : Outlet.newline ∉ line ++ [13] := by
      simpa [hline] using (by decide : Outlet.newline ≠ 13)
    have hcut : line ++ [13, Outlet.newline] ++ back = (line ++ [13]) ++ Outlet.newline :: back := by
      simp
    rw [hcut, lines_append_newline hreturn, ← List.singleton_append, commandsOf_append,
      commandsOf_singleton
        ((ofLine_lossy_dropReturn _).trans (ofLine_lossy_append_return line))]
  · rw [List.append_nil, List.append_nil, lines_of_not_mem hline]
    split
    · rename_i hnil
      subst hnil
      decide
    · exact (List.append_nil _).symm

/-- Edits leave the commands as they are. -/
theorem Edited.commandsOf_eq {bytes bytes' : Bytes} (h : Edited bytes bytes') :
    commandsOf bytes.lines = commandsOf bytes'.lines := by
  cases h with
  | @blank front line ending back hfront hline hblank hending =>
      rw [lines_append hfront, lines_append hfront, commandsOf_append, commandsOf_append,
        commandsOf_line hline hending, commandsOf_of_blank hblank]
      rfl
  | @spaced front line line' ending ending' back hfront hline hline' hwords hending hending' =>
      rw [lines_append hfront, lines_append hfront, commandsOf_append, commandsOf_append,
        commandsOf_line hline hending, commandsOf_line hline' hending', commandsOf_singleton hwords]

/-- So do any number of them, also when they are taken back. -/
theorem commandsOf_eq_of_edits {bytes bytes' : Bytes} (h : Relation.EqvGen Edited bytes bytes') :
    commandsOf bytes.lines = commandsOf bytes'.lines := by
  induction h with
  | rel _ _ hedited => exact hedited.commandsOf_eq
  | refl _ => rfl
  | symm _ _ _ ih => exact ih.symm
  | trans _ _ _ _ _ ih ih' => exact ih.trans ih'

end Bytes

namespace Session

/-- Nothing of an input without errors matters but the words of its lines
that are not blank. If these are the same for two inputs, as they are if one
comes from the other by putting in or taking out blank lines, by spacing
lines in another way and by changing their ends, the session does the same
with both: it gives the same result, runs the same commands with the same
ends, and differs in nothing afterwards but the log. The prompts differ in
number by the blank lines that were read. -/
theorem only_words_matter (spawn : Spawner) (a b : Source.Stream) (s : Session)
    (hflows_a : Fill.Flows a.fills) (hflows_b : Fill.Flows b.fills)
    (hprompts_a : a.prompts.isSome) (hprompts_b : b.prompts.isSome)
    (hwords : commandsOf a.lines = commandsOf b.lines ∨
      Relation.EqvGen Bytes.Edited (Fill.contents a.fills) (Fill.contents b.fills)) :
    (s.converse spawn a).result = (s.converse spawn b).result ∧
      (Loop.dispatches spawn ⟨.asking, a, s⟩).map Dispatch.told
        = (Loop.dispatches spawn ⟨.asking, b, s⟩).map Dispatch.told ∧
      (s.converse spawn a).session.unlogged = (s.converse spawn b).session.unlogged ∧
      (s.converse spawn a).source.prompts
        = a.prompts.map (Source.Stream.announced s.prompt (readingsUntilExit a.lines).length) ∧
      (s.converse spawn b).source.prompts
        = b.prompts.map (Source.Stream.announced s.prompt (readingsUntilExit b.lines).length) ∧
      (readingsUntilExit a.lines).length + blanksRead b.lines
        = (readingsUntilExit b.lines).length + blanksRead a.lines := by
  have hsame : commandsOf a.lines = commandsOf b.lines := by
    rcases hwords with hwords | hedits
    · exact hwords
    · exact Bytes.commandsOf_eq_of_edits hedits
  obtain ⟨hended_a, htold_a⟩ :=
    alike_converse_perform spawn a hflows_a hprompts_a (Alike.refl s)
  obtain ⟨hended_b, htold_b⟩ :=
    alike_converse_perform spawn b hflows_b hprompts_b (Alike.refl s)
  rw [hsame] at hended_a htold_a
  have htold := htold_a.trans htold_b.symm
  refine ⟨(result_of_flows a s hflows_a).trans (result_of_flows b s hflows_b).symm, htold,
    (Alike.same_iff.1 hended_a).trans (Alike.same_iff.1 hended_b).symm,
    prompts_converse spawn a s hflows_a, prompts_converse spawn b s hflows_b, ?_⟩
  -- the commands that were run are as many on both sides
  have hrun : ∀ source : Source.Stream, Fill.Flows source.fills →
      commandsOf (untilExit source.lines)
        = ((Loop.dispatches spawn ⟨.asking, source, s⟩).map Dispatch.told).map Prod.fst := by
    intro source hflows
    rw [← words_dispatches source s hflows, List.map_map]
    rfl
  have hran : commandsOf (untilExit a.lines) = commandsOf (untilExit b.lines) := by
    rw [hrun a hflows_a, hrun b hflows_b, htold]
  rw [length_readingsUntilExit, length_readingsUntilExit, hran, hsame]
  omega

/-- A session with blank lines, wide spaces and two kinds of ends, cut up
by an interruption, is the one without them. It shows two prompts more. -/
theorem only_words_matter_two_blanks :
    let spawn : Spawner := fun _ _ => .error .noEntry
    let s : Session :=
      { machine := { files := .empty, workingDirectory := ⟨[], 0⟩ }
        environment := { directory := [47] } }
    let a : Source.Stream :=
      { fills := [.bytes (Bytes.ofText " \t\r\npwd\r"), .error (.bare .interrupted),
          .bytes (Bytes.ofText "\n\n  cd    /\nls")] }
    let b : Source.Stream := { fills := [.bytes (Bytes.ofText "pwd\ncd /\nls\n")] }
    Fill.Flows a.fills ∧ Fill.Flows b.fills ∧ a.prompts.isSome ∧ b.prompts.isSome ∧
      commandsOf a.lines = commandsOf b.lines ∧
      (s.converse spawn a).session.unlogged = (s.converse spawn b).session.unlogged ∧
      (readingsUntilExit a.lines).length = (readingsUntilExit b.lines).length + 2 := by
  intro spawn s a b
  have hflows_a : Fill.Flows a.fills := by
    intro cause hmem
    have hcause : cause = .bare .interrupted := by simpa [a] using hmem
    rw [hcause]
    rfl
  have hflows_b : Fill.Flows b.fills := by
    intro cause hmem
    simp [b] at hmem
  have hwords : commandsOf a.lines = commandsOf b.lines := by decide
  obtain ⟨-, -, hsession, -, -, hcount⟩ :=
    only_words_matter spawn a b s hflows_a hflows_b rfl rfl (.inl hwords)
  refine ⟨hflows_a, hflows_b, rfl, rfl, hwords, hsession, ?_⟩
  have hblanks : blanksRead a.lines = 2 ∧ blanksRead b.lines = 0 := by decide
  rw [hblanks.1, hblanks.2] at hcount
  exact hcount

end Session
end LineShell
