/-
The loop, by its turns. A turn begins with the phase `asking` and ends
with the next one, or with the end of the loop. Between these there are
at most three steps. There are eight kinds of step, each with a lemma that
says where it leads (`step_of_line` and its neighbours), and no later proof
opens `step`. What a turn does is told by what it reads and by the verdict
on the line (`converse_of_line` and its neighbours); the phases do not show
in that.

# Counting steps

`run` is defined by the size of what is left to do. That it takes no more
steps than that is a statement about steps alone (`steps_eq_run`): after
at most one step more than the size of the loop it has ended.
-/
import LineShell.Loop
import LineShell.Proofs.Command

namespace LineShell

variable {σ : Type} [Source σ]

-- ========================================================= single steps

namespace Loop

/-- A loop that goes on ends as it does after the step. -/
theorem run_of_inl {spawn : Spawner} {l next : Loop σ} (h : l.step spawn = .inl next) :
    run spawn l = run spawn next := by
  rw [run]
  split
  case h_1 h' =>
    rw [h] at h'
    cases h'
    rfl
  case h_2 h' =>
    rw [h] at h'
    cases h'

/-- A step that ends the loop is the last. -/
theorem run_of_inr {spawn : Spawner} {l : Loop σ} {ended : LoopEnd σ}
    (h : l.step spawn = .inr ended) : run spawn l = ended := by
  rw [run]
  split
  case h_1 h' =>
    rw [h] at h'
    cases h'
  case h_2 h' =>
    rw [h] at h'
    cases h'
    rfl

section steps

variable {spawn : Spawner} {source source' : σ} {s : Session} {console : Console}

/-- A line was read. -/
theorem step_of_line {line : String}
    (h : Source.read s.prompt source s.console = (.line line, source', console)) :
    step spawn ⟨.asking, source, s⟩ = .inl ⟨.splitting line, source', { s with console }⟩ := by
  simp only [step, ask, h]

/-- The input has ended. -/
theorem step_of_finished
    (h : Source.read s.prompt source s.console = (.finished, source', console)) :
    step spawn ⟨.asking, source, s⟩
      = .inl ⟨.leaving, source', ({ s with console } : Session).note .endOfInput⟩ := by
  simp only [step, ask, h]

/-- There was a fault that the session survives. -/
theorem step_of_survived {fault : Fault} (hfault : fault.endsSession = false)
    (h : Source.read s.prompt source s.console = (.failed fault, source', console)) :
    step spawn ⟨.asking, source, s⟩
      = .inl ⟨.asking, source', (({ s with console } : Session).report fault).2⟩ := by
  simp only [step, ask, h, hfault, Bool.false_eq_true, if_false]

/-- There was a fault that ends the session. -/
theorem step_of_fatal {fault : Fault} (hfault : fault.endsSession = true)
    (h : Source.read s.prompt source s.console = (.failed fault, source', console)) :
    step spawn ⟨.asking, source, s⟩
      = .inr ⟨.error fault, source', ({ s with console } : Session).note (.stopped fault)⟩ := by
  simp only [step, ask, h, hfault, if_true]

/-- A blank line is not run at all. -/
theorem step_of_blank {line : String} (h : (s.split line).1.isEmpty = true) :
    step spawn ⟨.splitting line, source, s⟩ = .inl ⟨.asking, source, (s.split line).2⟩ := by
  simp only [step, h, if_true]

/-- The words of any other line are run. -/
theorem step_of_words {line : String} (h : ¬(s.split line).1.isEmpty = true) :
    step spawn ⟨.splitting line, source, s⟩
      = .inl ⟨.running (s.split line).1, source, (s.split line).2⟩ := by
  simp only [step, h, Bool.false_eq_true, if_false]

/-- After a command the loop asks again. -/
theorem step_of_goesOn {words : List String} (h : (s.runWords spawn words).1.goesOn = true) :
    step spawn ⟨.running words, source, s⟩
      = .inl ⟨.asking, source, (s.runWords spawn words).2⟩ := by
  simp only [step, h, if_true]

/-- Or it leaves. -/
theorem step_of_leaves {words : List String} (h : ¬(s.runWords spawn words).1.goesOn = true) :
    step spawn ⟨.running words, source, s⟩
      = .inl ⟨.leaving, source, (s.runWords spawn words).2.note .exitRequested⟩ := by
  simp only [step, h, Bool.false_eq_true, if_false]

end steps

/-- Induction along the steps of a loop, from its end on. -/
theorem step_induction (spawn : Spawner) {motive : Loop σ → Prop}
    (ends : ∀ {l : Loop σ} {ended : LoopEnd σ}, l.step spawn = .inr ended → motive l)
    (goesOn : ∀ {l next : Loop σ}, l.step spawn = .inl next → motive next → motive l)
    (l : Loop σ) : motive l := by
  induction hsize : l.size using Nat.strongRecOn generalizing l with
  | ind size ih =>
      cases hstep : l.step spawn with
      | inr ended => exact ends hstep
      | inl next =>
          have hlt : next.size < size := hsize ▸ size_step_lt spawn l next hstep
          exact goesOn hstep (ih next.size hlt next rfl)

/-- What has become of a loop after so many steps, if it takes as many. -/
def steps (spawn : Spawner) : Nat → Loop σ → Loop σ ⊕ LoopEnd σ
  | 0, l => .inl l
  | n + 1, l =>
    match l.step spawn with
    | .inl next => steps spawn n next
    | .inr ended => .inr ended

/-- The steps of a loop bring it to its end, and there are not many. -/
theorem steps_eq_run (spawn : Spawner) (l : Loop σ) :
    ∃ n ≤ l.size + 1, steps spawn n l = .inr (run spawn l) := by
  induction l using step_induction (σ := σ) spawn with
  | ends hstep =>
      refine ⟨1, by omega, ?_⟩
      rw [steps, hstep, run_of_inr hstep]
  | goesOn hstep ih =>
      -- every step but the last leaves less to do
      have hlt := size_step_lt spawn _ _ hstep
      obtain ⟨n, hn, hsteps⟩ := ih
      refine ⟨n + 1, by omega, ?_⟩
      rw [steps, hstep, run_of_inl hstep]
      exact hsteps

/-- The end of a loop is that of what has become of it. -/
theorem run_of_steps (spawn : Spawner) (n : Nat) (l : Loop σ) :
    Sum.elim (run spawn) id (steps spawn n l) = run spawn l := by
  induction n generalizing l with
  | zero => rfl
  | succ n ih =>
      rw [steps]
      cases hstep : l.step spawn with
      | inl next =>
          rw [run_of_inl hstep]
          exact ih next
      | inr ended =>
          rw [run_of_inr hstep]
          rfl

/-- The source of what has become of a loop. -/
def sourceAfter : Loop σ ⊕ LoopEnd σ → σ
  | .inl l => l.source
  | .inr ended => ended.source

/-- A step leaves the source alone, or reads from it. -/
theorem source_step (spawn : Spawner) (l : Loop σ) :
    sourceAfter (l.step spawn) = l.source ∨
      sourceAfter (l.step spawn)
        = (Source.read l.session.prompt l.source l.session.console).2.1 := by
  rcases l with ⟨phase, source, s⟩
  cases phase with
  | asking =>
      refine .inr ?_
      rcases hread : Source.read s.prompt source s.console with ⟨reading, source', console⟩
      cases reading with
      | line line => rw [step_of_line hread, sourceAfter]
      | finished => rw [step_of_finished hread, sourceAfter]
      | failed fault =>
          cases hfault : fault.endsSession with
          | true => rw [step_of_fatal hfault hread, sourceAfter]
          | false => rw [step_of_survived hfault hread, sourceAfter]
  | splitting line =>
      simp only [step]
      split <;> exact .inl rfl
  | running words =>
      simp only [step]
      split <;> exact .inl rfl
  | leaving => exact .inl rfl

/-- What readings keep of a source, a loop keeps. -/
theorem steps_invariant (spawn : Spawner) {P : σ → Prop}
    (hread : ∀ prompt source console, P source → P (Source.read prompt source console).2.1)
    (n : Nat) (l : Loop σ) (hl : P l.source) : P (sourceAfter (steps spawn n l)) := by
  induction n generalizing l with
  | zero => exact hl
  | succ n ih =>
      have hnext : P (sourceAfter (l.step spawn)) := by
        rcases source_step spawn l with hsame | hnext
        · rwa [hsame]
        · rw [hnext]
          exact hread _ _ _ hl
      rw [steps]
      cases hstep : l.step spawn with
      | inl next =>
          rw [hstep] at hnext
          exact ih next hnext
      | inr ended =>
          rw [hstep] at hnext
          exact hnext

/-- And it keeps it to its end. -/
theorem run_invariant (spawn : Spawner) {P : σ → Prop}
    (hread : ∀ prompt source console, P source → P (Source.read prompt source console).2.1)
    (l : Loop σ) (hl : P l.source) : P (run spawn l).source := by
  obtain ⟨n, -, hsteps⟩ := steps_eq_run spawn l
  have hlast := steps_invariant spawn hread n l hl
  rw [hsteps] at hlast
  exact hlast

end Loop

-- ================================================================ turns

/-- A source is smaller after it has given a line or a fault. -/
theorem Source.size_lt_of_read {prompt : String} {source source' : σ}
    {console console' : Console} {reading : Reading}
    (h : Source.read prompt source console = (reading, source', console'))
    (hne : reading ≠ .finished) : Source.size source' < Source.size source := by
  have hlt := Source.size_lt prompt source console
  rw [h] at hlt
  exact hlt hne

namespace Session

/-- A session that has flushed its output. -/
def flushed (s : Session) : Session :=
  { s with console := s.console.flush.2 }

/-- The phase `leaving` is over at once. -/
theorem run_leaving (spawn : Spawner) (source : σ) (s : Session) :
    Loop.run spawn ⟨.leaving, source, s⟩ = ⟨.ok (), source, s.flushed⟩ :=
  Loop.run_of_inr rfl

/-- A line is run, and then the loop asks again or leaves. -/
theorem run_splitting (spawn : Spawner) (line : String) (source : σ) (s : Session) :
    Loop.run spawn ⟨.splitting line, source, s⟩
      = if (s.runLine spawn line).1.goesOn then
          converse spawn source (s.runLine spawn line).2
        else ⟨.ok (), source, ((s.runLine spawn line).2.note .exitRequested).flushed⟩ := by
  have hline : s.runLine spawn line = (s.split line).2.runWords spawn (s.split line).1 := rfl
  by_cases hblank : (s.split line).1.isEmpty
  · have hrun : s.runLine spawn line = (.goOn, (s.split line).2) := by
      rw [hline, List.isEmpty_iff.1 hblank]
      rfl
    rw [Loop.run_of_inl (Loop.step_of_blank hblank), hrun]
    rfl
  · rw [Loop.run_of_inl (Loop.step_of_words hblank), hline]
    by_cases hgo : ((s.split line).2.runWords spawn (s.split line).1).1.goesOn
    · rw [if_pos hgo]
      exact Loop.run_of_inl (Loop.step_of_goesOn hgo)
    · rw [if_neg hgo, Loop.run_of_inl (Loop.step_of_leaves hgo), run_leaving]

variable {spawn : Spawner} {source source' : σ} {s : Session} {console : Console}

/-- A turn in which a line is read. -/
theorem converse_of_line {line : String}
    (h : Source.read s.prompt source s.console = (.line line, source', console)) :
    converse spawn source s
      = Loop.run spawn ⟨.splitting line, source', { s with console }⟩ := by
  exact Loop.run_of_inl (Loop.step_of_line h)

/-- The turn in which the input ends. -/
theorem converse_of_finished
    (h : Source.read s.prompt source s.console = (.finished, source', console)) :
    converse spawn source s
      = ⟨.ok (), source', (({ s with console } : Session).note .endOfInput).flushed⟩ := by
  unfold converse
  rw [Loop.run_of_inl (Loop.step_of_finished h), run_leaving]

/-- A turn with a fault that the session survives. -/
theorem converse_of_survived {fault : Fault} (hfault : fault.endsSession = false)
    (h : Source.read s.prompt source s.console = (.failed fault, source', console)) :
    converse spawn source s
      = converse spawn source' (({ s with console } : Session).report fault).2 := by
  exact Loop.run_of_inl (Loop.step_of_survived hfault h)

/-- A turn with a fault that ends the session. -/
theorem converse_of_fatal {fault : Fault} (hfault : fault.endsSession = true)
    (h : Source.read s.prompt source s.console = (.failed fault, source', console)) :
    converse spawn source s
      = ⟨.error fault, source', ({ s with console } : Session).note (.stopped fault)⟩ := by
  exact Loop.run_of_inr (Loop.step_of_fatal hfault h)

/-- A turn with a line after which the loop goes on. -/
theorem converse_of_line_goesOn {line : String}
    (h : Source.read s.prompt source s.console = (.line line, source', console))
    (hgo : (({ s with console } : Session).runLine spawn line).1.goesOn) :
    converse spawn source s
      = converse spawn source' (({ s with console } : Session).runLine spawn line).2 := by
  rw [converse_of_line h, run_splitting, if_pos hgo]

/-- The turn with a line that asks to leave. -/
theorem converse_of_line_leaves {line : String}
    (h : Source.read s.prompt source s.console = (.line line, source', console))
    (hleave : ¬(({ s with console } : Session).runLine spawn line).1.goesOn) :
    converse spawn source s
      = ⟨.ok (), source',
          ((({ s with console } : Session).runLine spawn line).2.note
            .exitRequested).flushed⟩ := by
  rw [converse_of_line h, run_splitting, if_neg hleave]

-- ============================================================== all turns

/-- Induction along the turns of a loop: there are five kinds of turn,
and after two of them there is another. -/
theorem turn_induction (spawn : Spawner) {motive : σ → Session → Prop}
    (finished : ∀ {source source' : σ} {s : Session} {console : Console},
      Source.read s.prompt source s.console = (.finished, source', console) →
        motive source s)
    (fatal : ∀ {source source' : σ} {s : Session} {console : Console} {fault : Fault},
      fault.endsSession = true →
      Source.read s.prompt source s.console = (.failed fault, source', console) →
        motive source s)
    (survived : ∀ {source source' : σ} {s : Session} {console : Console} {fault : Fault},
      fault.endsSession = false →
      Source.read s.prompt source s.console = (.failed fault, source', console) →
      motive source' (({ s with console } : Session).report fault).2 →
        motive source s)
    (leaves : ∀ {source source' : σ} {s : Session} {console : Console} {line : String},
      Source.read s.prompt source s.console = (.line line, source', console) →
      ¬(({ s with console } : Session).runLine spawn line).1.goesOn →
        motive source s)
    (goesOn : ∀ {source source' : σ} {s : Session} {console : Console} {line : String},
      Source.read s.prompt source s.console = (.line line, source', console) →
      (({ s with console } : Session).runLine spawn line).1.goesOn →
      motive source' (({ s with console } : Session).runLine spawn line).2 →
        motive source s)
    (source : σ) (s : Session) : motive source s := by
  induction hsize : Source.size source using Nat.strongRecOn generalizing source s with
  | ind size ih =>
      rcases h : Source.read s.prompt source s.console with ⟨reading, source', console⟩
      have hlt : reading ≠ .finished → Source.size source' < size :=
        fun hne => hsize ▸ Source.size_lt_of_read h hne
      cases reading with
      | finished => exact finished h
      | failed fault =>
          cases hfault : fault.endsSession with
          | true => exact fatal hfault h
          | false => exact survived hfault h (ih _ (hlt (by simp)) source' _ rfl)
      | line line =>
          by_cases hgo : (({ s with console } : Session).runLine spawn line).1.goesOn
          · exact goesOn h hgo (ih _ (hlt (by simp)) source' _ rfl)
          · exact leaves h hgo

end Session
end LineShell
