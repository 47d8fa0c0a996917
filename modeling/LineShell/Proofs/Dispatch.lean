/-
The commands of a run, in order: of one step of the loop, of a loop, and
of any sequence of calls (`Call`) by which words, a line or a whole source
are given to a session, each with a console of its own.

# Nothing but commands

Each command is recorded with the session before and after it
(`Dispatch`). Such records lead from one session to another (`Leads`) if
every one of them is a run of its words and begins, but for the console,
where the one before it has ended. The records of a run do that
(`Call.leads_runAll`): what is behind the console is changed by commands and by
nothing else. Therefore an invariant of single commands is one of every
run (`Leads.invariant`), and later modules need not know how a run is made.

The console is not behind the console. What is said of it, over a run, goes
by the turns of the loop: there is at most one command in each, and which
one is told by what is read (`Loop.dispatches_of_line` and its neighbours).
-/
import LineShell.Proofs.Loop

namespace LineShell

-- ================================================= records of commands

/-- A command that was run. -/
structure Dispatch where
  words : List String
  before : Session
  verdict : Verdict
  after : Session

/-- The record of words that are run in a session. -/
def Dispatch.of (spawn : Spawner) (words : List String) (s : Session) : Dispatch :=
  ⟨words, s, (s.runWords spawn words).1, (s.runWords spawn words).2⟩

/-- Commands lead from one session to another: each begins where the one
before it has ended, and between them only the console changes. -/
def Leads (spawn : Spawner) (s : Session) : List Dispatch → Session → Prop
  | [], s' => s'.behind = s.behind
  | d :: ds, s' =>
    d.before.behind = s.behind ∧ d = Dispatch.of spawn d.words d.before ∧
      Leads spawn d.after ds s'

namespace Leads

variable {spawn : Spawner}

/-- The console that a run begins with is not a part of it. -/
theorem of_behind {s₁ s s' : Session} {ds : List Dispatch} (hs : s₁.behind = s.behind)
    (h : Leads spawn s₁ ds s') : Leads spawn s ds s' := by
  cases ds with
  | nil => exact Eq.trans h hs
  | cons d ds => exact ⟨h.1.trans hs, h.2⟩

theorem append {s s' s'' : Session} {ds ds' : List Dispatch} (h : Leads spawn s ds s')
    (h' : Leads spawn s' ds' s'') : Leads spawn s (ds ++ ds') s'' := by
  induction ds generalizing s with
  | nil => exact h'.of_behind h
  | cons d ds ih =>
      obtain ⟨hbefore, hof, hrest⟩ := h
      exact ⟨hbefore, hof, ih hrest⟩

/-- The commands up to one of them lead to the session that it left. -/
theorem upto {s s' : Session} {front rest : List Dispatch} {d : Dispatch}
    (h : Leads spawn s (front ++ d :: rest) s') : Leads spawn s (front ++ [d]) d.after := by
  induction front generalizing s with
  | nil => exact ⟨h.1, h.2.1, rfl⟩
  | cons e front ih => exact ⟨h.1, h.2.1, ih h.2.2⟩

/-- One command. -/
theorem single (words : List String) {s₁ s s' : Session} (hs : s₁.behind = s.behind)
    (hs' : s'.behind = (s₁.runWords spawn words).2.behind) :
    Leads spawn s [Dispatch.of spawn words s₁] s' :=
  ⟨hs, rfl, hs'⟩

/-- What every command keeps, a run keeps; and what follows of a command
from it, follows of every command of the run. -/
theorem invariant (Inv : Session → Prop) (P : Dispatch → Prop)
    (hbehind : ∀ {s s' : Session}, s'.behind = s.behind → Inv s → Inv s')
    (hstep : ∀ (words : List String) (s : Session), Inv s →
      P (Dispatch.of spawn words s) ∧ Inv (s.runWords spawn words).2)
    {s s' : Session} {ds : List Dispatch} (h : Leads spawn s ds s') (hs : Inv s) :
    (∀ d ∈ ds, P d) ∧ Inv s' := by
  induction ds generalizing s with
  | nil => exact ⟨by simp, hbehind h hs⟩
  | cons d ds ih =>
      obtain ⟨hbefore, hof, hrest⟩ := h
      obtain ⟨hd, hafter⟩ := hstep d.words d.before (hbehind hbefore hs)
      rw [hof] at hrest
      obtain ⟨hds, hs'⟩ := ih hrest hafter
      refine ⟨fun e he => ?_, hs'⟩
      rcases List.mem_cons.1 he with rfl | he
      · rw [hof]
        exact hd
      · exact hds e he

end Leads

-- ================================================ the commands of a loop

namespace Loop

variable {σ : Type} [Source σ]

/-- The commands of one step: there is one in the phase `running`. -/
def dispatched (spawn : Spawner) (l : Loop σ) : List Dispatch :=
  match l.phase with
  | .running words => [Dispatch.of spawn words l.session]
  | _ => []

/-- The commands of all steps. -/
def dispatches (spawn : Spawner) (l : Loop σ) : List Dispatch :=
  match _h : l.step spawn with
  | .inl next => l.dispatched spawn ++ dispatches spawn next
  | .inr _ => l.dispatched spawn
termination_by l.size
decreasing_by exact size_step_lt spawn l next _h

theorem dispatches_of_inl {spawn : Spawner} {l next : Loop σ} (h : l.step spawn = .inl next) :
    dispatches spawn l = l.dispatched spawn ++ dispatches spawn next := by
  rw [dispatches]
  split
  case h_1 h' =>
    rw [h] at h'
    cases h'
    rfl
  case h_2 h' =>
    rw [h] at h'
    cases h'

theorem dispatches_of_inr {spawn : Spawner} {l : Loop σ} {ended : LoopEnd σ}
    (h : l.step spawn = .inr ended) : dispatches spawn l = l.dispatched spawn := by
  rw [dispatches]
  split
  case h_1 h' =>
    rw [h] at h'
    cases h'
  case h_2 h' => rfl

/-- The session after a step, whether the loop goes on or not. -/
def sessionAfter : Loop σ ⊕ LoopEnd σ → Session
  | .inl next => next.session
  | .inr ended => ended.session

/-- Asking for a line changes the console only. -/
theorem behind_ask (source : σ) (s : Session) :
    (sessionAfter (ask source s)).behind = s.behind := by
  unfold ask
  split
  · rfl
  · rfl
  · dsimp only
    split
    · rfl
    · rfl

/-- What a step does behind the console is what its commands do. -/
theorem leads_step (spawn : Spawner) (l : Loop σ) :
    Leads spawn l.session (l.dispatched spawn) (sessionAfter (l.step spawn)) := by
  rcases l with ⟨phase, source, s⟩
  cases phase with
  | asking => exact behind_ask source s
  | splitting line =>
      simp only [step]
      split
      · exact Session.behind_note _ s
      · exact Session.behind_note _ s
  | running words =>
      refine Leads.single words rfl ?_
      simp only [step]
      split
      · rfl
      · exact Session.behind_note _ _
  | leaving => exact Session.behind_withConsole _ s

/-- The commands of a loop lead to the session that it leaves. -/
theorem leads_run (spawn : Spawner) (l : Loop σ) :
    Leads spawn l.session (l.dispatches spawn) (run spawn l).session := by
  induction l using step_induction (σ := σ) spawn with
  | @ends l ended hstep =>
      have hleads := leads_step spawn l
      rw [hstep] at hleads
      rw [dispatches_of_inr hstep, run_of_inr hstep]
      exact hleads
  | @goesOn l next hstep ih =>
      have hleads := leads_step spawn l
      rw [hstep] at hleads
      rw [dispatches_of_inl hstep, run_of_inl hstep]
      exact hleads.append ih

end Loop

-- ======================================================== turn by turn

/-- The commands of a line: its words, unless it is blank. -/
def Session.dispatched (spawn : Spawner) (line : String) (s : Session) : List Dispatch :=
  if (s.split line).1.isEmpty then []
  else [Dispatch.of spawn (s.split line).1 (s.split line).2]

namespace Loop

variable {σ : Type} [Source σ] {spawn : Spawner}

theorem dispatches_leaving (source : σ) (s : Session) :
    dispatches spawn ⟨.leaving, source, s⟩ = [] :=
  dispatches_of_inr rfl

/-- A line is run, and behind its command are those of what is read next. -/
theorem dispatches_splitting (line : String) (source : σ) (s : Session) :
    dispatches spawn ⟨.splitting line, source, s⟩
      = s.dispatched spawn line
        ++ if (s.runLine spawn line).1.goesOn then
            dispatches spawn ⟨.asking, source, (s.runLine spawn line).2⟩
          else [] := by
  have hline : s.runLine spawn line = (s.split line).2.runWords spawn (s.split line).1 := rfl
  unfold Session.dispatched
  by_cases hblank : (s.split line).1.isEmpty
  · have hrun : s.runLine spawn line = (.goOn, (s.split line).2) := by
      rw [hline, List.isEmpty_iff.1 hblank]
      rfl
    rw [dispatches_of_inl (step_of_blank hblank), if_pos hblank, hrun]
    rfl
  · rw [dispatches_of_inl (step_of_words hblank), if_neg hblank, hline]
    by_cases hgo : ((s.split line).2.runWords spawn (s.split line).1).1.goesOn
    · rw [dispatches_of_inl (step_of_goesOn hgo), if_pos hgo]
      rfl
    · rw [dispatches_of_inl (step_of_leaves hgo), dispatches_leaving, if_neg hgo]
      rfl

variable {source source' : σ} {s : Session} {console : Console}

/-- There is no command in the turn in which the input ends. -/
theorem dispatches_of_finished
    (h : Source.read s.prompt source s.console = (.finished, source', console)) :
    dispatches spawn ⟨.asking, source, s⟩ = [] := by
  rw [dispatches_of_inl (step_of_finished h), dispatches_leaving]
  rfl

/-- Nor is there one in a turn with a fault that ends the session. -/
theorem dispatches_of_fatal {fault : Fault} (hfault : fault.endsSession = true)
    (h : Source.read s.prompt source s.console = (.failed fault, source', console)) :
    dispatches spawn ⟨.asking, source, s⟩ = [] := by
  rw [dispatches_of_inr (step_of_fatal hfault h)]
  rfl

/-- A turn with any other fault has none of its own. -/
theorem dispatches_of_survived {fault : Fault} (hfault : fault.endsSession = false)
    (h : Source.read s.prompt source s.console = (.failed fault, source', console)) :
    dispatches spawn ⟨.asking, source, s⟩
      = dispatches spawn ⟨.asking, source', (({ s with console } : Session).report fault).2⟩ := by
  rw [dispatches_of_inl (step_of_survived hfault h)]
  rfl

/-- In a turn with a line there are those of the line, and those after it if
the loop goes on. -/
theorem dispatches_of_line {line : String}
    (h : Source.read s.prompt source s.console = (.line line, source', console)) :
    dispatches spawn ⟨.asking, source, s⟩
      = ({ s with console } : Session).dispatched spawn line
        ++ if (({ s with console } : Session).runLine spawn line).1.goesOn then
            dispatches spawn
              ⟨.asking, source', (({ s with console } : Session).runLine spawn line).2⟩
          else [] := by
  rw [dispatches_of_inl (step_of_line h), dispatches_splitting]
  rfl

end Loop

-- ========================================================== whole calls

/-- What is given to a session at once, and the console for it. -/
inductive Call : Type 1
  | runWords (console : Console) (words : List String)
  | runLine (console : Console) (line : String)
  | converse {σ : Type} [Source σ] (console : Console) (source : σ)

namespace Call

/-- The session after a call. -/
def run (spawn : Spawner) : Call → Session → Session
  | .runWords console words, s => (({ s with console } : Session).runWords spawn words).2
  | .runLine console line, s => (({ s with console } : Session).runLine spawn line).2
  | @converse _ _ console source, s =>
    (({ s with console } : Session).converse spawn source).session

/-- The commands of a call. -/
def dispatches (spawn : Spawner) : Call → Session → List Dispatch
  | .runWords console words, s => [Dispatch.of spawn words { s with console }]
  | .runLine console line, s =>
    let (words, s) := ({ s with console } : Session).split line
    [Dispatch.of spawn words s]
  | @converse _ _ console source, s => Loop.dispatches spawn ⟨.asking, source, { s with console }⟩

/-- The session after calls. -/
def runAll (spawn : Spawner) : List Call → Session → Session
  | [], s => s
  | call :: calls, s => runAll spawn calls (call.run spawn s)

/-- The commands of calls. -/
def allDispatches (spawn : Spawner) : List Call → Session → List Dispatch
  | [], _ => []
  | call :: calls, s => call.dispatches spawn s ++ allDispatches spawn calls (call.run spawn s)

/-- The commands of a call lead to the session that it leaves. -/
theorem leads_run (spawn : Spawner) (call : Call) (s : Session) :
    Leads spawn s (call.dispatches spawn s) (call.run spawn s) := by
  cases call with
  | runWords console words =>
      exact Leads.single words (Session.behind_withConsole console s) rfl
  | runLine console line =>
      have hsplit : (({ s with console } : Session).split line).2.behind = s.behind :=
        Session.behind_note _ _
      exact Leads.single _ hsplit rfl
  | converse console source =>
      have hleads := Loop.leads_run spawn ⟨.asking, source, { s with console }⟩
      exact hleads.of_behind (Session.behind_withConsole console s)

/-- The commands of calls lead to the session that the last one leaves. -/
theorem leads_runAll (spawn : Spawner) (calls : List Call) (s : Session) :
    Leads spawn s (allDispatches spawn calls s) (runAll spawn calls s) := by
  induction calls generalizing s with
  | nil => rfl
  | cons call calls ih => exact (leads_run spawn call s).append (ih (call.run spawn s))

end Call
end LineShell
