/-
The loop that reads lines and runs them, as a machine with four phases
(`Phase`). A line is split in one step and its words are run in the next,
so that between two steps there is at most one of them to keep.

`Loop.step` makes one step and `Loop.run` makes them until the loop ends,
which it does: a step that does not read uses up its phase, and one that
reads uses up the source (`Loop.size_step_lt`).

Failures of commands, and faults of the source that do not end a session,
are reported and never end the loop. It ends when a command says so, at
the end of the input, and with any other fault of the source. The last
is the one way out on which the output is not flushed.
-/
import LineShell.Line
import LineShell.Source

namespace LineShell

/-- Where the loop stands. -/
inductive Phase
  /-- About to show the prompt and read a line. -/
  | asking
  /-- With a line that has not been split. -/
  | splitting (line : String)
  /-- With words that have not been run. -/
  | running (words : List String)
  /-- About to end well. -/
  | leaving
  deriving DecidableEq, Repr

/-- The loop, with what it reads from and what it works on. -/
structure Loop (σ : Type) where
  phase : Phase
  source : σ
  session : Session

/-- How a loop ended. -/
structure LoopEnd (σ : Type) where
  result : Except Fault Unit
  source : σ
  session : Session

namespace Loop

variable {σ : Type} [Source σ]

-- ============================================================== one step

/-- The step from the phase `asking`. -/
def ask (source : σ) (s : Session) : Loop σ ⊕ LoopEnd σ :=
  match Source.read s.prompt source s.console with
  | (.line line, source, console) => .inl ⟨.splitting line, source, { s with console }⟩
  | (.finished, source, console) =>
    .inl ⟨.leaving, source, { s with console }.note .endOfInput⟩
  | (.failed fault, source, console) =>
    let s := { s with console }
    if fault.endsSession then .inr ⟨.error fault, source, s.note (.stopped fault)⟩
    else .inl ⟨.asking, source, (s.report fault).2⟩

/-- One step: the loop goes on, or it has ended. -/
def step (spawn : Spawner) (l : Loop σ) : Loop σ ⊕ LoopEnd σ :=
  match l.phase with
  | .asking => ask l.source l.session
  | .splitting line =>
    let (words, s) := l.session.split line
    if words.isEmpty then .inl ⟨.asking, l.source, s⟩ else .inl ⟨.running words, l.source, s⟩
  | .running words =>
    let (verdict, s) := l.session.runWords spawn words
    if verdict.goesOn then .inl ⟨.asking, l.source, s⟩
    else .inl ⟨.leaving, l.source, s.note .exitRequested⟩
  | .leaving =>
    .inr ⟨.ok (), l.source, { l.session with console := l.session.console.flush.2 }⟩

-- ============================================================== all steps

/-- What is left to do. -/
def size (l : Loop σ) : Nat :=
  match l.phase with
  | .leaving => 0
  | .asking => 3 * Source.size l.source + 1
  | .running _ => 3 * Source.size l.source + 2
  | .splitting _ => 3 * Source.size l.source + 3

/-- Asking leaves less to do, unless it ends the loop. -/
theorem size_ask_lt (source : σ) (s : Session) (next : Loop σ)
    (h : ask source s = .inl next) : next.size < 3 * Source.size source + 1 := by
  have hread := Source.size_lt s.prompt source s.console
  unfold ask at h
  split at h
  · rename_i hr
    simp only [hr] at hread
    cases h
    have := hread (by simp)
    simp only [size]
    omega
  · cases h
    simp [size]
  · rename_i hr
    simp only [hr] at hread
    dsimp only at h
    split at h
    · cases h
    · cases h
      have := hread (by simp)
      simp only [size]
      omega

/-- Every step that does not end the loop leaves less to do. -/
theorem size_step_lt (spawn : Spawner) (l next : Loop σ)
    (h : l.step spawn = .inl next) : next.size < l.size := by
  rcases l with ⟨phase, source, s⟩
  cases phase with
  | asking => exact size_ask_lt source s next h
  | splitting line =>
    simp only [step] at h
    split at h <;> cases h <;> simp [size]
  | running words =>
    simp only [step] at h
    split at h <;> cases h <;> simp [size]
  | leaving => cases h

/-- Makes steps until the loop ends. -/
def run (spawn : Spawner) (l : Loop σ) : LoopEnd σ :=
  match _h : l.step spawn with
  | .inl next => run spawn next
  | .inr ended => ended
termination_by l.size
decreasing_by exact size_step_lt spawn l next _h

end Loop

/-- Reads lines from a source and runs them, until a command ends the
session, the input ends or it fails. -/
def Session.converse {σ : Type} [Source σ] (spawn : Spawner) (source : σ) (s : Session) :
    LoopEnd σ :=
  Loop.run spawn ⟨.asking, source, s⟩

end LineShell
