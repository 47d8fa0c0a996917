/-
Commands that leave the standard input alone. A builtin never looks at it,
so all depends on the program that a command starts: it leaves the input
alone if it does the same whatever there is to read, and the input is then
as it was (`Spawner.Spares`). Such a command does not tell two sessions apart
that differ in their input (`runWords_withInput`), nor does a sequence of
them (`likeButInput_runWords`).

# Where this is asked

What a program does with its input depends on the files that it finds, so
nothing is asked of a program as such. It is asked of the one request that a
command makes, in the scene that it is made in, and of commands in sequence
for as long as they go on (`Session.SparesAll`).
-/
import LineShell.Proofs.Likeness

namespace LineShell

/-- A scene with another standard input. -/
def Scene.withInput (input : Feed) (scene : Scene) : Scene :=
  { scene with streams := { scene.streams with input } }

/-- What a program has left behind, with another standard input. -/
def Ran.withInput (input : Feed) (ran : Ran) : Ran :=
  { ran with streams := { ran.streams with input } }

/-- In a scene a request is answered in the same way whatever the standard
input is, and the input is left as it was. -/
def Spawner.Spares (spawn : Spawner) (r : ProgramRequest) (scene : Scene) : Prop :=
  ∀ input, spawn r (scene.withInput input) = (spawn r scene).map (Ran.withInput input)

namespace Session

variable {spawn : Spawner}

/-- A session with another standard input. -/
def withInput (input : Feed) (s : Session) : Session :=
  { s with console := { s.console with input } }

/-- The program that words start in a session, if they start one, leaves the
input alone. -/
def SparesInput (spawn : Spawner) (words : List String) (s : Session) : Prop :=
  ∀ (name : String) (rest : List String) (found : Found), words = name :: rest →
    Builtin.named? name = none → s.find? name = some found →
    Spawner.Spares spawn (s.requestFor found.path rest)
      (s.asking name found.path (s.requestFor found.path rest)).scene

/-- So do commands one after the other, until one of them leaves. -/
def SparesAll (spawn : Spawner) : List (List String) → Session → Prop
  | [], _ => True
  | words :: commands, s =>
    s.SparesInput spawn words ∧
      ((s.runWords spawn words).1.goesOn → SparesAll spawn commands (s.runWords spawn words).2)

-- ================================================== sessions but for input

theorem withInput_self (s : Session) : s.withInput s.console.input = s := rfl

theorem print_withInput (input : Feed) (pieces : List Bytes) (s : Session) :
    (s.withInput input).print pieces = (s.print pieces).map id (withInput input) := by
  have hanswer : ((s.withInput input).console.out.print pieces).1
      = (s.console.out.print pieces).1 := rfl
  cases hcause : (s.console.out.print pieces).1 with
  | none =>
      rw [print_of_taken hcause, print_of_taken (hanswer.trans hcause)]
      rfl
  | some cause =>
      rw [print_of_refused hcause, print_of_refused (hanswer.trans hcause)]
      rfl

/-- The input is one of the streams that a program finds, -/
theorem scene_withInput (input : Feed) (s : Session) :
    (s.withInput input).scene = s.scene.withInput input := by
  unfold scene Console.streams
  dsimp only [withInput]
  split
  · rfl
  · rfl

/-- and one of those that it leaves. -/
theorem after_withInput (input : Feed) (ran : Ran) (s : Session) :
    (s.withInput input).after (ran.withInput input) = (s.after ran).withInput input := by
  unfold after Console.withStreams
  dsimp only [withInput]
  split
  · rfl
  · rfl

-- ============================================================== commands

/-- No builtin looks at the input. -/
theorem builtin_withInput {b : Builtin} (hb : b ∈ Builtin.all) (words : List String)
    (input : Feed) (s : Session) :
    b.run words (s.withInput input) = (b.run words s).map id (withInput input) := by
  obtain ⟨act, hact⟩ := Builtin.exists_act hb words s
  rw [hact s rfl, hact (s.withInput input) rfl]
  cases act with
  | leave => rfl
  | print pieces => exact print_withInput input pieces s
  | refuse message => rfl
  | report fault => rfl
  | move path entered => rfl

/-- How a session goes on when its request is answered. -/
def answered (name : String) (s : Session) : Except SystemError Ran → Verdict × Session
  | .error cause => s.report (.ofRequest name cause)
  | .ok ran => (.goOn, (s.after ran).note (.ended name ran.ending))

theorem answered_withInput (name : String) (input : Feed) (s : Session)
    (answer : Except SystemError Ran) :
    (s.withInput input).answered name (answer.map (Ran.withInput input))
      = (s.answered name answer).map id (withInput input) := by
  cases answer with
  | error cause => rfl
  | ok ran =>
      show (Verdict.goOn, ((s.withInput input).after (ran.withInput input)).note _) = _
      rw [after_withInput]
      rfl

/-- A program that is found is asked for. -/
theorem runProgram_of_found {name : String} {rest : List String} {s : Session} {found : Found}
    (hfind : s.find? name = some found) :
    s.runProgram spawn (name :: rest)
      = ((s.note (.spawning name found.path)).request
            (s.requestFor found.path rest)).answered name
          (spawn (s.requestFor found.path rest)
            ((s.note (.spawning name found.path)).request
              (s.requestFor found.path rest)).scene) := by
  unfold runProgram
  dsimp only
  rw [hfind]
  dsimp only
  split
  · rename_i cause hspawn
    exact (congrArg (answered name _) hspawn).symm
  · rename_i ran hspawn
    exact (congrArg (answered name _) hspawn).symm

theorem runWords_of_found {name : String} {rest : List String} {s : Session} {found : Found}
    (hname : Builtin.named? name = none) (hflush : s.console.out.flush.1 = none)
    (hfind : s.find? name = some found) :
    s.runWords spawn (name :: rest)
      = (s.asking name found.path (s.requestFor found.path rest)).answered name
          (spawn (s.requestFor found.path rest)
            (s.asking name found.path (s.requestFor found.path rest)).scene) := by
  have hready : (s.readied name).find? name = some found := hfind
  have hprogram : (s.readied name).runProgram spawn (name :: rest) = _ := runProgram_of_found hready
  unfold runWords Command.ofName
  dsimp only
  rw [hname]
  dsimp only
  unfold Console.flush
  dsimp only
  rw [hflush]
  exact hprogram

theorem runProgram_withInput {name : String} {rest : List String} {input : Feed} {s : Session}
    (h : ∀ found, s.find? name = some found →
      spawn.Spares (s.requestFor found.path rest)
        ((s.note (.spawning name found.path)).request (s.requestFor found.path rest)).scene) :
    (s.withInput input).runProgram spawn (name :: rest)
      = (s.runProgram spawn (name :: rest)).map id (withInput input) := by
  cases hfind : s.find? name with
  | none =>
      have hmissing : (s.withInput input).find? name = none := hfind
      unfold runProgram
      dsimp only
      rw [hfind, hmissing]
      rfl
  | some found =>
      rw [runProgram_of_found hfind, runProgram_of_found (s := s.withInput input) hfind,
        ← answered_withInput, ← h found hfind input, ← scene_withInput]
      rfl

/-- A command that leaves the input alone does the same with another one. -/
theorem runWords_withInput {words : List String} {s : Session}
    (h : s.SparesInput spawn words) (input : Feed) :
    (s.withInput input).runWords spawn words
      = (s.runWords spawn words).map id (withInput input) := by
  unfold runWords
  cases words with
  | nil => rfl
  | cons name rest =>
      unfold Command.ofName
      dsimp only
      cases hname : Builtin.named? name with
      | some b =>
          exact builtin_withInput (Builtin.named?_spec hname).1 (name :: rest) input
            (s.note (.runningBuiltin name))
      | none =>
          have hanswer : (s.withInput input).console.flush.1 = s.console.flush.1 := rfl
          dsimp only
          rw [hanswer]
          cases s.console.flush.1 with
          | some cause => rfl
          | none =>
              exact runProgram_withInput (s := s.readied name) fun found hfind =>
                h name rest found rfl hname hfind

/-- It leaves it as it was. -/
theorem input_runWords {words : List String} {s : Session} (h : s.SparesInput spawn words) :
    (s.runWords spawn words).2.console.input = s.console.input := by
  have hsame := runWords_withInput h s.console.input
  rw [withInput_self] at hsame
  rw [hsame]
  rfl

/-- What a command does with the input is the same in alike sessions. -/
theorem SparesInput.of_alike {words : List String} {s₁ s₂ : Session}
    (h : s₁.SparesInput spawn words) (halike : s₁.Alike .same s₂) : s₂.SparesInput spawn words := by
  intro name rest found hwords hname hfind
  have hnoted := (halike.flushed.note (.launching name) (.launching name)).note
    (.spawning name found.path) (.spawning name found.path)
  have hready : Likeness.same.Ready s₁.flushed.console.out s₂.flushed.console.out := by
    rw [show s₁.flushed.console.out = s₂.flushed.console.out from halike.flushed.console.out]
    exact Likeness.ready_same _
  have hspares := h name rest found hwords hname ((halike.find? name).trans hfind)
  rw [halike.requestFor found.path rest] at hspares
  intro input
  have hanswer := hspares input
  have hscene : (s₁.asking name found.path (s₂.requestFor found.path rest)).scene
      = (s₂.asking name found.path (s₂.requestFor found.path rest)).scene :=
    hnoted.scene (fun _ => hready) _
  rwa [hscene] at hanswer

-- ======================================================= sessions side by side

/-- Sessions that differ in their standard input and in the log. -/
def LikeButInput (s₁ s₂ : Session) : Prop :=
  s₁.Alike .same (s₂.withInput s₁.console.input)

namespace LikeButInput

variable {s₁ s₂ : Session}

theorem of_alike {s : Session} (h : s.Alike .same s₁) (hlike : s₁.LikeButInput s₂) :
    s.LikeButInput s₂ := by
  unfold LikeButInput
  rw [h.console.input]
  exact (Alike.same_iff.2 ((Alike.same_iff.1 h).trans (Alike.same_iff.1 hlike)))

theorem withInput (h : s₁.LikeButInput s₂) (input : Feed) :
    s₁.LikeButInput (s₂.withInput input) :=
  h

theorem note_right (h : s₁.LikeButInput s₂) (entry : LogEntry) :
    s₁.LikeButInput (s₂.note entry) :=
  Session.Alike.withConsole h (h.console.withLog _ _)

theorem flushed (h : s₁.LikeButInput s₂) : s₁.flushed.LikeButInput s₂.flushed :=
  Session.Alike.flushed h

/-- A command that leaves the input alone keeps them so, and gives the same
verdict. -/
theorem runWords (h : s₁.LikeButInput s₂) {words : List String}
    (hspares : s₁.SparesInput spawn words) :
    (s₁.runWords spawn words).1 = (s₂.runWords spawn words).1 ∧
      (s₁.runWords spawn words).2.LikeButInput (s₂.runWords spawn words).2 ∧
      (s₂.runWords spawn words).2.console.input = s₂.console.input := by
  -- with the input of the first, the second does what the first does
  obtain ⟨hverdict, hsession⟩ := alike_runWords spawn h words
  have hspares₂ := hspares.of_alike h
  have hkept : (Session.runWords spawn words (s₂.withInput s₁.console.input)).2.console.input
      = (s₁.runWords spawn words).2.console.input :=
    (input_runWords hspares₂).trans (input_runWords hspares).symm
  have hback : (s₂.withInput s₁.console.input).withInput s₂.console.input = s₂ := rfl
  have hran := runWords_withInput hspares₂ s₂.console.input
  rw [hback] at hran
  rw [hran]
  refine ⟨hverdict, ?_, rfl⟩
  unfold LikeButInput
  rw [← hkept]
  exact hsession

end LikeButInput
end Session
end LineShell
