/-
What one command can do to a session. Every command may use the console.
Behind the console (`Session.behind`) a builtin other than `cd` changes
nothing at all, and a program changes the files and adds to the requests
that were made. Only `cd` changes where a session is (`Session.place`),
and only if it succeeds.

So there is one statement for each kind of command, and `outcome_runWords`
puts them together: what is behind the console is kept, a `cd` has moved
the session, or a program was asked for. What a line keeps, and what a
run of the loop keeps, is read off these cases; no later proof opens a
command.
-/
import LineShell.Line

namespace LineShell

-- =================================================== behind the console

namespace Session

/-- What is behind the console. -/
def behind (s : Session) : Machine × Environment × String :=
  (s.machine, s.environment, s.prompt)

/-- Where a session is: the directory that it takes names against, and
the directory of its process. -/
def place (s : Session) : Path × WorkingDirectory :=
  (s.environment.directory, s.machine.workingDirectory)

/-- The session after it has moved to a directory. -/
def moved (path : Path) (entered : WorkingDirectory) (s : Session) : Session :=
  { s with
    machine := { s.machine with workingDirectory := entered }
    environment := { s.environment with directory := path } }

theorem behind_note (entry : LogEntry) (s : Session) : (s.note entry).behind = s.behind := rfl

theorem behind_withConsole (console : Console) (s : Session) :
    behind { s with console } = s.behind := rfl

theorem behind_report (error : Fault) (s : Session) : (s.report error).2.behind = s.behind := rfl

theorem behind_print (pieces : List Bytes) (s : Session) :
    (s.print pieces).2.behind = s.behind := by
  unfold print
  dsimp only
  split
  · rfl
  · rfl

theorem place_eq_of_behind {s s' : Session} (h : s'.behind = s.behind) : s'.place = s.place := by
  simp only [behind, Prod.mk.injEq] at h
  simp only [place, h.1, h.2.1]

theorem environment_eq_of_behind {s s' : Session} (h : s'.behind = s.behind) :
    s'.environment = s.environment :=
  congrArg (fun b => b.2.1) h

theorem machine_eq_of_behind {s s' : Session} (h : s'.behind = s.behind) :
    s'.machine = s.machine :=
  congrArg (fun b => b.1) h

theorem prompt_eq_of_behind {s s' : Session} (h : s'.behind = s.behind) : s'.prompt = s.prompt :=
  congrArg (fun b => b.2.2) h

end Session

-- ============================================================== builtins

namespace Builtin

/-- A command with a form keeps what its action keeps. -/
theorem behind_withForm {form : ArgumentForm} {name : String}
    {act : Arguments → Session → Verdict × Session}
    (hact : ∀ arguments s, (act arguments s).2.behind = s.behind)
    (words : List String) (s : Session) :
    (withForm form name act words s).2.behind = s.behind := by
  unfold withForm
  split
  · exact hact _ s
  · exact Session.behind_print _ s
  · rfl

theorem behind_help (arguments : Arguments) (s : Session) :
    (help arguments s).2.behind = s.behind := by
  unfold help
  exact Session.behind_print _ s

theorem behind_pwd (arguments : Arguments) (s : Session) :
    (pwd arguments s).2.behind = s.behind := by
  unfold pwd
  exact Session.behind_print _ s

theorem behind_echo (words : List String) (s : Session) :
    (echo words s).2.behind = s.behind := by
  unfold echo
  exact Session.behind_print _ s

/-- A builtin other than `cd` changes nothing behind the console. -/
theorem behind_run_of_ne_cd {b : Builtin} (hb : b ∈ all) (hname : b.name ≠ "cd")
    (words : List String) (s : Session) : (b.run words s).2.behind = s.behind := by
  simp only [all, List.mem_cons, List.not_mem_nil, or_false] at hb
  rcases hb with rfl | rfl | rfl | rfl | rfl
  · exact absurd rfl hname
  · rfl
  · exact behind_withForm behind_help words s
  · exact behind_withForm behind_pwd words s
  · exact behind_echo words s

/-- The directory that a line asks `cd` for: the arguments fill the form,
and there is one that is not empty. -/
def cdTarget? (words : List String) : Option String :=
  match words with
  | "cd" :: rest =>
    match cdForm.read rest with
    | .given arguments => arguments.words.head?.filter (· ≠ "")
    | _ => none
  | _ => none

/-- `cd` succeeds on a target that it can enter; then it does that, and
no more. -/
theorem cd_of_goal_ok {arguments : Arguments} {target : String} {s : Session}
    {path : Path} {entered : WorkingDirectory}
    (htarget : arguments.words.head?.filter (· ≠ "") = some target)
    (hgoal : cdGoal (Bytes.ofText target) s = .ok (path, entered)) :
    cd arguments s = (.goOn, s.moved path entered) := by
  obtain ⟨hhead, hne⟩ := Option.filter_eq_some_iff.1 htarget
  have hne : target ≠ "" := by simpa using hne
  unfold cd
  rw [hhead]
  split
  case h_1 h => cases h
  case h_2 h => exact absurd (Option.some.inj h) hne
  case h_3 word _ h =>
    cases h
    simp only [hgoal]
    rfl

/-- Otherwise `cd` fails and changes nothing behind the console. -/
theorem cd_of_no_goal {arguments : Arguments} {s : Session}
    (h : ∀ target path entered, arguments.words.head?.filter (· ≠ "") = some target →
      cdGoal (Bytes.ofText target) s ≠ .ok (path, entered)) :
    (cd arguments s).1 = .goOnAfterFault ∧ (cd arguments s).2.behind = s.behind := by
  unfold cd
  split
  · exact ⟨rfl, rfl⟩
  · exact ⟨rfl, rfl⟩
  · rename_i word hempty hhead
    dsimp only
    split
    · exact ⟨rfl, rfl⟩
    · rename_i path entered hgoal
      have hfilter : arguments.words.head?.filter (· ≠ "") = some word := by
        rw [hhead, Option.filter_some]
        simpa using hempty
      exact absurd hgoal (h word path entered hfilter)

/-- Only a line that begins with `cd` asks for a directory. -/
theorem cdTarget?_of_ne {name : String} (hname : name ≠ "cd") (rest : List String) :
    cdTarget? (name :: rest) = none := by
  unfold cdTarget?
  split
  · rename_i h
    exact absurd (List.cons.inj h).1 hname
  · rfl

/-- A name that is not `cd` refers to another builtin, or to a program. -/
theorem named?_spec {name : String} {b : Builtin} (h : named? name = some b) :
    b ∈ all ∧ b.name = name := by
  unfold named? at h
  exact ⟨List.mem_of_find?_eq_some h, by simpa using List.find?_some h⟩

end Builtin

-- ============================================================== commands

/-- What a command has done behind the console. -/
inductive Outcome (spawn : Spawner) (words : List String) (s : Session) (verdict : Verdict)
    (s' : Session) : Prop
  /-- Nothing. If the command was a `cd` with a directory to go to, it has failed. -/
  | kept (hcd : Builtin.cdTarget? words = none ∨ verdict = .goOnAfterFault)
      (hbehind : s'.behind = s.behind)
  /-- It was a `cd`, and the session has moved. -/
  | moved (target : String) (path : Path) (entered : WorkingDirectory)
      (hcd : Builtin.cdTarget? words = some target) (hverdict : verdict = .goOn)
      (hgoal : Builtin.cdGoal (Bytes.ofText target) s = .ok (path, entered))
      (hbehind : s'.behind = (s.moved path entered).behind)
  /-- A program was asked for. The files are those that it has left, if it
  could be started. -/
  | asked (r : ProgramRequest) (files : FileTree) (hcd : Builtin.cdTarget? words = none)
      (hfiles : files = s.machine.files
        ∨ ∃ scene ran, scene.files = s.machine.files ∧ spawn r scene = .ok ran
            ∧ files = ran.files)
      (henvironment : s'.environment = s.environment) (hprompt : s'.prompt = s.prompt)
      (hmachine : s'.machine
        = { s.machine with files, requests := r :: s.machine.requests })

/-- What a command has done is not told by the console it began with. -/
theorem Outcome.of_behind {spawn : Spawner} {words : List String} {s₁ s s' : Session}
    {verdict : Verdict} (hs : s₁.behind = s.behind) (h : Outcome spawn words s₁ verdict s') :
    Outcome spawn words s verdict s' := by
  have hmachine := Session.machine_eq_of_behind hs
  have henv := Session.environment_eq_of_behind hs
  cases h with
  | kept hcd hbehind => exact .kept hcd (hbehind.trans hs)
  | moved target path entered hcd hverdict hgoal hbehind =>
      refine .moved target path entered hcd hverdict ?_ (hbehind.trans ?_)
      · simpa only [Builtin.cdGoal, hmachine, henv] using hgoal
      · simp only [Session.behind, Session.moved, hmachine, henv,
          Session.prompt_eq_of_behind hs]
  | asked r files hcd hfiles henvironment hprompt hmachine' =>
      rw [hmachine] at hfiles hmachine'
      exact .asked r files hcd hfiles (henvironment.trans henv)
        (hprompt.trans (Session.prompt_eq_of_behind hs)) hmachine'

/-- No command changes the prompt. -/
theorem Outcome.prompt_eq {spawn : Spawner} {words : List String} {s s' : Session}
    {verdict : Verdict} (h : Outcome spawn words s verdict s') : s'.prompt = s.prompt := by
  cases h with
  | kept hcd hbehind => exact Session.prompt_eq_of_behind hbehind
  | moved target path entered hcd hverdict hgoal hbehind =>
      have hprompt := Session.prompt_eq_of_behind hbehind
      exact hprompt
  | asked r files hcd hfiles henvironment hprompt hmachine => exact hprompt

/-- No command changes the variables that programs are given. -/
theorem Outcome.vars_eq {spawn : Spawner} {words : List String} {s s' : Session}
    {verdict : Verdict} (h : Outcome spawn words s verdict s') :
    s'.environment.vars = s.environment.vars := by
  cases h with
  | kept hcd hbehind => rw [Session.environment_eq_of_behind hbehind]
  | moved target path entered hcd hverdict hgoal hbehind =>
      rw [Session.environment_eq_of_behind hbehind]
      rfl
  | asked r files hcd hfiles henvironment hprompt hmachine => rw [henvironment]

namespace Session

/-- Running a program: either none is asked for, or one. -/
theorem outcome_runProgram (spawn : Spawner) {words : List String}
    (hcd : Builtin.cdTarget? words = none) (s : Session) :
    Outcome spawn words s (s.runProgram spawn words).1 (s.runProgram spawn words).2 := by
  cases words with
  | nil => exact .kept (.inl rfl) rfl
  | cons command arguments =>
      simp only [runProgram]
      cases s.find? command with
      | none => exact .kept (.inl hcd) (behind_report _ s)
      | some found =>
          dsimp only
          split
          · exact .asked _ s.machine.files hcd (.inl rfl) rfl rfl rfl
          · rename_i ran hran
            exact .asked _ ran.files hcd (.inr ⟨_, ran, rfl, hran, rfl⟩) rfl rfl rfl

/-- `cd` either moves the session or changes nothing behind the console. -/
theorem outcome_cd (spawn : Spawner) (rest : List String) (s : Session) :
    Outcome spawn ("cd" :: rest) s
      (Builtin.withForm Builtin.cdForm "cd" Builtin.cd ("cd" :: rest) s).1
      (Builtin.withForm Builtin.cdForm "cd" Builtin.cd ("cd" :: rest) s).2 := by
  unfold Builtin.withForm
  rw [show ("cd" :: rest).drop 1 = rest from rfl]
  cases hread : Builtin.cdForm.read rest with
  | helpRequested =>
      exact .kept (.inl (by simp [Builtin.cdTarget?, hread])) (behind_print _ s)
  | refused message =>
      exact .kept (.inl (by simp [Builtin.cdTarget?, hread])) rfl
  | given arguments =>
      have hcd : Builtin.cdTarget? ("cd" :: rest)
          = arguments.words.head?.filter (· ≠ "") := by
        simp [Builtin.cdTarget?, hread]
      dsimp only
      by_cases hgoes : ∃ target path entered,
          arguments.words.head?.filter (· ≠ "") = some target
            ∧ Builtin.cdGoal (Bytes.ofText target) s = .ok (path, entered)
      · obtain ⟨target, path, entered, htarget, hgoal⟩ := hgoes
        rw [Builtin.cd_of_goal_ok htarget hgoal]
        exact .moved target path entered (hcd.trans htarget) rfl hgoal rfl
      · -- there is no target, or its directory cannot be entered
        have hstays : ∀ target path entered,
            arguments.words.head?.filter (· ≠ "") = some target →
              Builtin.cdGoal (Bytes.ofText target) s ≠ .ok (path, entered) :=
          fun target path entered htarget hgoal =>
            hgoes ⟨target, path, entered, htarget, hgoal⟩
        obtain ⟨hverdict, hbehind⟩ := Builtin.cd_of_no_goal hstays
        exact .kept (.inr hverdict) hbehind

/-- A `cd` that is given a target moves the session or says why it cannot. -/
theorem runWords_of_cdTarget? (spawn : Spawner) {words : List String} {target : String}
    (hcd : Builtin.cdTarget? words = some target) (s : Session) :
    s.runWords spawn words = match Builtin.cdGoal (Bytes.ofText target) s with
      | .ok (path, entered) => (.goOn, (s.note (.runningBuiltin "cd")).moved path entered)
      | .error cause =>
        (s.note (.runningBuiltin "cd")).report (.notEntered (Bytes.ofText target) cause) := by
  unfold Builtin.cdTarget? at hcd
  split at hcd
  · rename_i rest
    split at hcd
    · rename_i arguments hread
      obtain ⟨hhead, hne⟩ := Option.filter_eq_some_iff.1 hcd
      have hne : target ≠ "" := by simpa using hne
      show Builtin.withForm Builtin.cdForm "cd" Builtin.cd ("cd" :: rest)
        (s.note (.runningBuiltin "cd")) = _
      have hsame : Builtin.cdGoal (Bytes.ofText target) (s.note (.runningBuiltin "cd"))
          = Builtin.cdGoal (Bytes.ofText target) s := rfl
      unfold Builtin.withForm Builtin.cd
      rw [show ("cd" :: rest).drop 1 = rest from rfl, hread]
      dsimp only
      rw [hhead]
      split
      · rename_i hempty
        cases hempty
      · rename_i hempty
        exact absurd (Option.some.inj hempty) hne
      · rename_i word _ hword
        cases hword
        rw [hsame]
        cases Builtin.cdGoal (Bytes.ofText target) s <;> rfl
    · cases hcd
  · cases hcd

/-- A `cd` that finds its way does no more than move the session. -/
theorem runWords_of_cdGoal (spawn : Spawner) {words : List String} {target : String}
    {s : Session} {path : Path} {entered : WorkingDirectory}
    (hcd : Builtin.cdTarget? words = some target)
    (hgoal : Builtin.cdGoal (Bytes.ofText target) s = .ok (path, entered)) :
    s.runWords spawn words = (.goOn, (s.note (.runningBuiltin "cd")).moved path entered) := by
  rw [runWords_of_cdTarget? spawn hcd, hgoal]

/-- What a command of any kind has done. -/
theorem outcome_runWords (spawn : Spawner) (words : List String) (s : Session) :
    Outcome spawn words s (s.runWords spawn words).1 (s.runWords spawn words).2 := by
  cases words with
  | nil => exact .kept (.inl rfl) rfl
  | cons name rest =>
      by_cases hname : name = "cd"
      · subst hname
        exact Outcome.of_behind (behind_note (.runningBuiltin "cd") s)
          (outcome_cd spawn rest (s.note (.runningBuiltin "cd")))
      · have hcd := Builtin.cdTarget?_of_ne hname rest
        unfold runWords Command.ofName
        dsimp only
        cases hb : Builtin.named? name with
        | some b =>
            obtain ⟨hmem, hbname⟩ := Builtin.named?_spec hb
            refine .kept (.inl hcd) ?_
            exact Builtin.behind_run_of_ne_cd hmem (hbname ▸ hname) _ _
        | none =>
            dsimp only
            -- flushing comes first, and the program is left out if it fails
            have hflush := behind_withConsole s.console.flush.2 s
            split
            · exact .kept (.inl hcd) hflush
            · exact Outcome.of_behind hflush (Outcome.of_behind (behind_note (.launching name) _)
                (outcome_runProgram spawn hcd _))

end Session
end LineShell
