/-
What a session asks the system for when it launches a program, and what it
makes of the answer, whatever that is. The name is looked up with the search
path of the session. If nothing is found, nothing is asked for; else there is
one request, for what was found (`Session.AsksFor`).

# The answer

A program that could be started is a success, however it ends: its end is
noted in the log, and the verdict is the same for all. A system that refuses
is reported, as is a name without a program (`Session.Reports`). The report
tells a refusal for which the program is to blame from every other one
(`SystemError.BlamesProgram`), and it does so by what the system calls it: of
the numbered errors there are four of this kind
(`SystemError.blamesProgram_number_iff`).
-/
import LineShell.Proofs.Diagnosis
import LineShell.Proofs.Sparing
import LineShell.Proofs.Variables

namespace LineShell

-- ================================================================ refusals

/-- A program that is not there, may not be run or has no known format is the
reason why it was not started. -/
def SystemError.BlamesProgram (cause : SystemError) : Prop :=
  cause.kind? = some .notFound ∨ cause.kind? = some .permissionDenied ∨ cause = .number 8

instance (cause : SystemError) : Decidable cause.BlamesProgram :=
  inferInstanceAs (Decidable (_ ∨ _ ∨ _))

theorem SystemError.numberKind?_eq_notFound_iff (code : Int) :
    numberKind? code = some .notFound ↔ code = 2 := by
  unfold numberKind?
  split
  all_goals simp_all

theorem SystemError.numberKind?_eq_permissionDenied_iff (code : Int) :
    numberKind? code = some .permissionDenied ↔ code = 1 ∨ code = 13 := by
  unfold numberKind?
  split
  all_goals simp_all

theorem SystemError.blamesProgram_number_iff (code : Int) :
    (number code).BlamesProgram ↔ code = 1 ∨ code = 2 ∨ code = 8 ∨ code = 13 := by
  have hnotFound := numberKind?_eq_notFound_iff code
  have hdenied := numberKind?_eq_permissionDenied_iff code
  unfold BlamesProgram kind?
  rw [hnotFound, hdenied, number.injEq]
  omega

theorem Fault.ofRequest_eq (name : String) (cause : SystemError) :
    ofRequest name cause
      = if cause.BlamesProgram then .notRun name cause.message else .notStarted name cause := by
  have hblames : ((cause.kind? == some .notFound || cause.kind? == some .permissionDenied
      || cause == .unknownFormat) = true) = cause.BlamesProgram := by
    simp [SystemError.BlamesProgram, SystemError.unknownFormat, or_assoc]
  unfold ofRequest
  simp only [hblames]

namespace Session

variable {spawn : Spawner} {name : String} {rest : List String} {s s' : Session}

/-- The request that a session makes for a program. -/
structure AsksFor (s : Session) (program : Path) (arguments : List String) (r : ProgramRequest) :
    Prop where
  program : r.program = program
  arguments : r.arguments = arguments
  directory : r.directory = s.environment.directory
  /-- The session's variables, whose names are text, come before those of the
  process. -/
  vars : ∀ name : Bytes, r.vars.lookup name
    = match (Utf8.decode? name).bind fun text => s.environment.vars.lookup text with
      | some value => some (Bytes.ofText value)
      | none => s.machine.vars.lookup name

/-- One fault is told: in a line of diagnostics, and once in the log. -/
structure Reports (s : Session) (fault : Fault) (s' : Session) : Prop where
  complaint : s'.console.err = (s.console.complain ("lsh: " :: fault.pieces)).err
  notes : ∃ notes, s'.console.log = notes ++ s.console.log ∧
    notes.filterMap LogEntry.fault? = [fault]

theorem asksFor_requestFor (s : Session) (program : Path) (arguments : List String) :
    s.AsksFor program arguments (s.requestFor program arguments) :=
  ⟨rfl, rfl, rfl, ProcessVariables.lookup_overlay s.machine.vars s.environment.vars⟩

/-- The report of a session that has told nothing since. -/
theorem reports_report {asked : Session} (fault : Fault) (notes : List LogEntry)
    (herr : asked.console.err = s.console.err) (hlog : asked.console.log = notes ++ s.console.log)
    (hnotes : notes.filterMap LogEntry.fault? = []) : s.Reports fault (asked.report fault).2 := by
  constructor
  · show (asked.console.err.print _).2 = _
    rw [herr]
    rfl
  · refine ⟨.failed fault :: notes, ?_, ?_⟩
    · show .failed fault :: asked.console.log = _
      rw [hlog, List.cons_append]
    · rw [List.filterMap_cons, hnotes]
      rfl

-- ================================================================ launching

section launching

variable {found : Found} {r : ProgramRequest}

theorem runProgram_of_missing (hfind : s.find? name = none) :
    s.runProgram spawn (name :: rest) = s.report (.unknownCommand name) := by
  unfold runProgram
  dsimp only
  rw [hfind]

theorem runProgram_of_refused {cause : SystemError} (hfind : s.find? name = some found)
    (hr : r = s.requestFor found.path rest)
    (hspawn : spawn r (s.request r).scene = .error cause) :
    s.runProgram spawn (name :: rest)
      = ((s.note (.spawning name found.path)).request r).report (.ofRequest name cause) := by
  -- the log is not a part of what a program finds
  have hscene : ((s.note (.spawning name found.path)).request r).scene = (s.request r).scene := rfl
  rw [runProgram_of_found hfind, ← hr, hscene, hspawn]
  rfl

theorem runProgram_of_ran {ran : Ran} (hfind : s.find? name = some found)
    (hr : r = s.requestFor found.path rest) (hspawn : spawn r (s.request r).scene = .ok ran) :
    s.runProgram spawn (name :: rest)
      = (.goOn, (((s.note (.spawning name found.path)).request r).after ran).note
          (.ended name ran.ending)) := by
  have hscene : ((s.note (.spawning name found.path)).request r).scene = (s.request r).scene := rfl
  rw [runProgram_of_found hfind, ← hr, hscene, hspawn]
  rfl

end launching

/-- What a launch asks for and what it says, for every answer of the system. It
changes the machine by the request, and by what the program does to the
files, and nothing of the environment or the prompt. -/
theorem launch_asks_and_reports (spawn : Spawner) (name : String) (rest : List String)
    (s : Session) :
    let search := Bytes.ofText ((s.environment.value? s.machine "PATH").getD "")
    let verdict := (s.runProgram spawn (name :: rest)).1
    let s' := (s.runProgram spawn (name :: rest)).2
    (s'.environment = s.environment ∧ s'.prompt = s.prompt) ∧
      match findProgram? s.machine.files s.machine.workingDirectory search
        (Bytes.ofText name) with
      | none => verdict = .goOnAfterFault ∧ s'.machine = s.machine ∧
          s.Reports (.notRun name "command not found") s'
      | some found => ∃ r, s.AsksFor found.path rest r ∧
          match spawn r (s.request r).scene with
          | .error cause => verdict = .goOnAfterFault ∧
              s'.machine = { s.machine with requests := r :: s.machine.requests } ∧
              s.Reports
                (if cause.BlamesProgram then .notRun name cause.message
                  else .notStarted name cause) s'
          | .ok ran => verdict = .goOn ∧
              s'.machine = { s.machine with
                files := ran.files, requests := r :: s.machine.requests } ∧
              s'.console.log
                = .ended name ran.ending :: .spawning name found.path :: s.console.log ∧
              (LogEntry.ended name ran.ending).text
                = "DEBUG lsh::external: child terminated command=" ++ name ++ " disposition="
                  ++ toString (match ran.ending with
                    | .exited code => code
                    | .killed signal => 128 + signal) ∧
              (s'.console.err = s.console.err ∨ s.console.children = .shared ∧
                s'.console.err = s.console.err.takeBack ran.streams.errors) := by
  intro search verdict s'
  have hsearch : s.find? name = findProgram? s.machine.files s.machine.workingDirectory search
      (Bytes.ofText name) := rfl
  rw [← hsearch]
  cases hfind : s.find? name with
  | none =>
      have hrun : s.runProgram spawn (name :: rest) = _ := runProgram_of_missing hfind
      have hs' : s' = (s.report (.unknownCommand name)).2 := congrArg Prod.snd hrun
      rw [hs']
      exact ⟨⟨rfl, rfl⟩, congrArg Prod.fst hrun, rfl, reports_report _ [] rfl rfl rfl⟩
  | some found =>
      let r := s.requestFor found.path rest
      have hasks : s.AsksFor found.path rest r := asksFor_requestFor s found.path rest
      cases hspawn : spawn r (s.request r).scene with
      | error cause =>
          have hrun := runProgram_of_refused hfind rfl hspawn
          have hs' : s' = _ := congrArg Prod.snd hrun
          rw [hs']
          refine ⟨⟨rfl, rfl⟩, r, hasks, ?_⟩
          rw [hspawn]
          dsimp only
          rw [← Fault.ofRequest_eq]
          exact ⟨congrArg Prod.fst hrun, rfl,
            reports_report _ [.spawning name found.path] rfl rfl rfl⟩
      | ok ran =>
          have hrun := runProgram_of_ran hfind rfl hspawn
          have hs' : s' = _ := congrArg Prod.snd hrun
          rw [hs']
          refine ⟨⟨rfl, rfl⟩, r, hasks, ?_⟩
          rw [hspawn]
          refine ⟨congrArg Prod.fst hrun, rfl, ?_, ?_, ?_⟩
          · exact congrArg (.ended name ran.ending :: ·) (Console.log_withStreams _ _)
          · cases ran.ending with
            | exited code => rfl
            | killed signal => rfl
          · exact Console.err_withStreams ran.streams ((s.note _).request r).console

end Session

end LineShell
