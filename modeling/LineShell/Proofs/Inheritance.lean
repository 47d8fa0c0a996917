/-
What programs are given for variables: those of the process, with those of
the session laid over them. Neither are changed by a command, so a session
hands on to every program what it began with (`Conduct.hands_on` for one
command, `Call.requests_hand_on` for a run).

# An environment that was captured

The environment of a session that was just begun is that of the process,
read as text. Laid over the variables it was read from it changes nothing,
and every program is given the variables of the process, byte for byte.

But a single variable that is not text leaves no environment, and the
program gives up before it reads a line, though it needs the variable for
nothing. There is no other variable for which it does, and no other reason
for its code (`run_code_eq_gaveUp_iff`).
-/
import LineShell.Proofs.Conduct
import LineShell.Proofs.Execution
import LineShell.Proofs.Sparing
import LineShell.Proofs.WholeRun

namespace LineShell

variable {spawn : Spawner}

-- =============================================== what a command hands on

/-- A session has these variables, and since it had made these requests it has
asked for programs with those variables only. -/
structure HandsOn (vars : ProcessVariables) (own : Variables) (before : List ProgramRequest)
    (s : Session) : Prop where
  process : s.machine.vars = vars
  session : s.environment.vars = own
  requests : ∃ made, s.machine.requests = made ++ before ∧
    ∀ r ∈ made, r.inherited = vars ∧ r.own = own

namespace HandsOn

variable {vars : ProcessVariables} {own : Variables} {before : List ProgramRequest}
  {s s' : Session}

theorem of_behind (hbehind : s'.behind = s.behind) (h : HandsOn vars own before s) :
    HandsOn vars own before s' := by
  have hmachine := Session.machine_eq_of_behind hbehind
  have henvironment := Session.environment_eq_of_behind hbehind
  exact ⟨hmachine ▸ h.process, henvironment ▸ h.session, hmachine ▸ h.requests⟩

/-- A session that has asked for nothing hands on what it has. -/
theorem of_eq (h : HandsOn vars own before s) (hprocess : s'.machine.vars = s.machine.vars)
    (hsession : s'.environment.vars = s.environment.vars)
    (hrequests : s'.machine.requests = s.machine.requests) : HandsOn vars own before s' :=
  ⟨hprocess.trans h.process, hsession.trans h.session, hrequests ▸ h.requests⟩

/-- So does one that has asked for a program with its variables. -/
theorem of_request {program : Path} {arguments : List String} (h : HandsOn vars own before s)
    (hprocess : s'.machine.vars = s.machine.vars)
    (hsession : s'.environment.vars = s.environment.vars)
    (hrequests : s'.machine.requests = s.requestFor program arguments :: s.machine.requests) :
    HandsOn vars own before s' := by
  obtain ⟨made, hmade, hall⟩ := h.requests
  refine ⟨hprocess.trans h.process, hsession.trans h.session,
    s.requestFor program arguments :: made, ?_, ?_⟩
  · rw [hrequests, hmade, List.cons_append]
  · exact List.forall_mem_cons.2 ⟨⟨h.process, h.session⟩, hall⟩

/-- No command changes what is handed on. -/
theorem conduct {words : List String} {verdict : Verdict}
    (hconduct : Conduct spawn words s verdict s') (h : HandsOn vars own before s) :
    HandsOn vars own before s' := by
  cases hconduct with
  | idle => exact h
  | notStarted hname hflush hfind hrequest hspawn =>
      subst hrequest
      exact h.of_request rfl rfl rfl
  | ran hname hflush hfind hrequest hspawn =>
      subst hrequest
      exact h.of_request rfl rfl rfl
  | left | printed | notPrinted | refused | moved | notMoved | notFlushed | notFound =>
      exact h.of_eq rfl rfl rfl

end HandsOn

/-- All programs that a session asks for are given the variables that it began
with. -/
theorem Call.requests_hand_on (spawn : Spawner) (calls : List Call) (s : Session) :
    HandsOn s.machine.vars s.environment.vars s.machine.requests (runAll spawn calls s) := by
  have hstart : HandsOn s.machine.vars s.environment.vars s.machine.requests s :=
    ⟨rfl, rfl, [], rfl, by simp⟩
  refine ((leads_runAll spawn calls s).invariant _ (fun _ => True) HandsOn.of_behind ?_ hstart).2
  intro words s hs
  exact ⟨trivial, hs.conduct (Session.conduct_runWords spawn words s)⟩

-- ============================================ environments that are captured

namespace Environment

variable {m : Machine} {e : Environment}

theorem capture?_isSome_iff :
    (∃ e, capture? m = some e) ↔ ∀ entry ∈ m.vars.entries, entry.1.isText ∧ entry.2.isText := by
  rw [← ProcessVariables.asText?_isSome_iff]
  unfold capture?
  simp [Option.map_eq_some_iff]

theorem overlay_of_capture? (h : capture? m = some e) : m.vars.overlay e.vars = m.vars := by
  obtain ⟨own, hown, rfl⟩ := Option.map_eq_some_iff.1 h
  exact ProcessVariables.overlay_of_asText? hown

end Environment

namespace CommandLine

/-- A session that was begun ends well or with an error. -/
theorem code_finish_ne_gaveUp (ended : LoopEnd Source.Standard) :
    (finish ended).code ≠ gaveUp := by
  unfold finish
  cases ended.result with
  | ok => exact nofun
  | error fault => exact nofun

/-- The program gives up if there is to be a session and a variable is not
text, and for no other reason. -/
theorem run_code_eq_gaveUp_iff (spawn : Spawner) (i : Invocation) :
    (run spawn i).code = gaveUp ↔ (∀ word ∈ i.arguments, word.isText) ∧
      (∃ a, Options.form.read (i.arguments.map Utf8.lossy) = .given a) ∧
        ¬∀ entry ∈ i.machine.vars.entries, entry.1.isText ∧ entry.2.isText := by
  by_cases hwords : ∀ word ∈ i.arguments, word.isText
  · rw [run_of_isText spawn hwords, ← Environment.capture?_isSome_iff]
    cases Options.form.read (i.arguments.map Utf8.lossy) with
    | helpRequested => simp [Invocation.ended, gaveUp]
    | refused message => simp [Invocation.ended, gaveUp]
    | given a =>
        cases Environment.capture? i.machine with
        | none => simpa [Invocation.ended] using hwords
        | some e => simp [code_finish_ne_gaveUp]
  · refine iff_of_false ?_ fun h => hwords h.1
    have hfind := mt find?_decode?_eq_none_iff.1 hwords
    obtain ⟨word, hword⟩ := Option.ne_none_iff_exists'.1 hfind
    unfold run
    rw [hword]
    exact nofun

end CommandLine

-- ====================================================== a session that begins

/-- A system passes on what programs are given: each sees the variables of its
request, as a process sees variables. -/
def Spawner.PassesOn (seen : ProgramRequest → Scene → List Bytes) : Prop :=
  ∀ r scene, seen r scene = r.vars.lines

namespace Environment

/-- There is an environment if and only if all variables of the process are
text, names and values, and if there is to be a session the program gives up
without one. With the environment of its process a session gives every program
the variables of the process, and a program that is given variables sees
them, wherever it runs. -/
theorem handed_on_as_captured (m : Machine) :
    ((∃ e, capture? m = some e)
      ↔ ∀ entry ∈ m.vars.entries, entry.1.isText ∧ entry.2.isText) ∧
    (∀ (spawn : Spawner) (i : CommandLine.Invocation), i.machine = m →
      ((CommandLine.run spawn i).code = CommandLine.gaveUp ↔
        (∀ word ∈ i.arguments, word.isText) ∧
          (∃ a, Options.form.read (i.arguments.map Utf8.lossy) = .given a) ∧
            ¬∀ entry ∈ m.vars.entries, entry.1.isText ∧ entry.2.isText)) ∧
    ∀ e, capture? m = some e → ∀ (spawn : Spawner) (calls : List Call) (s : Session),
      s.machine = m → s.environment = e →
        ∃ made, (Call.runAll spawn calls s).machine.requests = made ++ m.requests ∧
          ∀ r ∈ made, r.vars = m.vars ∧
            ∀ seen : ProgramRequest → Scene → List Bytes, Spawner.PassesOn seen →
              ∀ scene, seen r scene = m.vars.lines := by
  refine ⟨capture?_isSome_iff, ?_, ?_⟩
  · rintro spawn i rfl
    exact CommandLine.run_code_eq_gaveUp_iff spawn i
  · rintro e hcapture spawn calls s rfl rfl
    obtain ⟨made, hmade, hall⟩ := (Call.requests_hand_on spawn calls s).requests
    refine ⟨made, hmade, fun r hr => ?_⟩
    obtain ⟨hinherited, hown⟩ := hall r hr
    have hvars : r.vars = s.machine.vars := by
      unfold ProgramRequest.vars
      rw [hinherited, hown, overlay_of_capture? hcapture]
    refine ⟨hvars, fun seen hseen scene => ?_⟩
    rw [hseen r scene, hvars]

/-- A byte that begins nothing is enough, in a variable of any name. -/
theorem not_captured :
    let m : Machine :=
      { files := .empty, workingDirectory := ⟨[], 0⟩
        vars := { entries := [(Bytes.ofText "NAME", [0xFF])] } }
    (∀ entry ∈ m.vars.entries, 0 ∉ entry.2) ∧ capture? m = none ∧
      (CommandLine.run (fun _ _ => .error .noEntry)
        { arguments := [], machine := m }).code = CommandLine.gaveUp := by
  intro m
  have htext : ¬∀ entry ∈ m.vars.entries, entry.1.isText ∧ entry.2.isText := by decide
  refine ⟨by decide, by decide, ?_⟩
  exact (CommandLine.run_code_eq_gaveUp_iff _ _).2 ⟨nofun, ⟨{}, by decide⟩, htext⟩

/-- A session that is begun in an environment runs a program of it. -/
theorem handed_on_once :
    let m : Machine :=
      { files := .twoTools, workingDirectory := ⟨[[119]], 2⟩
        vars :=
          { entries :=
              [(Bytes.ofText "PATH", Bytes.ofText "/bin"),
                (Bytes.ofText "NAME", Bytes.ofText "é\n")] } }
    let s : Session :=
      { machine := m
        environment :=
          { vars := { entries := [("PATH", "/bin"), ("NAME", "é\n")] }
            directory := Bytes.ofText "/w" } }
    capture? m = some s.environment ∧ ∃ r,
      (Call.runAll (fun _ _ => .error .noEntry) [.runWords {} ["t"]] s).machine.requests = [r] ∧
        r.vars = m.vars ∧ ∀ scene directory,
          (Host.settingFor r scene directory).vars = m.vars.lines := by
  intro m s
  have hcapture : capture? m = some s.environment := by decide
  obtain ⟨-, -, -, htool, -, -⟩ := FileTree.resolve_twoTools ⟨[[119]], 2⟩
  have hfind : s.find? "t" = some (.inEntry [47, 98, 105, 110, 47, 116]) :=
    Session.find?_of_candidate [116] [] (by decide) (by decide) (by decide)
      (FileTree.isProgram_of_tool htool rfl)
  have hrun : s.runWords (fun _ _ => .error .noEntry) ["t"] = _ :=
    Session.runWords_of_found (by decide) rfl hfind
  obtain ⟨made, hmade, hall⟩ := (handed_on_as_captured m).2.2 s.environment hcapture
    (fun _ _ => .error .noEntry) [.runWords {} ["t"]] s rfl rfl
  have hasked : (Call.runAll (fun _ _ => .error .noEntry) [.runWords {} ["t"]] s).machine.requests
      = [s.requestFor [47, 98, 105, 110, 47, 116] []] := congrArg (·.2.machine.requests) hrun
  obtain rfl : [s.requestFor [47, 98, 105, 110, 47, 116] []] = made := by
    rw [← hasked, hmade]
    exact List.append_nil made
  obtain ⟨hvars, hseen⟩ := hall _ List.mem_cons_self
  refine ⟨hcapture, _, hasked, hvars, fun scene directory => ?_⟩
  exact hseen (fun r scene => (Host.settingFor r scene directory).vars) (fun _ _ => rfl) scene

end Environment

end LineShell
