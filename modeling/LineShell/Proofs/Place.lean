/-
Where a session is, over whole runs. Two things say it: the directory that
the session takes names against, and the one that its process is in. They
need not agree at the start. A `cd` that succeeds sets both to one place,
and no other command touches either (`Dispatch.StaysOrMoves`), so they
agree from the first such `cd` on, or from the start if they did
(`Leads.inSync`).

A target is taken against the directory of the session. If that begins at
the root, as it does after every `cd`, the process plays no part in what
the target means. Only a session that names its directory otherwise finds
its targets by way of the directory of its process.
-/
import LineShell.Proofs.Canonical
import LineShell.Proofs.Dispatch
import LineShell.Source.Events

namespace LineShell

-- ========================================================== being in sync

namespace Session

/-- The directory of the session is that of its process. -/
def InSync (s : Session) : Prop :=
  s.environment.directory = s.machine.workingDirectory.location.path

theorem InSync.of_place {s s' : Session} (h : s'.place = s.place) (hs : s.InSync) :
    s'.InSync := by
  have hdirectory : s'.environment.directory = s.environment.directory := congrArg Prod.fst h
  have hprocess : s'.machine.workingDirectory = s.machine.workingDirectory := congrArg Prod.snd h
  unfold InSync
  rw [hdirectory, hprocess]
  exact hs

end Session

-- =========================================================== one command

namespace Dispatch

/-- A `cd` that was given a directory to go to, and succeeded. -/
def Enters (d : Dispatch) : Prop :=
  (Builtin.cdTarget? d.words).isSome ∧ d.verdict = .goOn

/-- The session has moved to a location, and so has its process. It is the
canonical location of the target, taken against the directory that the
session had; if that begins at the root it does not matter where the
process was. The path of the location begins at the root and has neither
`.` nor `..` nor a link in it, and a directory stands there. -/
structure MovesTo (d : Dispatch) (location : Location) : Prop where
  canonical : ∃ target, Builtin.cdTarget? d.words = some target ∧
    d.before.machine.files.canonical d.before.machine.workingDirectory
      (d.before.environment.directory.join (Bytes.ofText target)) = .ok location ∧
    (d.before.environment.directory.isAbsolute → ∀ elsewhere,
      d.before.machine.files.canonical elsewhere
        (d.before.environment.directory.join (Bytes.ofText target)) = .ok location)
  directory : d.after.environment.directory = location.path
  process : d.after.machine.workingDirectory.location = location
  inside : d.after.machine.files.holds d.after.machine.workingDirectory
  absolute : location.path.isAbsolute
  plain : ∀ name ∈ location, Path.IsPlain name
  real : ∀ above, above <+: location → d.after.machine.files.IsDirectory above

/-- After a move the session is in sync. -/
theorem MovesTo.inSync {d : Dispatch} {location : Location} (h : d.MovesTo location) :
    d.after.InSync := by
  unfold Session.InSync
  rw [h.directory, h.process]

/-- A `cd` that finds its way moves the session. -/
theorem movesTo_of_cdGoal {d : Dispatch} {target : String} {path : Path}
    {entered : WorkingDirectory} (htarget : Builtin.cdTarget? d.words = some target)
    (hgoal : Builtin.cdGoal (Bytes.ofText target) d.before = .ok (path, entered))
    (hafter : d.after.behind = (d.before.moved path entered).behind) :
    ∃ location, d.MovesTo location := by
  obtain ⟨location, hcan, hentered, hpath⟩ := Builtin.cdGoal_eq_ok_iff.1 hgoal
  have hcanonical := FileTree.canonical_eq_ok_iff.2 hcan.leads
  obtain ⟨hlocation, hholds⟩ := FileTree.directoryAt_spec hentered
  have hgrounded := hcan.reached.grounded
  have hmachine : d.after.machine
      = { d.before.machine with workingDirectory := entered } :=
    Session.machine_eq_of_behind hafter
  have hdirectory : d.after.environment.directory = path :=
    congrArg Environment.directory (Session.environment_eq_of_behind hafter)
  refine ⟨location, ⟨target, htarget, hcanonical, fun habsolute elsewhere => ?_⟩,
    hdirectory.trans hpath, ?_, ?_, Location.isAbsolute_path location,
    fun name hname => (hgrounded.isFileName name hname).plain, fun above habove => ?_⟩
  · rw [← hcanonical]
    exact FileTree.canonical_of_isAbsolute (Path.isAbsolute_join habsolute _) _ _
  · rw [hmachine]
    exact hlocation
  · rw [hmachine]
    exact hholds
  · rw [hmachine]
    by_cases heq : above = location
    · rw [heq]
      exact hcan.directory.isDirectory
    · obtain ⟨node, hlookup, -⟩ := hgrounded
      exact FileTree.isDirectory_above hlookup habove heq

/-- A command either is a `cd` that succeeds, and moves the session, or
leaves the session where it is. -/
def StaysOrMoves (d : Dispatch) : Prop :=
  (d.Enters ∧ ∃ location, d.MovesTo location) ∨ (¬d.Enters ∧ d.after.place = d.before.place)

/-- There is no third kind of command. -/
theorem stays_or_moves (spawn : Spawner) (words : List String) (s : Session) :
    (Dispatch.of spawn words s).StaysOrMoves := by
  have houtcome := Session.outcome_runWords spawn words s
  cases houtcome with
  | kept hcd hbehind =>
      refine .inr ⟨?_, Session.place_eq_of_behind hbehind⟩
      rintro ⟨hsome, hgo⟩
      rcases hcd with hnone | hfault
      · have hsome : (Builtin.cdTarget? words).isSome := hsome
        rw [hnone] at hsome
        cases hsome
      · have hgo : (s.runWords spawn words).1 = .goOn := hgo
        rw [hfault] at hgo
        cases hgo
  | moved target path entered hcd hverdict hgoal hbehind =>
      refine .inl ⟨⟨?_, hverdict⟩, ?_⟩
      · show (Builtin.cdTarget? words).isSome
        rw [hcd]
        rfl
      · exact movesTo_of_cdGoal hcd hgoal hbehind
  | asked r files hcd hfiles henvironment hprompt hmachine =>
      refine .inr ⟨?_, ?_⟩
      · rintro ⟨hsome, -⟩
        have hsome : (Builtin.cdTarget? words).isSome := hsome
        rw [hcd] at hsome
        cases hsome
      · show (s.runWords spawn words).2.place = s.place
        unfold Session.place
        rw [henvironment, hmachine]

end Dispatch

-- ============================================================ whole runs

namespace Leads

variable {spawn : Spawner} {s s' : Session} {ds : List Dispatch}

/-- Of all commands of a run those that enter a directory move the session
to it, and the others leave it where it is; none changes the variables. -/
theorem places (h : Leads spawn s ds s') :
    (∀ d ∈ ds, d.after.environment.vars = s.environment.vars ∧ d.StaysOrMoves) ∧
      s'.environment.vars = s.environment.vars := by
  obtain ⟨hall, hvars⟩ := h.invariant
    (fun t => t.environment.vars = s.environment.vars)
    (fun d => d.after.environment.vars = s.environment.vars ∧ d.StaysOrMoves)
    (fun hbehind ht => (Session.environment_eq_of_behind hbehind) ▸ ht)
    (fun words t ht => by
      have hvars := (Session.outcome_runWords spawn words t).vars_eq.trans ht
      exact ⟨⟨hvars, Dispatch.stays_or_moves spawn words t⟩, hvars⟩)
    rfl
  exact ⟨hall, hvars⟩

/-- Once in sync, a session stays so, and one `cd` that succeeds is enough
for it to be. -/
theorem inSync (h : Leads spawn s ds s')
    (hstart : s.InSync ∨ ∃ d ∈ ds, d.Enters) : s'.InSync := by
  induction ds generalizing s with
  | nil =>
      rcases hstart with hstart | ⟨d, hd, -⟩
      · exact hstart.of_place (Session.place_eq_of_behind h)
      · cases hd
  | cons d ds ih =>
      obtain ⟨hbefore, hof, hrest⟩ := h
      have hd : d.StaysOrMoves := by
        rw [hof]
        exact Dispatch.stays_or_moves spawn d.words d.before
      -- what is left to show is that `d` leaves it in sync, or that one is to come
      refine ih hrest ?_
      rcases hd with ⟨-, location, hmoves⟩ | ⟨hstays, hplace⟩
      · exact .inl hmoves.inSync
      · rcases hstart with hstart | ⟨e, he, henters⟩
        · have hsync : d.before.InSync := hstart.of_place (Session.place_eq_of_behind hbefore)
          exact .inl (hsync.of_place hplace)
        · rcases List.mem_cons.1 he with rfl | he
          · exact absurd henters hstays
          · exact .inr ⟨e, he, henters⟩

end Leads

namespace Call

/-- Where a session is, is changed by commands only, and only by a `cd`
that was given a directory to go to and succeeds. Such a command moves the
session and its process to the canonical location of its target. All
others, and so a `cd` that fails or is asked for help, leave both where
they are; and the variables never change. Hence after such a `cd`, and if
they were in sync at the start after any command, the session and its
process are in one directory. -/
theorem place_changes_by_cd (spawn : Spawner) (calls : List Call) (s : Session) :
    Leads spawn s (allDispatches spawn calls s) (runAll spawn calls s) ∧
      (runAll spawn calls s).environment.vars = s.environment.vars ∧
      (∀ d ∈ allDispatches spawn calls s,
        d.after.environment.vars = s.environment.vars ∧ d.StaysOrMoves) ∧
      (∀ front d rest, allDispatches spawn calls s = front ++ d :: rest →
        (s.InSync ∨ ∃ e ∈ front ++ [d], e.Enters) → d.after.InSync) ∧
      ((s.InSync ∨ ∃ d ∈ allDispatches spawn calls s, d.Enters) →
        (runAll spawn calls s).InSync) := by
  have hleads := leads_runAll spawn calls s
  obtain ⟨hall, hvars⟩ := hleads.places
  refine ⟨hleads, hvars, hall, fun front d rest hsplit hstart => ?_, hleads.inSync⟩
  rw [hsplit] at hleads
  exact hleads.upto.inSync hstart

/-- A session whose process is in `/a`, and that takes names against `/`,
goes to `/a`; then neither a `cd` that fails nor the end of the input puts
it out of sync. -/
theorem place_changes_by_cd_out_of_sync :
    let files : FileTree :=
      { nodes := [([], .directory 0 0o755), ([[97]], .directory 1 0o755)], fresh := 2 }
    let s : Session :=
      { machine := { files, workingDirectory := ⟨[[97]], 1⟩ }
        environment := { directory := [47] } }
    let spawn : Spawner := fun _ _ => .error .noEntry
    let calls : List Call :=
      [.runWords {} ["cd", "a"], .converse {} (Source.Events.mk [.ok "cd b"] [])]
    ¬s.InSync ∧ (runAll spawn calls s).InSync := by
  intro files s spawn calls
  have hroot : files.Searchable [] := ⟨0, 0o755, rfl, rfl⟩
  have ha : files.Reached [[97]] := .child (l := []) .root hroot rfl (by simp)
  have htraces : files.Traces 0 [] [[97]] [[97]] :=
    .down ⟨.root, hroot, rfl, by decide⟩ (by simp) (by simp [FileTree.asksForDirectory])
      (.arrived _)
  have hcan : s.CanEnter (Bytes.ofText "a") [[97]] :=
    ⟨⟨0, ⟨by decide, [], by decide, htraces⟩, by decide⟩, by decide, ha, 1, 0o755, rfl, rfl⟩
  have hgoal : Builtin.cdGoal (Bytes.ofText "a") s = .ok (Location.path [[97]], ⟨[[97]], 1⟩) :=
    Builtin.cdGoal_eq_ok_iff.2 ⟨_, hcan, rfl, rfl⟩
  have henters : (Dispatch.of spawn ["cd", "a"] { s with console := {} }).Enters :=
    ⟨by decide, congrArg Prod.fst (Session.runWords_of_cdGoal spawn (by decide) hgoal)⟩
  have hout : ¬s.InSync := by
    unfold Session.InSync
    decide
  refine ⟨hout, ?_⟩
  exact (place_changes_by_cd spawn calls s).2.2.2.2 (.inr ⟨_, List.mem_cons_self, henters⟩)

end Call
end LineShell
