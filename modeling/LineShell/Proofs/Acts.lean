/-
What a builtin does, decided before it does it. From its words and from what
is behind the console a builtin makes one act (`Builtin.Act`): it leaves,
prints, refuses its arguments, reports a fault or moves. Nothing of the
console goes into that choice (`Builtin.exists_act`), so what builtins do to a
console is told by the five acts, without a look at the builtins.
-/
import LineShell.Proofs.Conduct

namespace LineShell

/-- What a builtin does to a session. -/
inductive Builtin.Act
  | leave
  | print (pieces : List Bytes)
  /-- The arguments do not fill the form. -/
  | refuse (message : String)
  | report (fault : Fault)
  | move (path : Path) (entered : WorkingDirectory)

namespace Builtin

/-- Does it. -/
def Act.run : Act → Session → Verdict × Session
  | .leave, s => (.leave, s)
  | .print pieces, s => s.print pieces
  | .refuse message, s => (.goOnAfterFault, s.complained [message])
  | .report fault, s => s.report fault
  | .move path entered, s => (.goOn, s.moved path entered)

/-- A run of a builtin is one act in every session that has the same behind
its console. -/
def Decides (run : Session → Verdict × Session) (s : Session) : Prop :=
  ∃ act : Act, ∀ t : Session, t.behind = s.behind → run t = act.run t

theorem decides_withForm {form : ArgumentForm} {name : String}
    {act : Arguments → Session → Verdict × Session} {s : Session}
    (hact : ∀ arguments, Decides (act arguments) s) (words : List String) :
    Decides (withForm form name act words) s := by
  unfold withForm
  cases form.read (words.drop 1) with
  | given arguments => exact hact arguments
  | helpRequested =>
      exact ⟨.print [Bytes.ofText (Text.trimEnd (form.usage name)), lineEnd], fun _ _ => rfl⟩
  | refused message => exact ⟨.refuse (Text.trimEnd message), fun _ _ => rfl⟩

theorem decides_cd (arguments : Arguments) (s : Session) : Decides (cd arguments) s := by
  have hgoal : ∀ {t : Session} {target : Path}, t.behind = s.behind →
      cdGoal target t = cdGoal target s := by
    intro t target h
    unfold cdGoal
    rw [Session.machine_eq_of_behind h, Session.environment_eq_of_behind h]
  unfold cd
  cases arguments.words.head? with
  | none => exact ⟨.report (.argumentMissing "cd"), fun _ _ => rfl⟩
  | some word =>
      by_cases hempty : word = ""
      · subst hempty
        exact ⟨.report (.argumentMissing "cd"), fun _ _ => rfl⟩
      · cases hs : cdGoal (Bytes.ofText word) s with
        | error cause =>
            refine ⟨.report (.notEntered (Bytes.ofText word) cause), fun t ht => ?_⟩
            simp only [hgoal ht, hs]
            rfl
        | ok goal =>
            refine ⟨.move goal.1 goal.2, fun t ht => ?_⟩
            simp only [hgoal ht, hs]
            rfl

/-- What a builtin does is decided behind the console. -/
theorem exists_act {b : Builtin} (hb : b ∈ all) (words : List String) (s : Session) :
    ∃ act : Act, ∀ t : Session, t.behind = s.behind → b.run words t = act.run t := by
  simp only [all, List.mem_cons, List.not_mem_nil, or_false] at hb
  rcases hb with rfl | rfl | rfl | rfl | rfl
  · exact decides_withForm (fun arguments => decides_cd arguments s) words
  · exact ⟨.leave, fun _ _ => rfl⟩
  · exact decides_withForm (fun _ => ⟨.print _, fun _ _ => rfl⟩) words
  · refine decides_withForm (fun _ => ?_) words
    refine ⟨.print [Bytes.ofText s.environment.directory.display, lineEnd], fun t ht => ?_⟩
    rw [← Session.environment_eq_of_behind ht]
    rfl
  · exact ⟨.print _, fun _ _ => rfl⟩

end Builtin
end LineShell
