/-
Two sessions side by side, that differ in their outlets and in the log. A
`Likeness` says how outlets may differ. Of the outlet for output a command
sees what it answers, when it is printed to and when it is flushed, so the
answers of both have to be the same as long as the same is done to both.
Of the outlet for diagnostics a command sees nothing, and nothing is asked
but that a complaint to both leaves them alike.

Alike sessions do the same. One command keeps them alike and gives the
same verdict in both (`alike_runWords`), and so does a whole loop, if what
the two read from stays in step (`alike_converse`).

# Programs

A program sees the streams that it inherits. If these are apart from the
outlets, they are the same in alike sessions. If they are the very channels
behind the outlets, a program sees more of them than any command: all but
their records. So then the channels have to be the same but for these, as
soon as the output is flushed for the program, and what the program leaves
there has to keep the outlets alike (`Likeness.Lends`).
-/
import LineShell.Proofs.Acts
import LineShell.Proofs.Dispatch

namespace LineShell

-- ============================================================== likeness

/-- How outlets may differ without a command noticing it. -/
structure Likeness where
  out : Outlet → Outlet → Prop
  err : Outlet → Outlet → Prop
  print : ∀ {o₁ o₂ : Outlet}, out o₁ o₂ → ∀ pieces : List Bytes,
    (o₁.print pieces).1 = (o₂.print pieces).1 ∧ out (o₁.print pieces).2 (o₂.print pieces).2
  flush : ∀ {o₁ o₂ : Outlet}, out o₁ o₂ →
    o₁.flush.1 = o₂.flush.1 ∧ out o₁.flush.2 o₂.flush.2
  lend : ∀ {o₁ o₂ : Outlet}, out o₁ o₂ → out o₁.lend o₂.lend
  complain : ∀ {e₁ e₂ : Outlet}, err e₁ e₂ → ∀ pieces : List String,
    err (e₁.complain pieces) (e₂.complain pieces)

/-- Outlets that do not differ. -/
def Likeness.same : Likeness where
  out := Eq
  err := Eq
  print h pieces := by
    rw [h]
    exact ⟨rfl, rfl⟩
  flush h := by
    rw [h]
    exact ⟨rfl, rfl⟩
  lend h := congrArg Outlet.lend h
  complain h pieces := congrArg (Outlet.complain pieces) h

variable {L : Likeness}

/-- What is behind two outlets can be lent to a program. It finds the same
behind both, and whatever it leaves there, they stay alike. -/
structure Likeness.Ready (L : Likeness) (o₁ o₂ : Outlet) : Prop where
  finds : o₁.channel.clear = o₂.channel.clear
  leaves : ∀ left : Channel, L.out (o₁.lend.takeBack left) (o₂.lend.takeBack left)

/-- Programs that have the channels behind outlets notice no more of how these
differ than commands do. -/
structure Likeness.Lends (L : Likeness) : Prop where
  /-- No program starts but behind a flush. -/
  out : ∀ {o₁ o₂ : Outlet}, L.out o₁ o₂ → L.Ready o₁.flush.2 o₂.flush.2
  finds : ∀ {e₁ e₂ : Outlet}, L.err e₁ e₂ → e₁.channel.clear = e₂.channel.clear
  leaves : ∀ {e₁ e₂ : Outlet}, L.err e₁ e₂ → ∀ left : Channel,
    L.err (e₁.takeBack left) (e₂.takeBack left)

theorem Likeness.ready_same (o : Outlet) : same.Ready o o :=
  ⟨rfl, fun _ => rfl⟩

theorem Likeness.lends_same : same.Lends where
  out h := by
    obtain rfl := h
    exact ready_same _
  finds h := congrArg (fun e : Outlet => e.channel.clear) h
  leaves h left := congrArg (Outlet.takeBack left) h

-- ============================================================== consoles

/-- Consoles that differ in their outlets and in the log. -/
structure Console.Alike (L : Likeness) (c₁ c₂ : Console) : Prop where
  out : L.out c₁.out c₂.out
  err : L.err c₁.err c₂.err
  input : c₁.input = c₂.input
  children : c₁.children = c₂.children
  /-- Programs that write to the outlets do not see how these differ. -/
  shared : c₁.children = .shared → L.Lends

namespace Console.Alike

variable {c₁ c₂ : Console}

/-- What is noted in the log makes no difference. -/
theorem withLog (h : c₁.Alike L c₂) (log₁ log₂ : List LogEntry) :
    ({ c₁ with log := log₁ } : Console).Alike L { c₂ with log := log₂ } :=
  ⟨h.out, h.err, h.input, h.children, h.shared⟩

theorem withOut (h : c₁.Alike L c₂) {out₁ out₂ : Outlet} (hout : L.out out₁ out₂) :
    ({ c₁ with out := out₁ } : Console).Alike L { c₂ with out := out₂ } :=
  ⟨hout, h.err, h.input, h.children, h.shared⟩

theorem complain (h : c₁.Alike L c₂) (pieces : List String) :
    (c₁.complain pieces).Alike L (c₂.complain pieces) :=
  ⟨h.out, L.complain h.err pieces, h.input, h.children, h.shared⟩

/-- Programs inherit the same streams. -/
theorem streams (h : c₁.Alike L c₂)
    (hout : c₁.children = .shared → c₁.out.channel.clear = c₂.out.channel.clear) :
    c₁.streams = c₂.streams := by
  unfold Console.streams
  rw [← h.children, h.input]
  cases hchildren : c₁.children with
  | apart output errors => rfl
  | shared =>
      dsimp only
      rw [hout hchildren, (h.shared hchildren).finds h.err]

/-- And leave the consoles alike. -/
theorem withStreams (h : c₁.Alike L c₂) (streams : Streams)
    (hout : c₁.children = .shared →
      L.out (c₁.out.takeBack streams.output) (c₂.out.takeBack streams.output)) :
    (c₁.withStreams streams).Alike L (c₂.withStreams streams) := by
  cases hchildren : c₁.children with
  | apart output errors =>
      rw [withStreams_of_apart streams hchildren,
        withStreams_of_apart streams (h.children.symm.trans hchildren)]
      exact ⟨h.out, h.err, rfl, rfl, fun hshared => by cases hshared⟩
  | shared =>
      have hlends := h.shared hchildren
      have herr := hlends.leaves h.err streams.errors
      rw [withStreams_of_shared streams hchildren,
        withStreams_of_shared streams (h.children.symm.trans hchildren)]
      exact ⟨hout hchildren, herr, rfl, h.children, fun _ => hlends⟩

end Console.Alike

-- ============================================================== sessions

namespace Session

/-- Sessions that differ in their outlets and in the log. -/
structure Alike (L : Likeness) (s₁ s₂ : Session) : Prop where
  behind : s₁.behind = s₂.behind
  console : s₁.console.Alike L s₂.console

/-- Commands that end alike give the same verdict. -/
structure EndAlike (L : Likeness) (ended₁ ended₂ : Verdict × Session) : Prop where
  verdict : ended₁.1 = ended₂.1
  session : ended₁.2.Alike L ended₂.2

/-- A session without its log. -/
def unlogged (s : Session) : Session :=
  { s with console := { s.console with log := [] } }

namespace Alike

variable {s₁ s₂ : Session}

/-- Alike sessions are one session with two consoles. -/
theorem eq_withConsole (h : s₁.Alike L s₂) : s₂ = { s₁ with console := s₂.console } := by
  have hmachine := machine_eq_of_behind h.behind
  have henvironment := environment_eq_of_behind h.behind
  have hprompt := prompt_eq_of_behind h.behind
  rw [hmachine, henvironment, hprompt]

theorem withConsole (h : s₁.Alike L s₂) {c₁ c₂ : Console} (hconsole : c₁.Alike L c₂) :
    ({ s₁ with console := c₁ } : Session).Alike L { s₂ with console := c₂ } :=
  ⟨h.behind, hconsole⟩

/-- Notes keep them alike, -/
theorem note (h : s₁.Alike L s₂) (entry₁ entry₂ : LogEntry) :
    (s₁.note entry₁).Alike L (s₂.note entry₂) :=
  h.withConsole (h.console.withLog _ _)

/-- also on one side only. -/
theorem note_left (h : s₁.Alike L s₂) (entry : LogEntry) : (s₁.note entry).Alike L s₂ :=
  h.withConsole (h.console.withLog _ s₂.console.log)

/-- Flushing both keeps them alike. -/
theorem flushed (h : s₁.Alike L s₂) : s₁.flushed.Alike L s₂.flushed :=
  h.withConsole (h.console.withOut (L.flush h.console.out).2)

theorem report (h : s₁.Alike L s₂) (fault : Fault) :
    EndAlike L (s₁.report fault) (s₂.report fault) :=
  ⟨rfl, h.withConsole ((h.console.withLog _ _).complain _)⟩

theorem print (h : s₁.Alike L s₂) (pieces : List Bytes) :
    EndAlike L (s₁.print pieces) (s₂.print pieces) := by
  obtain ⟨hanswer, hout⟩ := L.print h.console.out pieces
  have hprinted : (s₁.printed pieces).Alike L (s₂.printed pieces) :=
    h.withConsole (h.console.withOut hout)
  cases hcause : (s₁.console.out.print pieces).1 with
  | none =>
      rw [print_of_taken hcause, print_of_taken (hanswer ▸ hcause)]
      exact ⟨rfl, hprinted⟩
  | some cause =>
      rw [print_of_refused hcause, print_of_refused (hanswer ▸ hcause)]
      exact hprinted.report (.outputFailed cause)

/-- A program is looked for alike, -/
theorem find? (h : s₁.Alike L s₂) (command : String) : s₁.find? command = s₂.find? command := by
  rw [h.eq_withConsole]
  rfl

/-- the same request is made for it, -/
theorem requestFor (h : s₁.Alike L s₂) (program : Path) (arguments : List String) :
    s₁.requestFor program arguments = s₂.requestFor program arguments := by
  rw [h.eq_withConsole]
  rfl

theorem request (h : s₁.Alike L s₂) (r : ProgramRequest) :
    (s₁.request r).Alike L (s₂.request r) := by
  rw [h.eq_withConsole]
  exact ⟨rfl, h.console.withOut (L.lend h.console.out)⟩

/-- it finds the same, -/
theorem scene (h : s₁.Alike L s₂) (hready : s₁.console.children = .shared →
      L.Ready s₁.console.out s₂.console.out) (r : ProgramRequest) :
    (s₁.request r).scene = (s₂.request r).scene := by
  have hstreams := (h.request r).console.streams fun hshared => (hready hshared).finds
  unfold Session.scene
  rw [hstreams, machine_eq_of_behind (h.request r).behind]

/-- and leaves the sessions alike. -/
theorem after (h : s₁.Alike L s₂) (hready : s₁.console.children = .shared →
      L.Ready s₁.console.out s₂.console.out) (r : ProgramRequest) (ran : Ran) :
    ((s₁.request r).after ran).Alike L ((s₂.request r).after ran) := by
  have hconsole := (h.request r).console.withStreams ran.streams fun hshared =>
    (hready hshared).leaves ran.streams.output
  rw [h.eq_withConsole] at hconsole ⊢
  exact ⟨rfl, hconsole⟩

/-- Sessions that do not differ in their outlets differ in the log only. -/
theorem same_iff : s₁.Alike .same s₂ ↔ s₁.unlogged = s₂.unlogged := by
  unfold unlogged
  simp only [Session.mk.injEq, Console.mk.injEq]
  constructor
  · intro h
    exact ⟨machine_eq_of_behind h.behind, environment_eq_of_behind h.behind,
      ⟨h.console.out, h.console.err, trivial, h.console.input, h.console.children⟩,
      prompt_eq_of_behind h.behind⟩
  · rintro ⟨hmachine, henvironment, ⟨hout, herr, -, hinput, hchildren⟩, hprompt⟩
    refine ⟨?_, hout, herr, hinput, hchildren, fun _ => Likeness.lends_same⟩
    unfold Session.behind
    rw [hmachine, henvironment, hprompt]

/-- Without its output a session is what it is like, but for the log, if the
outlets for diagnostics do not differ. -/
theorem unlogged_withOut (h : s₁.Alike L s₂) (herr : s₁.console.err = s₂.console.err)
    (out : Outlet) : (s₁.withOut out).unlogged = (s₂.withOut out).unlogged :=
  same_iff.1 ⟨h.behind, rfl, herr, h.console.input, h.console.children,
    fun _ => Likeness.lends_same⟩

theorem refl (s : Session) : s.Alike .same s :=
  same_iff.2 rfl

end Alike

-- ============================================================== commands

variable {s₁ s₂ : Session}

theorem alike_act (act : Builtin.Act) (h : s₁.Alike L s₂) :
    EndAlike L (act.run s₁) (act.run s₂) := by
  cases act with
  | leave => exact ⟨rfl, h⟩
  | print pieces => exact h.print pieces
  | refuse message => exact ⟨rfl, h.withConsole (h.console.complain [message])⟩
  | report fault => exact h.report fault
  | move path entered =>
      have hmoved : (s₁.moved path entered).Alike L (s₂.moved path entered) := by
        rw [h.eq_withConsole]
        exact ⟨rfl, h.console⟩
      exact ⟨rfl, hmoved⟩

theorem alike_builtin {b : Builtin} (hb : b ∈ Builtin.all) (h : s₁.Alike L s₂)
    (words : List String) : EndAlike L (b.run words s₁) (b.run words s₂) := by
  obtain ⟨act, hact⟩ := Builtin.exists_act hb words s₁
  rw [hact s₁ rfl, hact s₂ h.behind.symm]
  exact alike_act act h

/-- A program does, if the sessions are ready for it. -/
theorem alike_runProgram (spawn : Spawner) (h : s₁.Alike L s₂) (hready :
      s₁.console.children = .shared → L.Ready s₁.console.out s₂.console.out)
    (words : List String) :
    EndAlike L (s₁.runProgram spawn words) (s₂.runProgram spawn words) := by
  unfold runProgram
  cases words with
  | nil => exact ⟨rfl, h⟩
  | cons command arguments =>
      dsimp only
      rw [h.find?]
      cases s₂.find? command with
      | none => exact h.report _
      | some found =>
          have hnoted := h.note (.spawning command found.path) (.spawning command found.path)
          dsimp only
          rw [hnoted.requestFor]
          generalize Session.requestFor _ found.path arguments = r
          rw [hnoted.scene hready]
          cases spawn r _ with
          | error cause => exact (hnoted.request r).report _
          | ok ran => exact ⟨rfl, (hnoted.after hready r ran).note _ _⟩

/-- Words do the same in alike sessions. -/
theorem alike_runWords (spawn : Spawner) (h : s₁.Alike L s₂) (words : List String) :
    EndAlike L (s₁.runWords spawn words) (s₂.runWords spawn words) := by
  unfold runWords
  cases words with
  | nil => exact ⟨rfl, h⟩
  | cons name rest =>
      unfold Command.ofName
      dsimp only
      cases hb : Builtin.named? name with
      | some b => exact alike_builtin (Builtin.named?_spec hb).1 (h.note _ _) (name :: rest)
      | none =>
          obtain ⟨hanswer, -⟩ := L.flush h.console.out
          have hflushed : s₁.flushed.Alike L s₂.flushed := h.flushed
          unfold flushed at hflushed
          simp only [Console.flush] at hflushed ⊢
          rw [← hanswer]
          cases s₁.console.out.flush.1 with
          | some cause => exact hflushed.report _
          | none =>
              refine alike_runProgram spawn (hflushed.note _ _) (fun hshared => ?_) (name :: rest)
              exact (h.console.shared hshared).out h.console.out

theorem alike_runLine (spawn : Spawner) (h : s₁.Alike L s₂) (line : String) :
    EndAlike L (s₁.runLine spawn line) (s₂.runLine spawn line) :=
  alike_runWords spawn (h.note _ _) (Words.ofLine line)

end Session

-- ================================================================= loops

/-- What is told of a command. -/
def Dispatch.told (d : Dispatch) : List String × Verdict :=
  (d.words, d.verdict)

theorem Session.told_dispatched (spawn : Spawner) {s₁ s₂ : Session} (h : s₁.Alike L s₂)
    (line : String) :
    (s₁.dispatched spawn line).map Dispatch.told = (s₂.dispatched spawn line).map Dispatch.told := by
  have hwords : (s₁.split line).1 = (s₂.split line).1 := rfl
  have hverdict := (alike_runLine spawn h line).verdict
  unfold dispatched
  rw [hwords]
  split
  · rfl
  · exact congrArg (fun verdict => [((s₂.split line).1, verdict)]) hverdict

variable {σ τ : Type} [Source σ] [Source τ]

/-- Sources that are related give the same in each reading, and are related
after it. -/
def Source.InStep (L : Likeness) (R : σ → τ → Prop) : Prop :=
  ∀ (prompt : String) {a : σ} {b : τ} {c₁ c₂ : Console}, R a b → c₁.Alike L c₂ →
    (Source.read prompt a c₁).1 = (Source.read prompt b c₂).1 ∧
      R (Source.read prompt a c₁).2.1 (Source.read prompt b c₂).2.1 ∧
      (Source.read prompt a c₁).2.2.Alike L (Source.read prompt b c₂).2.2

theorem Source.InStep.read {R : σ → τ → Prop} (hstep : InStep L R) {prompt : String}
    {a a' : σ} {b : τ} {c₁ c₁' c₂ : Console} {reading : Reading} (hab : R a b)
    (hc : c₁.Alike L c₂) (h : Source.read prompt a c₁ = (reading, a', c₁')) :
    ∃ b' c₂', Source.read prompt b c₂ = (reading, b', c₂') ∧ R a' b' ∧ c₁'.Alike L c₂' := by
  obtain ⟨hreading, hrel, halike⟩ := hstep prompt hab hc
  rw [h] at hreading hrel halike
  exact ⟨_, _, Prod.ext hreading.symm rfl, hrel, halike⟩

/-- Loops that have ended alike, with the same commands on the way. -/
structure LoopEnd.Alike (L : Likeness) (R : σ → τ → Prop) (ended₁ : LoopEnd σ)
    (ended₂ : LoopEnd τ) : Prop where
  result : ended₁.result = ended₂.result
  source : R ended₁.source ended₂.source
  session : ended₁.session.Alike L ended₂.session

/-- A loop does the same in alike sessions, on sources that stay in step. -/
theorem Session.alike_converse (spawn : Spawner) {R : σ → τ → Prop} (hstep : Source.InStep L R)
    {a : σ} {b : τ} {s₁ s₂ : Session} (hab : R a b) (h : s₁.Alike L s₂) :
    (s₁.converse spawn a).Alike L R (s₂.converse spawn b) ∧
      (Loop.dispatches spawn ⟨.asking, a, s₁⟩).map Dispatch.told
        = (Loop.dispatches spawn ⟨.asking, b, s₂⟩).map Dispatch.told := by
  have hprompt : ∀ {s₁ s₂ : Session}, s₁.Alike L s₂ → s₂.prompt = s₁.prompt :=
    fun h => (prompt_eq_of_behind h.behind).symm
  induction a, s₁ using turn_induction (σ := σ) spawn generalizing b s₂ with
  | finished hread =>
      obtain ⟨b', c₂, hread₂, hab', hc⟩ := hstep.read hab h.console hread
      rw [← hprompt h] at hread₂
      rw [converse_of_finished hread, converse_of_finished hread₂,
        Loop.dispatches_of_finished hread, Loop.dispatches_of_finished hread₂]
      exact ⟨⟨rfl, hab', ((h.withConsole hc).note _ _).flushed⟩, rfl⟩
  | fatal hfault hread =>
      obtain ⟨b', c₂, hread₂, hab', hc⟩ := hstep.read hab h.console hread
      rw [← hprompt h] at hread₂
      rw [converse_of_fatal hfault hread, converse_of_fatal hfault hread₂,
        Loop.dispatches_of_fatal hfault hread, Loop.dispatches_of_fatal hfault hread₂]
      exact ⟨⟨rfl, hab', (h.withConsole hc).note _ _⟩, rfl⟩
  | @survived _ _ _ _ fault hfault hread ih =>
      obtain ⟨b', c₂, hread₂, hab', hc⟩ := hstep.read hab h.console hread
      rw [← hprompt h] at hread₂
      rw [converse_of_survived hfault hread, converse_of_survived hfault hread₂,
        Loop.dispatches_of_survived hfault hread, Loop.dispatches_of_survived hfault hread₂]
      exact ih hab' ((h.withConsole hc).report fault).session
  | @leaves _ _ _ _ line hread hleave =>
      obtain ⟨b', c₂, hread₂, hab', hc⟩ := hstep.read hab h.console hread
      rw [← hprompt h] at hread₂
      have hline := alike_runLine spawn (h.withConsole hc) line
      have hleave₂ := hline.verdict ▸ hleave
      rw [converse_of_line_leaves hread hleave, converse_of_line_leaves hread₂ hleave₂,
        Loop.dispatches_of_line hread, Loop.dispatches_of_line hread₂, if_neg hleave,
        if_neg hleave₂, List.append_nil, List.append_nil]
      exact ⟨⟨rfl, hab', (hline.session.note _ _).flushed⟩,
        told_dispatched spawn (h.withConsole hc) line⟩
  | @goesOn _ _ _ _ line hread hgo ih =>
      obtain ⟨b', c₂, hread₂, hab', hc⟩ := hstep.read hab h.console hread
      rw [← hprompt h] at hread₂
      have hline := alike_runLine spawn (h.withConsole hc) line
      have hgo₂ := hline.verdict ▸ hgo
      obtain ⟨hended, htold⟩ := ih hab' hline.session
      rw [converse_of_line_goesOn hread hgo, converse_of_line_goesOn hread₂ hgo₂,
        Loop.dispatches_of_line hread, Loop.dispatches_of_line hread₂, if_pos hgo, if_pos hgo₂,
        List.map_append, List.map_append, told_dispatched spawn (h.withConsole hc) line, htold]
      exact ⟨hended, rfl⟩

end LineShell
