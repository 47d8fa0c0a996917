/-
What is lost on the way to the user. Prompts and diagnostics may be
refused, in part or as a whole, and a session does not notice: it reads
the same lines, runs the same commands with the same ends, and writes and
flushes the same, whatever its outlet for diagnostics is and wherever the
prompts go, as long as that is not the output.

Two such sessions are alike (`Likeness.unheard`), where the outlets for
diagnostics have been given the same complaints. These are all that is
ever written to them, so how much comes through is a matter of the room
that there is (`received_complainAll`).
-/
import LineShell.Proofs.Diagnosis
import LineShell.Proofs.Likeness
import LineShell.Proofs.Room
import LineShell.Proofs.Stream

namespace LineShell

-- ============================================================ complaints

/-- The bytes of complaints, a line for each. -/
def Bytes.ofComplaints (lines : List (List String)) : Bytes :=
  lines.flatMap fun pieces => Text.asLine (String.join pieces)

namespace Outlet

/-- Writes lines of diagnostics one after the other, each as far as it can
be written. -/
def complainAll (lines : List (List String)) (o : Outlet) : Outlet :=
  lines.foldl (fun o pieces => o.complain pieces) o

theorem complainAll_concat (lines : List (List String)) (pieces : List String) (o : Outlet) :
    o.complainAll (lines ++ [pieces]) = (o.complainAll lines).complain pieces := by
  rw [complainAll, List.foldl_append]
  rfl

/-- One complaint. -/
theorem Plain.complain {o : Outlet} (h : o.Plain) (pieces : List String) :
    o.channel.Absorbs (Text.asLine (String.join pieces)) (o.complain pieces).channel ∧
      (o.complain pieces).Plain := by
  have hprint := h.print (pieces.map Bytes.ofText ++ [[newline]])
  rwa [Text.flatten_pieces] at hprint

/-- All complaints. -/
theorem Plain.complainAll {o : Outlet} (h : o.Plain) (lines : List (List String)) :
    o.channel.Absorbs (Bytes.ofComplaints lines) (o.complainAll lines).channel := by
  induction lines generalizing o with
  | nil => exact .nothing _
  | cons pieces lines ih =>
      obtain ⟨habsorbs, hplain⟩ := h.complain pieces
      exact habsorbs.append (ih hplain)

/-- Of complaints a channel receives as much as it has room for. -/
theorem received_complainAll {o : Outlet} (h : o.Plain) (lines : List (List String)) :
    (o.complainAll lines).channel.received
      = o.channel.received ++ o.channel.fitting (Bytes.ofComplaints lines) :=
  (h.complainAll lines).received

end Outlet

/-- Two outlets for diagnostics that have been given the same complaints
since they were these. -/
def Likeness.unheard (err₁ err₂ : Outlet) : Likeness where
  out := Eq
  err o₁ o₂ := ∃ lines, o₁ = err₁.complainAll lines ∧ o₂ = err₂.complainAll lines
  print := Likeness.same.print
  flush := Likeness.same.flush
  lend := Likeness.same.lend
  complain := by
    rintro o₁ o₂ ⟨lines, h₁, h₂⟩ pieces
    refine ⟨lines ++ [pieces], ?_, ?_⟩
    · rw [Outlet.complainAll_concat, h₁]
    · rw [Outlet.complainAll_concat, h₂]

-- =============================================================== prompts

namespace Source.Stream

/-- Streams that have the same left to read, and show their prompts
elsewhere than on the output. -/
structure SameInput (a b : Stream) : Prop where
  fills : a.fills = b.fills
  prompts₁ : a.prompts.isSome
  prompts₂ : b.prompts.isSome

/-- Such streams stay in step, whatever becomes of the prompts. -/
theorem inStep_sameInput (L : Likeness) : Source.InStep L SameInput := by
  intro prompt a b c₁ c₂ hab hc
  obtain ⟨hprompts₁, log₁, hlog₁⟩ := exists_log_read hab.prompts₁ prompt c₁
  obtain ⟨hprompts₂, log₂, hlog₂⟩ := exists_log_read hab.prompts₂ prompt c₂
  have hfills₁ := fills_showPrompt prompt a c₁
  have hfills₂ := fills_showPrompt prompt b c₂
  rw [hlog₁, hlog₂]
  refine ⟨?_, ⟨?_, hprompts₁, hprompts₂⟩, hc.withLog log₁ log₂⟩
  · simp only [Source.read, read, hfills₁, hfills₂, hab.fills]
  · simp only [Source.read, read, hfills₁, hfills₂, hab.fills]

end Source.Stream

-- ============================================================== sessions

namespace Session

/-- A session with another outlet for diagnostics. -/
def withErr (err : Outlet) (s : Session) : Session :=
  { s with console := { s.console with err } }

/-- Alike sessions with the same output differ in the outlets for diagnostics
and in the log only. -/
theorem Alike.unlogged_withErr {L : Likeness} {s₁ s₂ : Session} (h : s₁.Alike L s₂)
    (hout : s₁.console.out = s₂.console.out) (err : Outlet) :
    (s₁.withErr err).unlogged = (s₂.withErr err).unlogged :=
  same_iff.1 ⟨h.behind, hout, rfl, h.console.input, h.console.children,
    fun _ => Likeness.lends_same⟩

/-- Two sessions that differ in the outlet for diagnostics and in that for
prompts end with the same result and tell the same of the same commands.
Afterwards they differ in nothing but the outlet for diagnostics and the log,
and the same is left to read. Programs are not to write to the outlet for
diagnostics themselves, if there are two. Both outlets are given the same
bytes, and each receives what it has room for. -/
theorem losses_go_unnoticed (spawn : Spawner) (fills : List Fill) (s : Session)
    (prompts₁ prompts₂ err₁ err₂ : Outlet)
    (hshared : s.console.children = .shared → err₁ = err₂) :
    let ended (prompts err : Outlet) :=
      (s.withErr err).converse spawn { fills, prompts := some prompts : Source.Stream }
    let told (prompts err : Outlet) :=
      (Loop.dispatches spawn ⟨.asking, { fills, prompts := some prompts : Source.Stream },
        s.withErr err⟩).map Dispatch.told
    (ended prompts₁ err₁).result = (ended prompts₂ err₂).result ∧
      told prompts₁ err₁ = told prompts₂ err₂ ∧
      ((ended prompts₁ err₁).session.withErr {}).unlogged
        = ((ended prompts₂ err₂).session.withErr {}).unlogged ∧
      (ended prompts₁ err₁).source.fills = (ended prompts₂ err₂).source.fills ∧
      (s.console.children ≠ .shared → ∃ said : Bytes,
        (err₁.Plain → (ended prompts₁ err₁).session.console.err.channel.received
          = err₁.channel.received ++ err₁.channel.fitting said) ∧
        (err₂.Plain → (ended prompts₂ err₂).session.console.err.channel.received
          = err₂.channel.received ++ err₂.channel.fitting said)) := by
  intro ended told
  have hinput : Source.Stream.SameInput { fills, prompts := some prompts₁ }
      { fills, prompts := some prompts₂ } := ⟨rfl, rfl, rfl⟩
  by_cases hchildren : s.console.children = .shared
  · obtain rfl := hshared hchildren
    obtain ⟨halike, htold⟩ := alike_converse spawn (Source.Stream.inStep_sameInput _) hinput
      (Alike.refl (s.withErr err₁))
    exact ⟨halike.result, htold, halike.session.unlogged_withErr halike.session.console.out _,
      halike.source.fills, fun hapart => absurd hchildren hapart⟩
  · have hstart : (s.withErr err₁).Alike (.unheard err₁ err₂) (s.withErr err₂) :=
      ⟨rfl, rfl, ⟨[], rfl, rfl⟩, rfl, rfl, fun hshared => absurd hshared hchildren⟩
    obtain ⟨halike, htold⟩ := alike_converse spawn (Source.Stream.inStep_sameInput _) hinput hstart
    refine ⟨halike.result, htold, halike.session.unlogged_withErr halike.session.console.out _,
      halike.source.fills, fun _ => ?_⟩
    obtain ⟨lines, hend₁, hend₂⟩ := halike.session.console.err
    refine ⟨Bytes.ofComplaints lines, fun hplain => ?_, fun hplain => ?_⟩
    · rw [← Outlet.received_complainAll hplain, ← hend₁]
    · rw [← Outlet.received_complainAll hplain, ← hend₂]

/-- Nothing of the prompts can be shown and the input fails on the way, and
of the diagnostics seven bytes come through, one at a time. But for these
bytes the session is the one in which all of it is shown. -/
theorem losses_go_unnoticed_seven_bytes :
    let spawn : Spawner := fun _ _ => .error .noEntry
    let fills : List Fill :=
      [.bytes (Bytes.ofText "cd\nec"), .error (.number 5), .bytes (Bytes.ofText "ls\npwd\n")]
    let s : Session :=
      { machine := { files := .empty, workingDirectory := ⟨[], 0⟩ }
        environment := { directory := [47] } }
    let closed : Outlet := { channel := { room := some 0, flushError := some .brokenPipe } }
    let narrow : Outlet :=
      { channel := { room := some 7, refusal := some .brokenPipe, portion := some 1 } }
    let ended (prompts err : Outlet) :=
      (s.withErr err).converse spawn { fills, prompts := some prompts : Source.Stream }
    (s.console.children = .shared → narrow = {}) ∧
      (ended closed narrow).result = (ended {} {}).result ∧
      ((ended closed narrow).session.withErr {}).unlogged
        = ((ended {} {}).session.withErr {}).unlogged ∧
      (ended closed narrow).session.console.err.channel.received
        = (ended {} {}).session.console.err.channel.received.take 7 := by
  intro spawn fills s closed narrow ended
  have hapart : s.console.children ≠ .shared := by simp [s]
  have hshared : s.console.children = .shared → narrow = {} := fun h => absurd h hapart
  obtain ⟨hresult, -, hsession, -, hsaid⟩ :=
    losses_go_unnoticed spawn fills s closed {} narrow {} hshared
  obtain ⟨said, hnarrow, hopen⟩ := hsaid hapart
  refine ⟨hshared, hresult, hsession, ?_⟩
  have hall : (ended {} {}).session.console.err.channel.received = said :=
    hopen ⟨rfl, by simp, rfl⟩
  rw [hall]
  exact hnarrow ⟨rfl, by simp [narrow], rfl⟩

end Session
end LineShell
