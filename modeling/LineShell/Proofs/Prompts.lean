/-
What is seen of the prompts. A stream writes its prompt before it reads,
to an outlet that may have room for a part of it only, and go on to refuse
all others. What comes through of all prompts is then a beginning of them,
as long as there is room for. A prompt is flushed if it has come through
as a whole, and an empty one always has, even if nothing else can.

# One prompt after the other

Room is the one thing that a prompt leaves to the next (`Absorbs`), so
what holds of one prompt (`Plain.announce`) holds of each in its place,
with the room that the ones before it have left (`Plain.announceAll`).
The input has no part in that: of a call for a line the prompt is the
first half, which leaves the input alone, and taking the line the second,
which leaves the outlet alone (`Source.Stream.read_eq`).
-/
import LineShell.Proofs.Encoding
import LineShell.Proofs.Room
import LineShell.Proofs.Stream

namespace LineShell

open Source.Stream (announce)

-- =============================================================== outlets

/-- The bytes of prompts, one behind the other. -/
def Bytes.ofPrompts (prompts : List String) : Bytes :=
  prompts.flatMap Bytes.ofText

/-- A flush takes no room. -/
theorem Channel.Absorbs.flush {c c' : Channel} {bytes : Bytes} (h : c.Absorbs bytes c') :
    c.Absorbs bytes c'.flush.2 :=
  ⟨(Channel.received_flush c').trans h.received, h.room, h.portion, h.refusal, h.later⟩

namespace Outlet

/-- Shows prompts one after the other, each as far as it can be shown. -/
def announceAll (prompts : List String) (o : Outlet) : Outlet :=
  prompts.foldl (fun o prompt => (announce prompt o).2) o

variable {o : Outlet} {room : Nat}

theorem Plain.announce (h : o.Plain) (prompt : String) :
    o.channel.Absorbs (Bytes.ofText prompt) (announce prompt o).2.channel ∧
      (announce prompt o).2.Plain := by
  obtain ⟨habsorbs, hplain⟩ := h.print [Bytes.ofText prompt]
  rw [List.flatten_singleton] at habsorbs
  rw [print_singleton] at habsorbs hplain
  unfold Source.Stream.announce
  rcases hwrite : o.write (Bytes.ofText prompt) with ⟨_ | cause, mid⟩
  · rw [hwrite] at habsorbs hplain
    show o.channel.Absorbs _ mid.flush.2.channel ∧ mid.flush.2.Plain
    rw [flush_of_direct hplain.direct]
    exact ⟨habsorbs.flush, hplain.direct, hplain.moves, hplain.last⟩
  · rw [hwrite] at habsorbs hplain
    exact ⟨habsorbs, hplain⟩

/-- A prompt is flushed, once, if there is room for all of it. -/
theorem Plain.flushes_announce (h : o.Plain) (hroom : o.channel.room = some room)
    (prompt : String) :
    (Source.Stream.announce prompt o).2.channel.flushes
      = o.channel.flushes + if (Bytes.ofText prompt).length ≤ room then 1 else 0 := by
  have hplain := (h.print [Bytes.ofText prompt]).2
  have hcause := h.cause_print hroom [Bytes.ofText prompt]
  have hflushes := flushes_print [Bytes.ofText prompt] o
  rw [List.flatten_singleton] at hcause
  rw [print_singleton] at hplain hcause hflushes
  unfold Source.Stream.announce
  by_cases hfits : (Bytes.ofText prompt).length ≤ room
  · rw [if_pos hfits] at hcause
    rcases hwrite : o.write (Bytes.ofText prompt) with ⟨cause, mid⟩
    rw [hwrite] at hplain hcause hflushes
    obtain rfl : cause = none := hcause
    rw [if_pos hfits, ← hflushes]
    show mid.flush.2.channel.flushes = _
    rw [flush_of_direct hplain.direct]
    exact Channel.flushes_flush mid.channel
  · rw [if_neg hfits] at hcause
    rcases hwrite : o.write (Bytes.ofText prompt) with ⟨cause, mid⟩
    rw [hwrite] at hcause hflushes
    obtain rfl : cause = some o.channel.fullAnswer := hcause
    rw [if_neg hfits]
    exact hflushes

theorem announceAll_append (prompts more : List String) (o : Outlet) :
    o.announceAll (prompts ++ more) = (o.announceAll prompts).announceAll more :=
  List.foldl_append

/-- What is left to later prompts is the room that the earlier ones have
left. -/
theorem Plain.announceAll (h : o.Plain) (prompts : List String) :
    o.channel.Absorbs (Bytes.ofPrompts prompts) (o.announceAll prompts).channel ∧
      (o.announceAll prompts).Plain := by
  induction prompts generalizing o with
  | nil => exact ⟨.nothing _, h⟩
  | cons prompt prompts ih =>
      obtain ⟨habsorbs, hplain⟩ := h.announce prompt
      obtain ⟨hrest, hend⟩ := ih hplain
      exact ⟨habsorbs.append hrest, hend⟩

theorem received_announceAll (h : o.Plain) (hroom : o.channel.room = some room)
    (prompts : List String) :
    (o.announceAll prompts).channel.received
      = o.channel.received ++ (Bytes.ofPrompts prompts).take room := by
  have hreceived := (h.announceAll prompts).1.received
  rwa [Channel.fitting, hroom] at hreceived

/-- A prompt in its place among others is flushed if all of them up to it
come through, or if there is nothing in it. -/
theorem flushes_announceAll_concat (h : o.Plain) (hroom : o.channel.room = some room)
    (earlier : List String) (prompt : String) :
    (o.announceAll (earlier ++ [prompt])).channel.flushes
      = (o.announceAll earlier).channel.flushes
        + if prompt = "" ∨ (Bytes.ofPrompts (earlier ++ [prompt])).length ≤ room then 1 else 0 := by
  obtain ⟨habsorbs, hplain⟩ := h.announceAll earlier
  have hleft : (o.announceAll earlier).channel.room
      = some (room - (Bytes.ofPrompts earlier).length) := by
    rw [habsorbs.room, hroom]
    rfl
  have hlength : (Bytes.ofPrompts (earlier ++ [prompt])).length
      = (Bytes.ofPrompts earlier).length + (Bytes.ofText prompt).length := by
    simp [Bytes.ofPrompts]
  -- an empty prompt fits in what is left, however much has been lost before it
  have hfits : (Bytes.ofText prompt).length ≤ room - (Bytes.ofPrompts earlier).length
      ↔ prompt = "" ∨ (Bytes.ofPrompts (earlier ++ [prompt])).length ≤ room := by
    rw [hlength]
    by_cases hempty : prompt = ""
    · subst hempty
      simp [show Bytes.ofText "" = [] from rfl]
    · have hpos := List.length_pos_iff.2 (Bytes.ofText_ne_nil hempty)
      simp only [hempty, false_or]
      omega
  rw [announceAll_append]
  show (Source.Stream.announce prompt (o.announceAll earlier)).2.channel.flushes = _
  rw [hplain.flushes_announce hleft]
  simp only [hfits]

end Outlet

-- ================================================================ streams

namespace Source.Stream

/-- The outlet that prompts are shown on. -/
def outlet (source : Stream) (console : Console) : Outlet :=
  source.prompts.getD console.out

/-- Takes a line, without a prompt. -/
def takeLine (source : Stream) : Reading × Stream :=
  ((Fill.takePiece [] source.fills).1.reading,
    { source with fills := (Fill.takePiece [] source.fills).2 })

/-- A stream and its console after a reading for each of these prompts. -/
def readAll (prompts : List String) (source : Stream) (console : Console) : Stream × Console :=
  prompts.foldl (fun state prompt => (state.1.read prompt state.2).2) (source, console)

/-- Prompt first. -/
theorem read_eq (prompt : String) (source : Stream) (console : Console) :
    source.read prompt console
      = ((source.showPrompt prompt console).1.takeLine.1,
        (source.showPrompt prompt console).1.takeLine.2,
        (source.showPrompt prompt console).2) := by
  rfl

theorem outlet_takeLine (source : Stream) (console : Console) :
    source.takeLine.2.outlet console = source.outlet console := by
  rfl

theorem outlet_showPrompt (prompt : String) (source : Stream) (console : Console) :
    (source.showPrompt prompt console).1.outlet (source.showPrompt prompt console).2
      = (announce prompt (source.outlet console)).2 := by
  unfold showPrompt outlet
  cases hprompts : source.prompts with
  | some o => simp
  | none =>
      obtain ⟨log, hlog⟩ := exists_noteLoss (announce prompt console.out).1
        { console with out := (announce prompt console.out).2 }
      simp [hprompts, hlog]

theorem outlet_readAll (prompts : List String) (source : Stream) (console : Console) :
    (source.readAll prompts console).1.outlet (source.readAll prompts console).2
      = (source.outlet console).announceAll prompts := by
  induction prompts generalizing source console with
  | nil => rfl
  | cons prompt prompts ih =>
      have hread : (source.read prompt console).2.1.outlet (source.read prompt console).2.2
          = (announce prompt (source.outlet console)).2 := by
        rw [read_eq]
        exact outlet_showPrompt prompt source console
      refine (ih (source.read prompt console).2.1 (source.read prompt console).2.2).trans ?_
      rw [hread]
      rfl

/-- Prompts come through as far as there is room for them, however few bytes
are taken at a time, and those are flushed, each once, that come through to
their end or have nothing in them. Each is shown, and flushed if it is to be,
while the input is as the call has found it; only then is the line taken, or
the error or the end of the input found, and nothing more is shown. -/
theorem prompts_come_first (prompts : List String) (source : Stream) (console : Console)
    {room : Nat} (hplain : (source.outlet console).Plain)
    (hroom : (source.outlet console).channel.room = some room) :
    let received (state : Stream × Console) := (state.1.outlet state.2).channel.received
    let flushes (state : Stream × Console) := (state.1.outlet state.2).channel.flushes
    received (source.readAll prompts console)
        = received (source, console) ++ (Bytes.ofPrompts prompts).take room ∧
      ∀ earlier prompt later, prompts = earlier ++ prompt :: later →
        let found := source.readAll earlier console
        let shown := found.1.showPrompt prompt found.2
        received shown
            = received (source, console) ++ (Bytes.ofPrompts (earlier ++ [prompt])).take room ∧
          flushes shown = flushes found
            + (if prompt = "" ∨ (Bytes.ofPrompts (earlier ++ [prompt])).length ≤ room
                then 1 else 0) ∧
          shown.1.fills = found.1.fills ∧
          found.1.read prompt found.2 = (shown.1.takeLine.1, shown.1.takeLine.2, shown.2) ∧
          shown.1.takeLine.2.outlet shown.2 = shown.1.outlet shown.2 := by
  intro received flushes
  have hall : ∀ prompts,
      (source.readAll prompts console).1.outlet (source.readAll prompts console).2
        = (source.outlet console).announceAll prompts := fun prompts =>
    outlet_readAll prompts source console
  refine ⟨?_, ?_⟩
  · show ((source.readAll prompts console).1.outlet _).channel.received = _
    rw [hall, Outlet.received_announceAll hplain hroom]
  · intro earlier prompt later _ found shown
    have hshown : shown.1.outlet shown.2
        = (source.outlet console).announceAll (earlier ++ [prompt]) := by
      rw [outlet_showPrompt prompt found.1 found.2, hall, Outlet.announceAll_append]
      rfl
    refine ⟨?_, ?_, fills_showPrompt prompt found.1 found.2, read_eq prompt found.1 found.2,
      outlet_takeLine shown.1 shown.2⟩
    · show (shown.1.outlet shown.2).channel.received = _
      rw [hshown, Outlet.received_announceAll hplain hroom]
    · show (shown.1.outlet shown.2).channel.flushes = (found.1.outlet found.2).channel.flushes + _
      rw [hshown, hall, Outlet.flushes_announceAll_concat hplain hroom]

/-- There is room for four bytes, taken one at a time, and no flush succeeds.
The third prompt is cut short and is not flushed. The fourth is empty and is,
though the channel is full by then and the input at its end. -/
theorem prompts_come_first_cut_short :
    let o : Outlet :=
      { channel := { room := some 4, portion := some 1, flushError := some .brokenPipe } }
    let source : Stream :=
      { fills := [.error (.number 5), .bytes (Bytes.ofText "cd\nec")], prompts := some o }
    let flushes (state : Stream × Console) := (state.1.outlet state.2).channel.flushes
    let third := source.readAll [">> ", ""] {}
    let fourth := source.readAll [">> ", "", "> "] {}
    (source.outlet {}).Plain ∧ (source.outlet {}).channel.room = some 4 ∧
      ((source.readAll [">> ", "", "> ", ""] {}).1.outlet
        (source.readAll [">> ", "", "> ", ""] {}).2).channel.received = Bytes.ofText ">> >" ∧
      flushes (third.1.showPrompt "> " third.2) = flushes third ∧
      flushes (fourth.1.showPrompt "" fourth.2) = flushes fourth + 1 ∧
      (fourth.1.read "" fourth.2).1 = .finished := by
  intro o source flushes third fourth
  have hplain : (source.outlet {}).Plain := ⟨rfl, by simp [source, o, outlet], rfl⟩
  obtain ⟨hreceived, hcalls⟩ :=
    prompts_come_first [">> ", "", "> ", ""] source {} hplain rfl
  obtain ⟨-, hcut, -⟩ := hcalls [">> ", ""] "> " [""] rfl
  obtain ⟨-, hempty, -⟩ := hcalls [">> ", "", "> "] "" [] rfl
  refine ⟨hplain, rfl, hreceived.trans (by decide), hcut.trans ?_, hempty, by decide⟩
  rw [if_neg (by decide), Nat.add_zero]

end Source.Stream
end LineShell
