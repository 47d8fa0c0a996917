/-
A builtin on an output that takes so many bytes and no more. It writes what
it would write to one that takes everything, as far as there is room, and if
there is room for all of that it does not notice. Otherwise it fails, and
what it reports is that it could not write, and why. What it does behind the
console does not depend on the output at all.

The output may take bytes in portions of any size but none, and may end
anywhere: within a line, between two pieces of one print, or before the
first byte. Builtins are not looked at one by one, for what each of them
does is one act (`Builtin.Act`), and of the acts only a print comes near the
output.
-/
import LineShell.Proofs.Diagnosis
import LineShell.Proofs.Unheard

namespace LineShell

/-- What comes of a run with an output that takes everything, and of one with
an output that has room for so many bytes. `printed` and `said` are what the
first one writes to its output and to the outlet for diagnostics. -/
structure ComesThrough (wide narrow err : Outlet) (room : Nat)
    (freely limited : Verdict × Session) (printed said : Bytes) : Prop where
  wideWritten : freely.2.console.out.written = wide.written ++ printed
  wideSaid : freely.2.console.err.written = err.written ++ said
  received : limited.2.console.out.channel.received
    = narrow.channel.received ++ printed.take room
  whole : printed.length ≤ room →
    limited.1 = freely.1 ∧ limited.2.console.err.written = err.written ++ said
  /-- What could not be written is reported as that, and nothing else is. -/
  part : room < printed.length →
    limited.1 = .goOnAfterFault ∧
      limited.2.console.err.written = err.written
        ++ Text.asLine ("lsh: write error: " ++ narrow.channel.fullAnswer.message)
  behind : limited.2.behind = freely.2.behind

theorem Fault.line_outputFailed (cause : SystemError) :
    "lsh: " ++ (Fault.outputFailed cause).message = "lsh: write error: " ++ cause.message := by
  rw [message_outputFailed, ← String.append_assoc]
  rfl

namespace Builtin

variable {s : Session} {wide narrow err : Outlet} {room : Nat}

-- ================================================================ one act

/-- A print. -/
theorem comesThrough_print (hwide : wide.TakesAll) (herr : err.TakesAll) (hnarrow : narrow.Plain)
    (hroom : narrow.channel.room = some room) (pieces : List Bytes) :
    ComesThrough wide narrow err room (((s.withOut wide).withErr err).print pieces)
      (((s.withOut narrow).withErr err).print pieces) pieces.flatten [] := by
  obtain ⟨hnone, hwritten, -⟩ := hwide.print pieces
  have hfreely : ((s.withOut wide).withErr err).print pieces = _ := Session.print_of_taken hnone
  have hreceived := (hnarrow.print pieces).1.received
  rw [Channel.fitting, hroom] at hreceived
  have hcause := hnarrow.cause_print hroom pieces
  have hsame : err.written = err.written ++ [] := (List.append_nil _).symm
  rw [hfreely]
  by_cases hfits : pieces.flatten.length ≤ room
  · rw [if_pos hfits] at hcause
    have hlimited : ((s.withOut narrow).withErr err).print pieces = _ :=
      Session.print_of_taken hcause
    rw [hlimited]
    exact ⟨hwritten, hsame, hreceived, fun _ => ⟨rfl, hsame⟩,
      fun hmore => absurd hfits (Nat.not_le.2 hmore), rfl⟩
  · rw [if_neg hfits] at hcause
    have hlimited : ((s.withOut narrow).withErr err).print pieces = _ :=
      Session.print_of_refused hcause
    rw [hlimited]
    refine ⟨hwritten, hsame, hreceived, fun hall => absurd hall hfits, fun _ => ⟨rfl, ?_⟩, rfl⟩
    rw [← Fault.line_outputFailed]
    exact Console.written_report herr _

/-- What does not print leaves the output alone, and does the same with any. -/
theorem comesThrough_of_silent {freely limited : Verdict × Session} (said : Bytes)
    (hverdict : limited.1 = freely.1) (hbehind : limited.2.behind = freely.2.behind)
    (hwide : freely.2.console.out = wide) (hnarrow : limited.2.console.out = narrow)
    (hfreely : freely.2.console.err.written = err.written ++ said)
    (hlimited : limited.2.console.err.written = err.written ++ said) :
    ComesThrough wide narrow err room freely limited [] said where
  wideWritten := by rw [hwide, List.append_nil]
  wideSaid := hfreely
  received := by rw [hnarrow, List.take_nil, List.append_nil]
  whole _ := ⟨hverdict, hlimited⟩
  part hmore := absurd hmore (Nat.not_lt_zero room)
  behind := hbehind

theorem Act.comesThrough (act : Act) (hwide : wide.TakesAll) (herr : err.TakesAll)
    (hnarrow : narrow.Plain) (hroom : narrow.channel.room = some room) :
    ∃ printed said, ComesThrough wide narrow err room (act.run ((s.withOut wide).withErr err))
      (act.run ((s.withOut narrow).withErr err)) printed said := by
  have hcomplaint : ∀ (console : Console) (pieces : List String), console.err = err →
      (console.complain pieces).err.written
        = err.written ++ Text.asLine (String.join pieces) := by
    rintro console pieces rfl
    exact (Console.complain_spec herr pieces).2
  have hsame : err.written = err.written ++ [] := (List.append_nil _).symm
  cases act with
  | leave => exact ⟨[], [], comesThrough_of_silent [] rfl rfl rfl rfl hsame hsame⟩
  | print pieces => exact ⟨_, [], comesThrough_print hwide herr hnarrow hroom pieces⟩
  | refuse message =>
      exact ⟨[], _, comesThrough_of_silent (Text.asLine (String.join [message])) rfl rfl rfl rfl
        (hcomplaint _ _ rfl) (hcomplaint _ _ rfl)⟩
  | report fault =>
      exact ⟨[], _, comesThrough_of_silent (Text.asLine (String.join ("lsh: " :: fault.pieces)))
        rfl rfl rfl rfl (hcomplaint _ _ rfl) (hcomplaint _ _ rfl)⟩
  | move path entered => exact ⟨[], [], comesThrough_of_silent [] rfl rfl rfl rfl hsame hsame⟩

-- ============================================================ one builtin

/-- What a builtin writes, with whatever words, comes through as far as there
is room for it. If that is all of it the builtin ends as it would have ended,
and has said the same; else it fails, and says that it could not write. Where
the session is afterwards, and all else behind the console, is the same. -/
theorem comes_through_as_far_as_it_fits {b : Builtin} (hb : b ∈ all) (words : List String)
    (s : Session) {wide narrow err : Outlet} {room : Nat} (hwide : wide.TakesAll)
    (herr : err.TakesAll) (hnarrow : narrow.Plain) (hroom : narrow.channel.room = some room) :
    ∃ printed said, ComesThrough wide narrow err room (b.run words ((s.withOut wide).withErr err))
      (b.run words ((s.withOut narrow).withErr err)) printed said := by
  obtain ⟨act, hact⟩ := exists_act hb words s
  rw [hact ((s.withOut wide).withErr err) rfl, hact ((s.withOut narrow).withErr err) rfl]
  exact act.comesThrough hwide herr hnarrow hroom

/-- An output with room for two bytes, one at a time, takes a word and not the
end of its line. -/
theorem comes_through_as_far_as_it_fits_echo :
    let s : Session :=
      { machine := { files := .empty, workingDirectory := ⟨[], 0⟩ }
        environment := { directory := [47] } }
    let narrow : Outlet :=
      { channel := { room := some 2, refusal := some .brokenPipe, portion := some 1 } }
    let b : Builtin := ⟨"echo", "print the arguments separated by spaces", echo⟩
    let limited := b.run ["echo", "hi"] ((s.withOut narrow).withErr {})
    b ∈ all ∧ ({} : Outlet).TakesAll ∧ narrow.Plain ∧ narrow.channel.room = some 2 ∧
      limited.1 = .goOnAfterFault ∧
      limited.2.console.out.channel.received = Bytes.ofText "hi" ∧
      limited.2.console.err.written
        = Text.asLine ("lsh: write error: " ++ "Broken pipe (os error 32)") := by
  intro s narrow b limited
  have hb : b ∈ all := by simp [b, all]
  have hwide : ({} : Outlet).TakesAll := ⟨⟨rfl, by simp⟩, fun _ => rfl⟩
  have hnarrow : narrow.Plain := ⟨rfl, by simp [narrow], rfl⟩
  obtain ⟨printed, said, hall⟩ :=
    comes_through_as_far_as_it_fits hb ["echo", "hi"] s hwide hwide hnarrow rfl
  have hprinted : printed = [104, 105, 10] := by
    have hfreely : b.run ["echo", "hi"] ((s.withOut {}).withErr {}) = _ :=
      Session.print_of_taken (hwide.print [Bytes.ofText "hi", lineEnd]).1
    have hwritten := hall.wideWritten
    rw [hfreely] at hwritten
    exact hwritten.symm.trans (hwide.print [Bytes.ofText "hi", lineEnd]).2.1
  subst hprinted
  have hmessage : narrow.channel.fullAnswer.message = "Broken pipe (os error 32)" := by decide
  obtain ⟨hverdict, hsaid⟩ := hall.part (by decide)
  rw [hmessage] at hsaid
  exact ⟨hb, hwide, hnarrow, rfl, hverdict, hall.received, hsaid⟩

end Builtin
end LineShell
