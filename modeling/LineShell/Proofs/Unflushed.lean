/-
What is left unflushed of the output (`Outlet.unflushed`): what the channel
has taken since it was last flushed with success, and what is held back.
Printing adds to it and flushing empties it, so it is told by the deeds of
a session alone (`Session.Does.unflushed`): it is what was printed behind
the last flush.

# Two ways out

A loop that ends well has flushed the output, and nothing is left. One that
ends with a fault has not. It does nothing behind its last command, and
what the builtins have printed since the last program is left as they have
printed it (`unflushed_at_the_end`). So the faults that end a session are
the one way to leave output behind; a single `echo` in front of an input
that fails is enough (`echo_left_behind`).
-/
import LineShell.Proofs.Deeds

namespace LineShell

-- ============================================================== channels

namespace Channel

/-- Whether an event is a flush that has succeeded. -/
def Event.handsOn : Event → Bool
  | .flushed none => true
  | _ => false

/-- The bytes of one event that are to be flushed. What programs leave on a
channel has been handed on already. -/
def Event.pending : Event → Bytes
  | .took bytes => bytes
  | _ => []

/-- The bytes that a channel has taken since it was last flushed with
success. -/
def unflushed (c : Channel) : Bytes :=
  (c.record.takeWhile (!·.handsOn)).reverse.flatMap Event.pending

theorem unflushed_take (bytes : Bytes) (c : Channel) :
    (c.take bytes).unflushed = c.unflushed ++ bytes := by
  simp [unflushed, take, Event.handsOn, Event.pending]

/-- What is taken of offers adds the same to all that a channel has received
and to what is unflushed of it. -/
theorem keeps_unflushed (c : Channel) : Keeps fun c' =>
    ∃ more, c'.received = c.received ++ more ∧ c'.unflushed = c.unflushed ++ more := by
  refine keeps_of_given ?_ ?_
  · rintro bytes c' ⟨more, hreceived, hpending⟩
    refine ⟨more ++ bytes, ?_, ?_⟩
    · rw [received_take, hreceived, List.append_assoc]
    · rw [unflushed_take, hpending, List.append_assoc]
  · rintro c' c'' hrecord - ⟨more, hreceived, hpending⟩
    refine ⟨more, ?_, ?_⟩
    · rw [← hreceived, received, hrecord, received]
    · rw [← hpending, unflushed, hrecord, unflushed]

theorem unflushed_lend (c : Channel) : c.lend.unflushed = c.unflushed := by
  simp [unflushed, lend, Event.handsOn, Event.pending]

theorem unflushed_takeBack (left c : Channel) : (c.takeBack left).unflushed = c.unflushed := by
  simp [unflushed, takeBack, Event.handsOn, Event.pending]

theorem unflushed_flush {c : Channel} (h : c.flushError = none) : c.flush.2.unflushed = [] := by
  simp [unflushed, flush, h, Event.handsOn]

end Channel

-- =============================================================== outlets

namespace Outlet

/-- What is left to be flushed of an outlet. -/
def unflushed (o : Outlet) : Bytes :=
  o.channel.unflushed ++ o.held

theorem unflushed_lend (o : Outlet) : o.lend.unflushed = o.unflushed :=
  congrArg (· ++ o.held) (Channel.unflushed_lend o.channel)

theorem unflushed_takeBack (left : Channel) (o : Outlet) :
    (o.takeBack left).unflushed = o.unflushed :=
  congrArg (· ++ o.held) (Channel.unflushed_takeBack left o.channel)

/-- Nothing is left by a flush that succeeds. -/
theorem unflushed_flush {o : Outlet} (hfit : o.Fit) (h : o.flush.1 = none) :
    o.flush.2.unflushed = [] := by
  have hready : (if o.byLine then o.drain else (none, o)).1 = none →
      (if o.byLine then o.drain else (none, o)).2.held = [] := by
    by_cases hline : o.byLine
    · rw [if_pos hline]
      exact held_drain
    · rw [if_neg hline]
      exact fun _ => hfit (by simpa using hline)
  unfold flush at h ⊢
  rcases hr : (if o.byLine then o.drain else (none, o)) with ⟨_ | cause, mid⟩
  · rw [hr] at h hready
    show mid.channel.flush.2.unflushed ++ mid.held = []
    rw [Channel.unflushed_flush h, hready rfl, List.append_nil]
  · rw [hr] at h
    cases h

/-- Printing adds what is printed. -/
theorem TakesAll.unflushed_print {o : Outlet} (h : o.TakesAll) (pieces : List Bytes) :
    (o.print pieces).2.unflushed = o.unflushed ++ pieces.flatten := by
  obtain ⟨more, hreceived, hpending⟩ :=
    (ends_print (Channel.keeps_unflushed o.channel) pieces (o := o) ⟨[], by simp, by simp⟩).1
  have hwritten := (h.print pieces).2.1
  unfold written at hwritten
  rw [hreceived, List.append_assoc, List.append_assoc, List.append_right_inj] at hwritten
  unfold unflushed
  rw [hpending, List.append_assoc, hwritten, List.append_assoc]

/-- An outlet that does not work line by line holds nothing more back. -/
theorem held_print {o : Outlet} (h : o.byLine = false) (pieces : List Bytes) :
    (o.print pieces).2.held = o.held := by
  induction pieces generalizing o with
  | nil => rfl
  | cons piece pieces ih =>
      rw [print, write_of_direct h]
      rcases hpass : o.pass piece with ⟨_ | cause, mid⟩
      · have hmid : mid.byLine = o.byLine := congrArg (fun r => r.2.byLine) hpass.symm
        have hheld : mid.held = o.held := congrArg (fun r => r.2.held) hpass.symm
        exact (ih (hmid.trans h)).trans hheld
      · exact congrArg (fun r => r.2.held) hpass.symm

/-- An outlet that is always flushed with success. -/
structure Flushable (o : Outlet) : Prop where
  through : o.FlushesThrough
  fit : o.Fit
  succeeds : o.channel.AnswersWith (fun _ => True) (· = none)

namespace Flushable

variable {o : Outlet}

theorem answer (h : o.Flushable) : o.flush.1 = none := by
  have hanswer := (h.succeeds o.channel.toSpell List.mem_cons_self).2
  rcases h.through with hline | htakes
  · rw [flush_of_direct hline]
    exact hanswer
  · exact htakes.flush.1.trans hanswer

theorem print (h : o.Flushable) (pieces : List Bytes) : (o.print pieces).2.Flushable := by
  refine ⟨h.through.print pieces, ?_, (answers_print pieces h.succeeds).1⟩
  rcases h.through with hline | htakes
  · exact fun _ => (held_print hline pieces).trans (h.fit hline)
  · exact (htakes.print pieces).2.2.fit

theorem flush (h : o.Flushable) : o.flush.2.Flushable := by
  refine ⟨h.through.flush.1, ?_, (answers_flush h.succeeds).1⟩
  intro _
  have hnone := unflushed_flush h.fit h.answer
  exact (List.append_eq_nil_iff.1 hnone).2

theorem lend (h : o.Flushable) : o.lend.Flushable :=
  ⟨h.through.lend, h.fit, h.succeeds⟩

theorem takeBack (h : o.Flushable) (left : Channel) : (o.takeBack left).Flushable :=
  ⟨h.through.takeBack left, h.fit, h.succeeds.withRoom _⟩

end Flushable

end Outlet

-- ================================================================= deeds

/-- What is left unflushed by a deed, of what was before it and what it
prints. -/
def Deed.leaves (unflushed : Bytes) : Deed → Bytes
  | .printed pieces => unflushed ++ pieces.flatten
  | .flushed _ => []
  | .asked _ => unflushed

namespace Session.Does

variable {spawn : Spawner} {s s' : Session} {deeds deeds' : List Deed}

/-- Deeds behind others begin where these have ended. -/
theorem cut (h : s.Does spawn (deeds ++ deeds') s') :
    ∃ mid, s.Does spawn deeds mid ∧ mid.Does spawn deeds' s' := by
  induction deeds generalizing s with
  | nil => exact ⟨s, .refl s, h⟩
  | cons deed deeds ih =>
      obtain ⟨before, hbefore, htrue, hrest⟩ := h
      obtain ⟨mid, hfront, hback⟩ := ih hrest
      exact ⟨mid, ⟨before, hbefore, htrue, hfront⟩, hback⟩

/-- An output that is always flushed with success stays one. -/
theorem flushable (h : s.Does spawn deeds s') (hout : s.console.out.Flushable) :
    s'.console.out.Flushable := by
  induction deeds generalizing s with
  | nil =>
      rw [h.out]
      exact hout
  | cons deed deeds ih =>
      obtain ⟨mid, hmid, -, hrest⟩ := h
      rw [← hmid.out] at hout
      cases deed with
      | printed pieces => exact ih hrest (hout.print pieces)
      | flushed answer => exact ih hrest hout.flush
      | asked r =>
          rcases out_asked spawn r mid with hlent | ⟨left, hleft⟩
          · exact ih hrest (hlent ▸ hout.lend)
          · exact ih hrest (hleft ▸ hout.lend.takeBack left)

/-- What is left unflushed is told by the deeds. -/
theorem unflushed (h : s.Does spawn deeds s') (htakes : s.console.out.TakesAll)
    (hout : s.console.out.Flushable) :
    s'.console.out.unflushed = deeds.foldl Deed.leaves s.console.out.unflushed := by
  induction deeds generalizing s with
  | nil => exact congrArg Outlet.unflushed h.out
  | cons deed deeds ih =>
      obtain ⟨mid, hmid, -, hrest⟩ := h
      rw [← hmid.out] at htakes hout ⊢
      rw [List.foldl_cons]
      cases deed with
      | printed pieces =>
          rw [Deed.leaves, ← htakes.unflushed_print pieces]
          exact ih hrest (htakes.print pieces).2.2 (hout.print pieces)
      | flushed answer =>
          rw [Deed.leaves, ← Outlet.unflushed_flush hout.fit hout.answer]
          exact ih hrest htakes.flush.2.2.1 hout.flush
      | asked r =>
          rw [Deed.leaves, ← Outlet.unflushed_lend mid.console.out]
          rcases out_asked spawn r mid with hlent | ⟨left, hleft⟩
          · rw [← hlent]
            exact ih hrest (hlent ▸ htakes.lend) (hlent ▸ hout.lend)
          · rw [← Outlet.unflushed_takeBack left mid.console.out.lend, ← hleft]
            exact ih hrest (hleft ▸ htakes.lend.takeBack left) (hleft ▸ hout.lend.takeBack left)

end Session.Does

-- ========================================================== the two ways out

namespace Session

/-- A loop that ends well has flushed the output, and nothing of it is left.
A loop that ends with a fault does nothing to the output behind its last
command: what the builtins have printed since the last program, and what
was there before if there was none, is left unflushed. -/
theorem unflushed_at_the_end {σ : Type} [Source σ] (spawn : Spawner) (source : σ) (s : Session)
    (hsource : Source.LeavesOutput source) (hout : s.console.out.Flushable) :
    ((s.converse spawn source).result = .ok () →
      (s.converse spawn source).session.console.out.unflushed = []) ∧
    ∀ fault, (s.converse spawn source).result = .error fault →
      ∃ traces,
        List.Forall₂ Dispatch.Orderly (Loop.dispatches spawn ⟨.asking, source, s⟩) traces ∧
        s.Does spawn traces.flatten (s.converse spawn source).session ∧
        (s.console.out.TakesAll →
          (s.converse spawn source).session.console.out.unflushed
            = traces.flatten.foldl Deed.leaves s.console.out.unflushed) := by
  obtain ⟨traces, closing, horderly, hcloses, hdoes⟩ := orderly_converse spawn source s hsource
  refine ⟨fun hresult => ?_, fun fault hresult => ?_⟩
  · rw [hresult] at hcloses
    obtain ⟨answer, rfl⟩ := hcloses
    obtain ⟨mid, hfront, before, hbefore, -, hend⟩ := hdoes.cut
    have hmid := hfront.flushable hout
    rw [← hbefore.out] at hmid
    have hflushed : (s.converse spawn source).session.console.out = before.console.out.flush.2 :=
      hend.out
    rw [hflushed]
    exact Outlet.unflushed_flush hmid.fit hmid.answer
  · rw [hresult] at hcloses
    obtain rfl : closing = [] := hcloses
    rw [List.append_nil] at hdoes
    exact ⟨traces, horderly, hdoes, fun htakes => hdoes.unflushed htakes hout⟩

/-- With `exit` behind it a line of output is flushed, on a channel with room
for a part of it as well. -/
theorem unflushed_at_the_end_exit :
    let spawn : Spawner := fun _ _ => .error .noEntry
    let s : Session :=
      { machine := { files := .empty, workingDirectory := ⟨[], 0⟩ }
        environment := { directory := [47] }
        console := { out := { channel := { room := some 1 } } } }
    let source : Source.Events := ⟨[.ok "echo a", .ok "exit"], []⟩
    Source.LeavesOutput source ∧ s.console.out.Flushable ∧
      (s.converse spawn source).session.console.out.unflushed = [] := by
  intro spawn s source
  have hout : s.console.out.Flushable :=
    ⟨.inl rfl, fun _ => rfl, (Channel.answersWith_iff_of_last rfl).2 ⟨trivial, rfl⟩⟩
  have hresult : (s.converse spawn source).result = .ok () := by
    have hgo := (goesOn_runLine_iff spawn "echo a" s).2 (by decide)
    rw [converse_of_line_goesOn rfl hgo, converse_of_line_leaves rfl]
    rw [goesOn_runLine_iff, not_not]
    decide
  exact ⟨source.leavesOutput, hout,
    (unflushed_at_the_end spawn source s source.leavesOutput hout).1 hresult⟩

/-- With an input that fails behind it, it is left behind. -/
theorem echo_left_behind :
    let spawn : Spawner := fun _ _ => .error .noEntry
    let s : Session :=
      { machine := { files := .empty, workingDirectory := ⟨[], 0⟩ }
        environment := { directory := [47] } }
    let source : Source.Events := ⟨[.ok "echo a", .error (.inputFailed (.number 5))], []⟩
    s.console.out.Flushable ∧ s.console.err.Flushable ∧ s.console.out.unflushed = [] ∧
      (s.converse spawn source).result = .error (.inputFailed (.number 5)) ∧
      (s.converse spawn source).session.console.out.unflushed = Bytes.ofText "a\n" := by
  intro spawn s source
  have htakes : s.console.out.TakesAll := ⟨⟨rfl, by decide⟩, fun _ => rfl⟩
  have hout : s.console.out.Flushable := ⟨.inr htakes, htakes.fit, (Channel.answersWith_iff_of_last rfl).2 ⟨trivial, rfl⟩⟩
  have hrun : s.runLine spawn "echo a"
      = (.goOn, ((s.split "echo a").2.begun "echo").printed [Bytes.ofText "a", Builtin.lineEnd]) :=
    print_of_taken (htakes.print _).1
  have hend : (s.converse spawn source).result = .error (.inputFailed (.number 5)) ∧
      (s.converse spawn source).session
        = (s.runLine spawn "echo a").2.note (.stopped (.inputFailed (.number 5))) := by
    rw [converse_of_line_goesOn rfl (congrArg (fun ran => ran.1.goesOn) hrun),
      converse_of_fatal rfl rfl]
    exact ⟨rfl, rfl⟩
  refine ⟨hout, hout, rfl, hend.1, ?_⟩
  rw [hend.2, hrun]
  exact (htakes.unflushed_print [Bytes.ofText "a", Builtin.lineEnd]).trans (by decide)

end Session
end LineShell
