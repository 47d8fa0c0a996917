/-
What flushing an outlet is good for, seen from the outlet. A flush is put
on the record of the channel, unless what is held back cannot be handed on
first. That does not happen to an outlet that holds nothing back, nor to
one whose channel takes every byte (`Outlet.FlushesThrough`); of these the
record tells how often they were flushed, and nothing but a flush adds to
that number.

# Flushed once more or less

For the same outlets a flush makes no difference to anything that is
written later. Two outlets are even (`Outlet.Even`) if they have received
the same, are about to receive the same, and give the same answers. They
stay even whatever is printed to both of them and whenever both are
flushed, and an outlet is even with itself after a flush (`even_flush`).
Nor does a program see the difference that has the channel behind them,
for it starts behind a flush, and the record is kept from it (`Even.takeBack_flush`).
-/
import LineShell.Proofs.Outlet
import LineShell.Source.Stream

namespace LineShell

-- ============================================================== channels

namespace Channel

theorem flushes_take (bytes : Bytes) (c : Channel) : (c.take bytes).flushes = c.flushes := by
  simp [flushes, take]

theorem flushes_flush (c : Channel) : c.flush.2.flushes = c.flushes + 1 := by
  simp [flushes, flush]

/-- To offer bytes is no flush. -/
theorem keeps_flushes (count : Nat) : Keeps fun c => c.flushes = count :=
  keeps_of_given (fun bytes c h => (flushes_take bytes c).trans h)
    fun c c' hrecord _ h => by rw [← h, flushes, hrecord, flushes]

theorem flushes_lend (c : Channel) : c.lend.flushes = c.flushes := by
  simp [flushes, lend]

theorem flushes_takeBack (left c : Channel) : (c.takeBack left).flushes = c.flushes := by
  simp [flushes, takeBack]

theorem received_lend (c : Channel) : c.lend.received = c.received := by
  simp [received, lend, Event.bytes]

theorem received_takeBack (left c : Channel) :
    (c.takeBack left).received = c.received ++ left.received := by
  simp [received, takeBack, Event.bytes]

/-- A program cannot fill a channel that takes everything. -/
theorem IsOpen.takeBack {c : Channel} (h : c.IsOpen) (left : Channel) :
    (c.takeBack left).IsOpen := by
  refine ⟨?_, h.2⟩
  show c.room.map (· - left.received.length) = none
  rw [h.1]
  rfl

/-- What is on the record but no bytes is not noticed. -/
theorem even_flush (c : Channel) : Even c.flush.2 c :=
  ⟨rfl, received_flush c⟩

theorem even_lend (c : Channel) : Even c.lend c :=
  ⟨rfl, received_lend c⟩

theorem Even.takeBack {c₁ c₂ : Channel} (h : Even c₁ c₂) (left : Channel) :
    Even (c₁.takeBack left) (c₂.takeBack left) := by
  constructor
  · calc (c₁.takeBack left).clear = (c₁.clear.takeBack left).clear := rfl
      _ = (c₂.clear.takeBack left).clear := by rw [h.clear]
      _ = (c₂.takeBack left).clear := rfl
  · rw [received_takeBack, received_takeBack, h.received]

end Channel

-- =============================================================== outlets

namespace Outlet

/-- Every flush reaches the channel: nothing is held back, or what is held
back can always be handed on. -/
def FlushesThrough (o : Outlet) : Prop :=
  o.byLine = false ∨ o.TakesAll

/-- An outlet that holds nothing back hands on at once. -/
theorem write_of_direct {o : Outlet} (h : o.byLine = false) (bytes : Bytes) :
    o.write bytes = o.pass bytes := by
  simp [write, h]

theorem flush_of_direct {o : Outlet} (h : o.byLine = false) :
    o.flush = (o.channel.flushError, { o with channel := o.channel.flush.2 }) := by
  simp [flush, h, andThen, Channel.flush]

theorem byLine_print {o : Outlet} (h : o.byLine = false) (pieces : List Bytes) :
    (o.print pieces).2.byLine = false := by
  induction pieces generalizing o with
  | nil => exact h
  | cons piece pieces ih =>
      rw [print, write_of_direct h]
      rcases hpass : o.pass piece with ⟨_ | cause, mid⟩
      · have hmid : mid.byLine = o.byLine := congrArg (fun r => r.2.byLine) hpass.symm
        exact ih (hmid.trans h)
      · have hmid : mid.byLine = o.byLine := congrArg (fun r => r.2.byLine) hpass.symm
        exact hmid.trans h

section takesAll

variable {o : Outlet}

/-- What is held back changes nothing about the answer of the channel. -/
theorem TakesAll.flushError_settled (h : o.TakesAll) :
    o.settled.flushError = o.channel.flushError :=
  congrArg (fun c => c.flushError) (h.isOpen.clear_offered o.held)

theorem flushes_settled (o : Outlet) : o.settled.flushes = o.channel.flushes :=
  ((Channel.keeps_flushes o.channel.flushes).offer o.held o.channel rfl).1

/-- An outlet that takes everything has handed on everything once it is
flushed. -/
theorem TakesAll.flush_eq (h : o.TakesAll) :
    o.flush = (o.channel.flushError, { o with channel := o.settled.flush.2, held := [] }) := by
  by_cases hline : o.byLine
  · obtain ⟨hnone, -, hheld, -⟩ := h.drain
    have hdrained : o.drain = (none, { o with channel := o.settled, held := [] }) := by
      refine Prod.ext hnone ?_
      show ({ o with channel := o.settled, held := o.drain.2.held } : Outlet) = _
      rw [hheld]
    unfold Outlet.flush
    rw [if_pos hline, hdrained, ← h.flushError_settled]
    rfl
  · have hdirect : o.byLine = false := by simpa using hline
    have hheld := h.fit hdirect
    rw [flush_of_direct hdirect, settled_of_held_nil hheld, ← hheld]

/-- It takes everything still. -/
theorem TakesAll.flush (h : o.TakesAll) :
    o.flush.1 = o.channel.flushError ∧ o.flush.2.held = [] ∧ o.flush.2.TakesAll ∧
      o.flush.2.channel.flushes = o.channel.flushes + 1 := by
  rw [h.flush_eq]
  refine ⟨rfl, rfl, ⟨isOpen_settled h.isOpen, fun _ => rfl⟩, ?_⟩
  exact (Channel.flushes_flush o.settled).trans (congrArg (· + 1) (flushes_settled o))

/-- And it has come to what it stood for. -/
theorem TakesAll.even_settled_flush (h : o.TakesAll) :
    o.flush.2.channel.Even o.settled ∧ o.flush.2.settled = o.flush.2.channel := by
  rw [h.flush_eq]
  exact ⟨Channel.even_flush o.settled, settled_of_held_nil rfl⟩

theorem TakesAll.lend (h : o.TakesAll) : o.lend.TakesAll :=
  ⟨h.isOpen, h.fit⟩

theorem TakesAll.takeBack (h : o.TakesAll) (left : Channel) : (o.takeBack left).TakesAll :=
  ⟨h.isOpen.takeBack left, h.fit⟩

end takesAll

theorem print_singleton (bytes : Bytes) (o : Outlet) : o.print [bytes] = o.write bytes := by
  rw [print]
  rcases o.write bytes with ⟨_ | cause, mid⟩
  · rfl
  · rfl

/-- It takes a prompt, too, whether or not it can be flushed. -/
theorem TakesAll.announce {o : Outlet} (h : o.TakesAll) (prompt : String) :
    (Source.Stream.announce prompt o).2.written = o.written ++ Bytes.ofText prompt ∧
      (Source.Stream.announce prompt o).2.TakesAll := by
  obtain ⟨hnone, hwritten, htakes⟩ := h.print [Bytes.ofText prompt]
  rw [print_singleton] at hnone hwritten htakes
  rw [List.flatten_singleton] at hwritten
  have hshown : Source.Stream.announce prompt o = (o.write (Bytes.ofText prompt)).2.flush := by
    unfold Source.Stream.announce
    rcases hr : o.write (Bytes.ofText prompt) with ⟨error, mid⟩
    rw [hr] at hnone
    obtain rfl : error = none := hnone
    rfl
  rw [hshown, written_flush]
  exact ⟨hwritten, htakes.flush.2.2.1⟩

/-- What taking bytes and being flushed leave true of a channel, a prompt does. -/
theorem kept_announce {P : Channel → Prop} (hkeeps : Channel.Keeps P)
    (hflush : ∀ c, P c → P c.flush.2) (prompt : String) {o : Outlet} (h : P o.channel) :
    P (Source.Stream.announce prompt o).2.channel := by
  have hflushed : ∀ {o : Outlet}, P o.channel → P o.flush.2.channel := by
    intro o h
    unfold flush
    by_cases hline : o.byLine
    · have hdrain := (ends_drain hkeeps h).1
      rw [if_pos hline]
      rcases hr : o.drain with ⟨_ | cause, mid⟩
      · rw [hr] at hdrain
        exact hflush mid.channel hdrain
      · rw [hr] at hdrain
        exact hdrain
    · rw [if_neg hline]
      exact hflush o.channel h
  have hwrite := (ends_write hkeeps (Bytes.ofText prompt) h).1
  unfold Source.Stream.announce
  rcases hr : o.write (Bytes.ofText prompt) with ⟨_ | cause, mid⟩
  · rw [hr] at hwrite
    exact hflushed hwrite
  · rw [hr] at hwrite
    exact hwrite

namespace FlushesThrough

variable {o : Outlet}

theorem print (h : o.FlushesThrough) (pieces : List Bytes) :
    (o.print pieces).2.FlushesThrough := by
  rcases h with h | h
  · exact .inl (byLine_print h pieces)
  · exact .inr (h.print pieces).2.2

theorem flush (h : o.FlushesThrough) :
    o.flush.2.FlushesThrough ∧ o.flush.2.channel.flushes = o.channel.flushes + 1 := by
  rcases h with h | h
  · rw [flush_of_direct h]
    exact ⟨.inl h, Channel.flushes_flush o.channel⟩
  · obtain ⟨-, -, htakes, hflushes⟩ := h.flush
    exact ⟨.inr htakes, hflushes⟩

theorem lend (h : o.FlushesThrough) : o.lend.FlushesThrough := by
  rcases h with h | h
  · exact .inl h
  · exact .inr h.lend

theorem takeBack (h : o.FlushesThrough) (left : Channel) : (o.takeBack left).FlushesThrough := by
  rcases h with h | h
  · exact .inl h
  · exact .inr (h.takeBack left)

end FlushesThrough

/-- Printing is no flush. -/
theorem flushes_print (pieces : List Bytes) (o : Outlet) :
    (o.print pieces).2.channel.flushes = o.channel.flushes :=
  (ends_print (Channel.keeps_flushes o.channel.flushes) pieces rfl).1

-- ================================================= flushed once more or less

/-- Outlets to which the same was written and which go on alike, however
often each of them was flushed. -/
inductive Even (o₁ o₂ : Outlet) : Prop
  /-- They hold nothing back, and their channels differ in the record only. -/
  | direct (hline₁ : o₁.byLine = false) (hline₂ : o₂.byLine = false)
      (hheld : o₁.held = o₂.held) (hchannel : o₁.channel.Even o₂.channel)
  /-- They take everything. How much of it they hold back may differ. -/
  | takesAll (htakes₁ : o₁.TakesAll) (htakes₂ : o₂.TakesAll)
      (hsettled : o₁.settled.Even o₂.settled)

namespace Even

variable {o₁ o₂ : Outlet}

theorem print (h : Even o₁ o₂) (pieces : List Bytes) :
    (o₁.print pieces).1 = (o₂.print pieces).1 ∧ Even (o₁.print pieces).2 (o₂.print pieces).2 := by
  cases h with
  | direct hline₁ hline₂ hheld hchannel =>
      induction pieces generalizing o₁ o₂ with
      | nil => exact ⟨rfl, .direct hline₁ hline₂ hheld hchannel⟩
      | cons piece pieces ih =>
          obtain ⟨hanswer, -, hoffered⟩ := hchannel.offer piece
          rw [Outlet.print, Outlet.print, write_of_direct hline₁, write_of_direct hline₂]
          unfold pass Channel.write
          dsimp only
          rw [← hanswer]
          cases (o₁.channel.offer piece).1 with
          | none => exact ih hline₁ hline₂ hheld hoffered
          | some cause => exact ⟨rfl, .direct hline₁ hline₂ hheld hoffered⟩
  | takesAll htakes₁ htakes₂ hsettled =>
      obtain ⟨hwrites₁, htakes₁'⟩ := htakes₁.writes_print pieces
      obtain ⟨hwrites₂, htakes₂'⟩ := htakes₂.writes_print pieces
      refine ⟨hwrites₁.succeeds.trans hwrites₂.succeeds.symm, .takesAll htakes₁' htakes₂' ?_⟩
      exact hwrites₁.settled.trans ((hsettled.offered _).trans hwrites₂.settled.symm)

/-- A flush of both is answered alike. Behind it their channels are even. -/
theorem flush (h : Even o₁ o₂) :
    o₁.flush.1 = o₂.flush.1 ∧ Even o₁.flush.2 o₂.flush.2 ∧
      o₁.flush.2.channel.Even o₂.flush.2.channel := by
  cases h with
  | direct hline₁ hline₂ hheld hchannel =>
      obtain ⟨hanswer, hflushed⟩ := hchannel.flush
      rw [flush_of_direct hline₁, flush_of_direct hline₂]
      exact ⟨hanswer, .direct hline₁ hline₂ hheld hflushed, hflushed⟩
  | takesAll htakes₁ htakes₂ hsettled =>
      obtain ⟨hanswer₁, -, htakes₁', -⟩ := htakes₁.flush
      obtain ⟨hanswer₂, -, htakes₂', -⟩ := htakes₂.flush
      obtain ⟨hchannel₁, hsettled₁⟩ := htakes₁.even_settled_flush
      obtain ⟨hchannel₂, hsettled₂⟩ := htakes₂.even_settled_flush
      have hchannel := hchannel₁.trans (hsettled.trans hchannel₂.symm)
      refine ⟨?_, .takesAll htakes₁' htakes₂' ?_, hchannel⟩
      · rw [hanswer₁, hanswer₂, ← htakes₁.flushError_settled, ← htakes₂.flushError_settled]
        exact hsettled.flush.1
      · rw [hsettled₁, hsettled₂]
        exact hchannel

theorem lend (h : Even o₁ o₂) : Even o₁.lend o₂.lend := by
  cases h with
  | direct hline₁ hline₂ hheld hchannel =>
      refine .direct hline₁ hline₂ hheld ?_
      exact (Channel.even_lend _).trans (hchannel.trans (Channel.even_lend _).symm)
  | takesAll htakes₁ htakes₂ hsettled =>
      refine .takesAll htakes₁.lend htakes₂.lend ?_
      exact ((Channel.even_lend _).offered _).trans
        (hsettled.trans ((Channel.even_lend _).offered _).symm)

/-- What a program leaves on both, behind a flush, keeps them even. -/
theorem takeBack_flush (h : Even o₁ o₂) (left : Channel) :
    Even (o₁.flush.2.lend.takeBack left) (o₂.flush.2.lend.takeBack left) := by
  have hleft : (o₁.flush.2.lend.takeBack left).channel.Even
      (o₂.flush.2.lend.takeBack left).channel :=
    ((Channel.even_lend _).trans (h.flush.2.2.trans (Channel.even_lend _).symm)).takeBack left
  cases h with
  | direct hline₁ hline₂ hheld hchannel =>
      rw [flush_of_direct hline₁, flush_of_direct hline₂] at hleft ⊢
      exact .direct hline₁ hline₂ hheld hleft
  | takesAll htakes₁ htakes₂ hsettled =>
      obtain ⟨-, hheld₁, htakes₁', -⟩ := htakes₁.flush
      obtain ⟨-, hheld₂, htakes₂', -⟩ := htakes₂.flush
      refine .takesAll (htakes₁'.lend.takeBack left) (htakes₂'.lend.takeBack left) ?_
      rw [settled_of_held_nil (show (o₁.flush.2.lend.takeBack left).held = [] from hheld₁),
        settled_of_held_nil (show (o₂.flush.2.lend.takeBack left).held = [] from hheld₂)]
      exact hleft

end Even

/-- The outlets that are even with themselves are those that every flush goes
through. -/
theorem even_self_iff {o : Outlet} : Even o o ↔ o.FlushesThrough := by
  constructor
  · intro h
    cases h with
    | direct hline _ _ _ => exact .inl hline
    | takesAll htakes _ _ => exact .inr htakes
  · intro h
    rcases h with h | h
    · exact .direct h h rfl (.refl _)
    · exact .takesAll h h (.refl _)

/-- A flush is not noticed afterwards. -/
theorem FlushesThrough.even_flush {o : Outlet} (h : o.FlushesThrough) : Even o.flush.2 o := by
  rcases h with h | h
  · rw [flush_of_direct h]
    exact .direct h h rfl (Channel.even_flush o.channel)
  · obtain ⟨hchannel, hsettled⟩ := h.even_settled_flush
    exact .takesAll h.flush.2.2.1 h (hsettled ▸ hchannel)

/-- An outlet that works line by line notices, if its channel fills up. What is
held back may be too much for the channel, and a flush then fails; but it
makes place beside it for what comes next, which is refused without. -/
theorem flush_noticed :
    let o : Outlet := { channel := { room := some 500 }, byLine := true }
    let full := (o.print [List.replicate 1000 97]).2
    (full.print [List.replicate 100 98]).1 = some .nothingTaken ∧
      (full.flush.2.print [List.replicate 100 98]).1 = none := by
  decide +kernel

end Outlet
end LineShell
