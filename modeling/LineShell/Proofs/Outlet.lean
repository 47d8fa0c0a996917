/-
What has been written to an outlet: what its channel has received and,
behind that, what is held back (`Outlet.written`). Handing on moves bytes
from the one part to the other and drops none, also if the channel
refuses some of them, so flushing an outlet changes nothing about what
has been written to it.

How much is held back, and in what portions it is handed on, makes no
difference in the end, if the channel never refuses a byte. Then the outlet
stands for the channel that it comes to when all is handed on
(`Outlet.settled`), and to print is to offer the bytes to that
(`TakesAll.writes_print`).

# What a channel answers

An outlet has no errors of its own. Whatever it does, its channel only
takes bytes and is flushed, and an error is the answer of a channel that
has come about in this way (`Outlet.Ends`). Two things follow from that. An
outlet never fails if its channel never refuses a byte (`TakesAll`); and
whatever it does, its errors are the ones that its channel has had from the
beginning (`answers_print`, `answers_flush`).
-/
import LineShell.Outlet

namespace LineShell

-- ================================================================= files

theorem Bytes.overlay_nil (contents : Bytes) (offset : Nat) :
    contents.overlay offset [] = contents :=
  rfl

theorem Bytes.overlay_of_ne_nil {bytes : Bytes} (h : bytes ≠ []) (contents : Bytes)
    (offset : Nat) :
    contents.overlay offset bytes
      = contents.take offset ++ (List.replicate (offset - contents.length) 0 ++ (bytes
          ++ contents.drop (offset + bytes.length))) := by
  rw [overlay, if_neg (by simpa using h)]

/-- What is laid over a text at a place that it reaches to. -/
theorem Bytes.overlay_append {front bytes : Bytes} (h : bytes ≠ []) (rest : Bytes) :
    (front ++ rest).overlay front.length bytes = front ++ (bytes ++ rest.drop bytes.length) := by
  have hfilled : front.length - (front ++ rest).length = 0 := by
    rw [List.length_append]
    omega
  rw [overlay_of_ne_nil h, hfilled, List.replicate_zero, List.nil_append, List.take_left,
    List.drop_length_add_append]

/-- What is laid behind other bytes is laid with them. -/
theorem Bytes.overlay_overlay (contents bytes more : Bytes) (offset : Nat) :
    (contents.overlay offset bytes).overlay (offset + bytes.length) more
      = contents.overlay offset (bytes ++ more) := by
  by_cases hbytes : bytes = []
  · rw [hbytes, overlay_nil]
    rfl
  by_cases hmore : more = []
  · rw [hmore, overlay_nil, List.append_nil]
  generalize hfront : contents.take offset ++ List.replicate (offset - contents.length) 0 = front
  have hlaid : ∀ tail, contents.take offset
      ++ (List.replicate (offset - contents.length) 0 ++ tail) = front ++ tail := by
    intro tail
    rw [← hfront, List.append_assoc]
  have hlength : (front ++ bytes).length = offset + bytes.length := by
    rw [← hfront]
    simp only [List.length_append, List.length_take, List.length_replicate]
    omega
  rw [overlay_of_ne_nil hbytes, overlay_of_ne_nil (List.append_ne_nil_of_left_ne_nil hbytes more),
    hlaid, hlaid, ← List.append_assoc, ← hlength, overlay_append hmore, hlength, List.drop_drop,
    List.length_append, Nat.add_assoc]
  simp only [List.append_assoc]

namespace Channel

theorem File.take_nil (f : File) : f.take [] = f :=
  rfl

theorem File.take_take (bytes more : Bytes) (f : File) :
    (f.take bytes).take more = f.take (bytes ++ more) := by
  unfold take
  dsimp only
  rw [Bytes.overlay_overlay, List.length_append, Nat.add_assoc]

-- ============================================================== channels

theorem received_take (bytes : Bytes) (c : Channel) :
    (c.take bytes).received = c.received ++ bytes := by
  simp [received, take, Event.bytes]

theorem received_flush (c : Channel) : c.flush.2.received = c.received := by
  simp [received, flush, Event.bytes]

theorem record_afterRefusal (c : Channel) : c.afterRefusal.record = c.record := by
  unfold afterRefusal
  split
  · rfl
  · rfl

theorem received_afterRefusal (c : Channel) : c.afterRefusal.received = c.received := by
  rw [received, record_afterRefusal, received]

theorem file?_afterRefusal (c : Channel) : c.afterRefusal.file? = c.file? := by
  unfold afterRefusal
  split
  · rfl
  · rfl

theorem clear_afterRefusal (c : Channel) : c.afterRefusal.clear = c.clear.afterRefusal := by
  obtain ⟨spell, later, file, record⟩ := c
  cases later with
  | nil => rfl
  | cons next later => rfl

/-- What is taken of an offer is a beginning of it. -/
theorem accepts_append_drop (bytes : Bytes) (c : Channel) :
    c.accepts bytes ++ bytes.drop (c.accepts bytes).length = bytes := by
  have hbegins : c.accepts bytes <+: bytes := by
    unfold accepts
    cases c.portion with
    | none =>
        cases c.room with
        | none => exact List.prefix_rfl
        | some room => exact List.take_prefix room bytes
    | some portion =>
        cases c.room with
        | none => exact List.take_prefix portion bytes
        | some room =>
            exact (List.take_prefix room _).trans (List.take_prefix portion bytes)
  exact List.prefix_iff_eq_append.1 hbegins

/-- Bytes that are offered are received or left over, in their order. -/
theorem received_offer (bytes : Bytes) (c : Channel) :
    (c.offer bytes).2.2.received ++ (c.offer bytes).2.1 = c.received ++ bytes := by
  fun_induction offer bytes c with
  | case1 c => rfl
  | case2 c byte more h => exact congrArg (· ++ byte :: more) c.received_afterRefusal
  | case3 c byte more first others h ih =>
      have hsplit := c.accepts_append_drop (byte :: more)
      rw [h, List.length_cons, List.drop_succ_cons] at hsplit
      rw [ih, received_take, List.append_assoc, hsplit]

-- A channel that is full after one byte, and is given room again behind its refusal.
example :
    let c : Channel := { room := some 1, later := [{}] }
    let refused := c.offer [97, 98]
    refused.1 = some .nothingTaken ∧ refused.2.1 = [98] ∧
      (refused.2.2.offer refused.2.1).2.2.received = [97, 98] := by
  decide +kernel

/-- Nothing is left over of an offer that succeeds. -/
theorem rest_offer {bytes : Bytes} {c : Channel} (h : (c.offer bytes).1 = none) :
    (c.offer bytes).2.1 = [] := by
  fun_induction offer bytes c with
  | case1 c => rfl
  | case2 c byte more hrefused => cases h
  | case3 c byte more first others htaken ih => exact ih h

/-- The channel of an offer, and of a write, has taken all of it if it
succeeds. -/
theorem received_write {bytes : Bytes} {c : Channel} (h : (c.write bytes).1 = none) :
    (c.write bytes).2.received = c.received ++ bytes := by
  have hoffer := received_offer bytes c
  rw [rest_offer h, List.append_nil] at hoffer
  exact hoffer

/-- The channel after bytes were offered to it. -/
def offered (bytes : Bytes) (c : Channel) : Channel :=
  (c.offer bytes).2.2

theorem offered_nil (c : Channel) : c.offered [] = c := by
  rw [offered, offer]

/-- Two channels that have received the same, and differ in nothing but
their records. -/
structure Even (c₁ c₂ : Channel) : Prop where
  clear : c₁.clear = c₂.clear
  received : c₁.received = c₂.received

namespace Even

variable {c₁ c₂ c₃ : Channel}

theorem refl (c : Channel) : Even c c :=
  ⟨rfl, rfl⟩

theorem of_eq (h : c₁ = c₂) : Even c₁ c₂ :=
  h ▸ refl c₁

theorem symm (h : Even c₁ c₂) : Even c₂ c₁ :=
  ⟨h.clear.symm, h.received.symm⟩

theorem trans (h : Even c₁ c₂) (h' : Even c₂ c₃) : Even c₁ c₃ :=
  ⟨h.clear.trans h'.clear, h.received.trans h'.received⟩

theorem take (h : Even c₁ c₂) (bytes : Bytes) : Even (c₁.take bytes) (c₂.take bytes) := by
  refine ⟨?_, ?_⟩
  · calc (c₁.take bytes).clear = (c₁.clear.take bytes).clear := rfl
      _ = (c₂.clear.take bytes).clear := by rw [h.clear]
      _ = (c₂.take bytes).clear := rfl
  · rw [received_take, received_take, h.received]

theorem afterRefusal (h : Even c₁ c₂) : Even c₁.afterRefusal c₂.afterRefusal := by
  refine ⟨?_, ?_⟩
  · rw [clear_afterRefusal, clear_afterRefusal, h.clear]
  · rw [received_afterRefusal, received_afterRefusal, h.received]

theorem accepts (h : Even c₁ c₂) (bytes : Bytes) : c₁.accepts bytes = c₂.accepts bytes :=
  calc c₁.accepts bytes = c₁.clear.accepts bytes := rfl
    _ = c₂.clear.accepts bytes := by rw [h.clear]
    _ = c₂.accepts bytes := rfl

theorem answer (h : Even c₁ c₂) : c₁.answer = c₂.answer :=
  calc c₁.answer = c₁.clear.answer := rfl
    _ = c₂.clear.answer := by rw [h.clear]
    _ = c₂.answer := rfl

/-- What is offered to them is taken alike. -/
theorem offer (h : Even c₁ c₂) (bytes : Bytes) :
    (c₁.offer bytes).1 = (c₂.offer bytes).1 ∧ (c₁.offer bytes).2.1 = (c₂.offer bytes).2.1 ∧
      Even (c₁.offer bytes).2.2 (c₂.offer bytes).2.2 := by
  fun_induction Channel.offer bytes c₁ generalizing c₂ with
  | case1 c₁ =>
      rw [Channel.offer]
      exact ⟨rfl, rfl, h⟩
  | case2 c₁ byte more hrefused =>
      rw [h.accepts] at hrefused
      rw [Channel.offer, hrefused]
      exact ⟨congrArg some h.answer, rfl, h.afterRefusal⟩
  | case3 c₁ byte more first others htaken ih =>
      rw [h.accepts] at htaken
      rw [Channel.offer, htaken]
      exact ih (h.take _)

theorem offered (h : Even c₁ c₂) (bytes : Bytes) :
    Even (c₁.offered bytes) (c₂.offered bytes) :=
  (h.offer bytes).2.2

theorem flush (h : Even c₁ c₂) : c₁.flush.1 = c₂.flush.1 ∧ Even c₁.flush.2 c₂.flush.2 := by
  refine ⟨?_, h.clear, ?_⟩
  · calc c₁.flush.1 = c₁.clear.flushError := rfl
      _ = c₂.clear.flushError := by rw [h.clear]
      _ = c₂.flush.1 := rfl
  · rw [received_flush, received_flush, h.received]

end Even

/-- An error that a channel of some kind has refused bytes with. -/
def Refused (P : Channel → Prop) (cause : SystemError) : Prop :=
  ∃ c byte more, P c ∧ c.accepts (byte :: more) = [] ∧ cause = c.answer

/-- What stays true of a channel, whatever is offered to it. -/
structure Keeps (P : Channel → Prop) : Prop where
  take : ∀ bytes c, P c → P (c.take bytes)
  refusal : ∀ c byte more, P c → c.accepts (byte :: more) = [] → P c.afterRefusal

/-- An offer is a number of takes, and an error is the answer to the last
part of it. -/
theorem Keeps.offer {P : Channel → Prop} (hkeeps : Keeps P) (bytes : Bytes) (c : Channel)
    (h : P c) :
    P (c.offer bytes).2.2 ∧ ∀ cause, (c.offer bytes).1 = some cause → Refused P cause := by
  fun_induction Channel.offer bytes c with
  | case1 c => exact ⟨h, by simp⟩
  | case2 c byte more hrefused =>
      refine ⟨hkeeps.refusal c byte more h hrefused, fun cause hcause => ?_⟩
      exact ⟨c, byte, more, h, hrefused, (Option.some.inj hcause).symm⟩
  | case3 c byte more first others htaken ih => exact ih (hkeeps.take _ c h)

/-- What is told by the record and the file alone is kept if taking bytes
keeps it. -/
theorem keeps_of_given {P : Channel → Prop} (htake : ∀ bytes c, P c → P (c.take bytes))
    (hgiven : ∀ c c' : Channel, c'.record = c.record → c'.file? = c.file? → P c → P c') :
    Keeps P :=
  ⟨htake, fun c _ _ h _ => hgiven c _ c.record_afterRefusal c.file?_afterRefusal h⟩

/-- A channel that never refuses a byte. -/
def IsOpen (c : Channel) : Prop :=
  c.room = none ∧ c.portion ≠ some 0

theorem isOpen_take (bytes : Bytes) (c : Channel) (h : c.IsOpen) : (c.take bytes).IsOpen := by
  refine ⟨?_, h.2⟩
  show c.room.map (· - bytes.length) = none
  rw [h.1]
  rfl

theorem IsOpen.accepts_ne_nil {c : Channel} (h : c.IsOpen) (byte : UInt8) (more : Bytes) :
    c.accepts (byte :: more) ≠ [] := by
  obtain ⟨hroom, hportion⟩ := h
  unfold accepts
  rw [hroom]
  cases hc : c.portion with
  | none => simp
  | some portion =>
      cases portion with
      | zero => exact absurd hc hportion
      | succ portion => simp

theorem keeps_isOpen : Keeps IsOpen :=
  ⟨isOpen_take, fun _ byte more h hrefused => absurd hrefused (h.accepts_ne_nil byte more)⟩

theorem not_refused_isOpen (cause : SystemError) : ¬Refused IsOpen cause :=
  fun ⟨_, byte, more, h, hrefused, _⟩ => h.accepts_ne_nil byte more hrefused

theorem eq_none_of_isOpen {error : Option SystemError}
    (h : ∀ cause, error = some cause → Refused IsOpen cause) : error = none := by
  cases error with
  | none => rfl
  | some cause => exact absurd (h cause rfl) (not_refused_isOpen cause)

namespace IsOpen

variable {c : Channel}

/-- It takes what is offered to it. -/
theorem offer (h : c.IsOpen) (bytes : Bytes) :
    (c.offer bytes).1 = none ∧ (c.offer bytes).2.1 = [] ∧ (c.offered bytes).IsOpen ∧
      (c.offered bytes).received = c.received ++ bytes := by
  obtain ⟨hopen, hcause⟩ := keeps_isOpen.offer bytes c h
  have hnone := eq_none_of_isOpen hcause
  exact ⟨hnone, rest_offer hnone, hopen, received_write hnone⟩

/-- It has received what was written to it. -/
theorem write (h : c.IsOpen) (bytes : Bytes) :
    (c.write bytes).2.received = c.received ++ bytes ∧ (c.write bytes).2.IsOpen :=
  ⟨(h.offer bytes).2.2.2, (h.offer bytes).2.2.1⟩

/-- The portions in which it takes bytes leave no trace but in the record. -/
theorem clear_offered (h : c.IsOpen) (bytes : Bytes) :
    (c.offered bytes).clear = { c.clear with file? := c.file?.map (·.take bytes) } := by
  fun_induction Channel.offer bytes c with
  | case1 c =>
      simp [offered, Channel.offer, clear, File.take_nil]
  | case2 c byte more hrefused => exact absurd hrefused (h.accepts_ne_nil byte more)
  | case3 c byte more first others htaken ih =>
      have hsplit := c.accepts_append_drop (byte :: more)
      rw [htaken, List.length_cons, List.drop_succ_cons] at hsplit
      have hrest : c.offered (byte :: more)
          = (c.take (first :: others)).offered (more.drop others.length) := by
        simp only [offered]
        rw [Channel.offer, htaken]
      rw [hrest]
      refine (ih (isOpen_take _ c h)).trans ?_
      have hroom : (c.take (first :: others)).room = c.room := by
        rw [h.1, (isOpen_take _ c h).1]
      simp only [clear, take, Channel.mk.injEq, Option.map_map, and_true, true_and]
      refine ⟨congrArg (fun room => { c.toSpell with room }) hroom, ?_⟩
      congr 1
      funext f
      exact (File.take_take _ _ f).trans (congrArg (fun bytes => f.take bytes) hsplit)

/-- So bytes may be offered to it one behind the other or at once. -/
theorem offered_append (h : c.IsOpen) (bytes more : Bytes) :
    Even (c.offered (bytes ++ more)) ((c.offered bytes).offered more) := by
  obtain ⟨-, -, hopen, hreceived⟩ := h.offer bytes
  have hfile : (c.offered bytes).file? = c.file?.map (·.take bytes) :=
    congrArg file? (h.clear_offered bytes)
  constructor
  · rw [h.clear_offered, hopen.clear_offered, h.clear_offered, hfile, Option.map_map]
    have hlaid : (fun f : File => f.take (bytes ++ more)) = (·.take more) ∘ (·.take bytes) :=
      funext fun f => (File.take_take bytes more f).symm
    rw [hlaid]
  · rw [(h.offer _).2.2.2, (hopen.offer more).2.2.2, hreceived, List.append_assoc]

end IsOpen

/-- A channel that refuses bytes with such errors only, or with none of its
own, and answers such things only when it is flushed. -/
def AnswersWith (refusals flushes : Option SystemError → Prop) (c : Channel) : Prop :=
  ∀ spell ∈ c.spells, refusals spell.refusal ∧ flushes spell.flushError

section answers

variable {refusals flushes : Option SystemError → Prop}

theorem answersWith_iff_of_last {c : Channel} (h : c.later = []) :
    c.AnswersWith refusals flushes ↔ refusals c.refusal ∧ flushes c.flushError := by
  rw [AnswersWith, spells, h, List.forall_mem_singleton]

/-- How much room there is plays no part in it. -/
theorem AnswersWith.withRoom {c : Channel} (h : c.AnswersWith refusals flushes)
    (room : Option Nat) : AnswersWith refusals flushes { c with room } := by
  intro spell hmem
  rcases List.mem_cons.1 hmem with rfl | hmem
  · exact h c.toSpell List.mem_cons_self
  · exact h spell (List.mem_cons_of_mem _ hmem)

theorem keeps_answersWith : Keeps (AnswersWith refusals flushes) where
  take bytes c h := h.withRoom _
  refusal c byte more h _ := by
    unfold afterRefusal
    cases hlater : c.later with
    | nil => exact h
    | cons next later =>
        intro spell hmem
        exact h spell (List.mem_cons_of_mem _ (hlater ▸ hmem))

theorem cause_of_refused {cause : SystemError} (h : Refused (AnswersWith refusals flushes) cause) :
    refusals (some cause) ∨ cause = .nothingTaken := by
  obtain ⟨c, byte, more, hanswers, -, hcause⟩ := h
  have hrefusal := (hanswers c.toSpell List.mem_cons_self).1
  rw [hcause, answer]
  split
  · cases hc : c.refusal with
    | none => exact .inr rfl
    | some error => exact .inl (hc ▸ hrefusal)
  · exact .inr rfl

end answers

end Channel

-- =============================================================== outlets

namespace Outlet

/-- What has been written to an outlet, in order. -/
def written (o : Outlet) : Bytes :=
  o.channel.received ++ o.held

/-- Handing on what is held back drops nothing. -/
theorem written_drain (o : Outlet) : o.drain.2.written = o.written :=
  Channel.received_offer o.held o.channel

/-- Flushing is not writing. -/
theorem written_flush (o : Outlet) : o.flush.2.written = o.written := by
  have hchannel : ∀ o : Outlet, written { o with channel := o.channel.flush.2 } = o.written := by
    intro o
    unfold written
    rw [Channel.received_flush]
  unfold flush
  by_cases hline : o.byLine
  · rw [if_pos hline, ← written_drain o]
    rcases hdrain : o.drain with ⟨error, drained⟩
    cases error with
    | none => exact hchannel drained
    | some error => rfl
  · rw [if_neg hline]
    exact hchannel o

/-- Nor is handing the channel to a program. -/
theorem written_lend (o : Outlet) : o.lend.written = o.written := by
  simp [written, lend, Channel.lend, Channel.received, Channel.Event.bytes]

-- ======================================================= what is written

/-- The channel of an outlet as it is once all is handed on. -/
def settled (o : Outlet) : Channel :=
  o.channel.offered o.held

theorem settled_of_held_nil {o : Outlet} (h : o.held = []) : o.settled = o.channel := by
  rw [settled, h, Channel.offered_nil]

/-- What was done to an outlet whose channel takes everything has succeeded,
and comes to an offer of these bytes. -/
structure Writes (o : Outlet) (bytes : Bytes) (r : Option SystemError × Outlet) : Prop where
  succeeds : r.1 = none
  isOpen : r.2.channel.IsOpen
  settled : Channel.Even r.2.settled (o.settled.offered bytes)
  byLine : r.2.byLine = o.byLine

/-- The finished lines and the unfinished one are all there is. -/
theorem lines_append_unfinished (bytes : Bytes) :
    bytes.take (bytes.length - (unfinished bytes).length) ++ unfinished bytes = bytes := by
  have hends : unfinished bytes <:+ bytes := by
    rw [unfinished, ← List.reverse_prefix, List.reverse_reverse]
    exact List.takeWhile_prefix _
  exact List.suffix_iff_eq_append.1 hends

section writes

variable {o : Outlet} (hopen : o.channel.IsOpen)
include hopen

theorem isOpen_settled : o.settled.IsOpen :=
  (hopen.offer o.held).2.2.1

theorem Writes.nothing : Writes o [] (none, o) :=
  ⟨rfl, hopen, .of_eq (Channel.offered_nil _).symm, rfl⟩

/-- One thing is written behind the other. -/
theorem Writes.andThen {bytes more : Bytes} {r : Option SystemError × Outlet}
    {next : Outlet → Option SystemError × Outlet} (h : Writes o bytes r)
    (hnext : Writes r.2 more (next r.2)) : Writes o (bytes ++ more) (andThen next r) := by
  obtain ⟨error, mid⟩ := r
  obtain rfl : error = none := h.succeeds
  refine ⟨hnext.succeeds, hnext.isOpen, ?_, hnext.byLine.trans h.byLine⟩
  exact hnext.settled.trans ((h.settled.offered more).trans
    ((isOpen_settled hopen).offered_append bytes more).symm)

theorem writes_pass (bytes : Bytes) (hheld : o.held = []) : Writes o bytes (o.pass bytes) := by
  obtain ⟨hnone, -, hoffered, -⟩ := hopen.offer bytes
  refine ⟨hnone, hoffered, .of_eq ?_, rfl⟩
  rw [settled_of_held_nil hheld]
  exact settled_of_held_nil hheld

theorem writes_drain : Writes o [] o.drain ∧ o.drain.2.held = [] := by
  obtain ⟨hnone, hrest, hoffered, -⟩ := hopen.offer o.held
  refine ⟨⟨hnone, hoffered, .of_eq ?_, rfl⟩, hrest⟩
  show o.settled.offered (o.channel.offer o.held).2.1 = _
  rw [hrest]

theorem writes_held (bytes : Bytes) : Writes o bytes (none, { o with held := o.held ++ bytes }) :=
  ⟨rfl, hopen, hopen.offered_append o.held bytes, rfl⟩

theorem writes_hold (bytes : Bytes) : Writes o bytes (o.hold bytes) := by
  unfold hold
  dsimp only
  split
  · exact writes_held hopen bytes
  · rename_i hlarge
    have hgoesOn : ∀ {mid : Outlet}, mid.channel.IsOpen →
        (capacity ≤ bytes.length → mid.held = []) →
        Writes mid bytes (if capacity ≤ bytes.length then mid.pass bytes
          else (none, { mid with held := mid.held ++ bytes })) := by
      intro mid hmid hheld
      split
      · rename_i hfills
        exact writes_pass hmid bytes (hheld hfills)
      · exact writes_held hmid bytes
    by_cases hdrain : capacity - o.held.length < bytes.length
    · rw [if_pos hdrain]
      obtain ⟨hdrained, hheld⟩ := writes_drain hopen
      exact hdrained.andThen hopen (hgoesOn hdrained.isOpen fun _ => hheld)
    · -- what fills the capacity can only fit if nothing is held
      rw [if_neg hdrain]
      refine (Writes.nothing hopen).andThen hopen (hgoesOn hopen fun hfills => ?_)
      have hcapacity : 0 < capacity := by decide
      exact List.eq_nil_of_length_eq_zero (show o.held.length = 0 by omega)

theorem writes_writeLines (bytes : Bytes) : Writes o bytes (o.writeLines bytes) := by
  unfold writeLines
  dsimp only
  generalize hlines : bytes.take (bytes.length - (unfinished bytes).length) = lines
  have hsplit : lines ++ unfinished bytes = bytes := by
    rw [← hlines]
    exact lines_append_unfinished bytes
  conv => enter [2]; rw [← hsplit]
  have hbehind : ∀ {r : Option SystemError × Outlet}, Writes o lines r →
      Writes o (lines ++ unfinished bytes) (andThen (hold (unfinished bytes)) r) :=
    fun h => h.andThen hopen (writes_hold h.isOpen _)
  apply hbehind
  split
  · rename_i hempty
    rw [List.isEmpty_iff.1 hempty]
    split
    · exact (writes_drain hopen).1
    · exact Writes.nothing hopen
  · split
    · rename_i hheld
      exact writes_pass hopen lines (List.isEmpty_iff.1 hheld)
    · have hheld := writes_hold hopen lines
      have hdrained := hheld.andThen hopen (writes_drain hheld.isOpen).1
      rwa [List.append_nil] at hdrained

end writes

/-- What does not work line by line holds nothing back. -/
def Fit (o : Outlet) : Prop :=
  o.byLine = false → o.held = []

/-- An outlet that never fails: its channel takes every byte. -/
structure TakesAll (o : Outlet) : Prop where
  isOpen : o.channel.IsOpen
  fit : o.Fit

namespace TakesAll

variable {o : Outlet}

theorem write (h : o.TakesAll) (bytes : Bytes) :
    Writes o bytes (o.write bytes) ∧ (o.write bytes).2.TakesAll := by
  unfold Outlet.write
  split
  · rename_i hline
    have hwrites := writes_writeLines h.isOpen bytes
    refine ⟨hwrites, hwrites.isOpen, fun hdirect => ?_⟩
    rw [hwrites.byLine, hline] at hdirect
    cases hdirect
  · rename_i hline
    have hheld := h.fit (by simpa using hline)
    have hwrites := writes_pass h.isOpen bytes hheld
    exact ⟨hwrites, hwrites.isOpen, fun _ => hheld⟩

/-- What is printed is written, all of it. -/
theorem writes_print (h : o.TakesAll) (pieces : List Bytes) :
    Writes o pieces.flatten (o.print pieces) ∧ (o.print pieces).2.TakesAll := by
  induction pieces generalizing o with
  | nil => exact ⟨.nothing h.isOpen, h⟩
  | cons piece pieces ih =>
      obtain ⟨hwrites, htakes⟩ := h.write piece
      obtain ⟨hwrites', htakes'⟩ := ih htakes
      refine ⟨hwrites.andThen h.isOpen hwrites', ?_⟩
      rcases hr : o.write piece with ⟨error, mid⟩
      rw [hr] at hwrites htakes'
      obtain rfl : error = none := hwrites.succeeds
      rw [Outlet.print, hr]
      exact htakes'

/-- What is written to it is what its channel has received in the end. -/
theorem received_settled (h : o.TakesAll) : o.settled.received = o.written :=
  (h.isOpen.offer o.held).2.2.2

/-- Printing to it succeeds, and it takes all that is printed. -/
theorem print (h : o.TakesAll) (pieces : List Bytes) :
    (o.print pieces).1 = none ∧ (o.print pieces).2.written = o.written ++ pieces.flatten ∧
      (o.print pieces).2.TakesAll := by
  obtain ⟨hwrites, htakes⟩ := h.writes_print pieces
  refine ⟨hwrites.succeeds, ?_, htakes⟩
  rw [← htakes.received_settled, hwrites.settled.received, ← h.received_settled]
  exact ((isOpen_settled h.isOpen).offer pieces.flatten).2.2.2

/-- What it holds back can be handed on. Then the channel has received all that
was written. -/
theorem drain (h : o.TakesAll) :
    o.drain.1 = none ∧ o.drain.2.channel.IsOpen ∧ o.drain.2.held = [] ∧
      o.drain.2.channel.received = o.written := by
  obtain ⟨hdrained, hheld⟩ := writes_drain h.isOpen
  exact ⟨hdrained.succeeds, hdrained.isOpen, hheld, h.received_settled⟩

end TakesAll

/-- Nothing is held back after handing on. -/
theorem held_drain {o : Outlet} (h : o.drain.1 = none) : o.drain.2.held = [] :=
  Channel.rest_offer h

-- ====================================================== what is answered

/-- What was done to an outlet has left a channel of some kind, and an
error, if there was one, is the answer of such a channel to bytes. -/
def Ends (P : Channel → Prop) (r : Option SystemError × Outlet) : Prop :=
  P r.2.channel ∧ ∀ cause, r.1 = some cause → Channel.Refused P cause

section answers

variable {P : Channel → Prop}

theorem Ends.well {o : Outlet} (h : P o.channel) : Ends P (none, o) :=
  ⟨h, by simp⟩

theorem Ends.andThen {r : Option SystemError × Outlet}
    {next : Outlet → Option SystemError × Outlet} (h : Ends P r)
    (hnext : ∀ o : Outlet, P o.channel → Ends P (next o)) : Ends P (andThen next r) := by
  rcases r with ⟨_ | cause, o⟩
  · exact hnext o h.1
  · exact h

variable (hkeeps : Channel.Keeps P)
include hkeeps

theorem ends_pass (bytes : Bytes) {o : Outlet} (h : P o.channel) : Ends P (o.pass bytes) :=
  hkeeps.offer bytes o.channel h

theorem ends_drain {o : Outlet} (h : P o.channel) : Ends P o.drain :=
  hkeeps.offer o.held o.channel h

theorem ends_hold (bytes : Bytes) {o : Outlet} (h : P o.channel) : Ends P (o.hold bytes) := by
  unfold hold
  dsimp only
  split
  · exact .well h
  · refine Ends.andThen ?_ fun mid hmid => ?_
    · split
      · exact ends_drain hkeeps h
      · exact .well h
    · split
      · exact ends_pass hkeeps bytes hmid
      · exact .well hmid

theorem ends_writeLines (bytes : Bytes) {o : Outlet} (h : P o.channel) :
    Ends P (o.writeLines bytes) := by
  unfold writeLines
  dsimp only
  refine Ends.andThen ?_ fun mid hmid => ends_hold hkeeps _ hmid
  split
  · split
    · exact ends_drain hkeeps h
    · exact .well h
  · split
    · exact ends_pass hkeeps _ h
    · exact (ends_hold hkeeps _ h).andThen fun mid hmid => ends_drain hkeeps hmid

theorem ends_write (bytes : Bytes) {o : Outlet} (h : P o.channel) : Ends P (o.write bytes) := by
  unfold write
  split
  · exact ends_writeLines hkeeps bytes h
  · exact ends_pass hkeeps bytes h

theorem ends_print (pieces : List Bytes) {o : Outlet} (h : P o.channel) :
    Ends P (o.print pieces) := by
  induction pieces generalizing o with
  | nil => exact .well h
  | cons piece pieces ih => exact (ends_write hkeeps piece h).andThen fun mid hmid => ih hmid

end answers

section answers

variable {refusals flushes : Option SystemError → Prop}

/-- Printing changes nothing about what a channel answers, and its error is
such an answer. -/
theorem answers_print (pieces : List Bytes) {o : Outlet}
    (h : o.channel.AnswersWith refusals flushes) :
    (o.print pieces).2.channel.AnswersWith refusals flushes ∧
      ∀ cause, (o.print pieces).1 = some cause →
        refusals (some cause) ∨ cause = .nothingTaken := by
  obtain ⟨hkept, hcause⟩ := ends_print Channel.keeps_answersWith pieces h
  exact ⟨hkept, fun cause herror => Channel.cause_of_refused (hcause cause herror)⟩

/-- So it is with flushing, to which there is an answer of its own. -/
theorem answers_flush {o : Outlet} (h : o.channel.AnswersWith refusals flushes) :
    o.flush.2.channel.AnswersWith refusals flushes ∧
      ∀ cause, o.flush.1 = some cause →
        refusals (some cause) ∨ cause = .nothingTaken ∨ flushes (some cause) := by
  have hready : Ends (Channel.AnswersWith refusals flushes)
      (if o.byLine then o.drain else (none, o)) := by
    split
    · exact ends_drain Channel.keeps_answersWith h
    · exact .well h
  unfold flush
  rcases hr : (if o.byLine then o.drain else (none, o)) with ⟨_ | cause, mid⟩
  · rw [hr] at hready
    refine ⟨hready.1, fun cause hcause => .inr (.inr ?_)⟩
    have hanswer := (hready.1 mid.channel.toSpell List.mem_cons_self).2
    exact hcause ▸ hanswer
  · rw [hr] at hready
    refine ⟨hready.1, fun error herror => ?_⟩
    rcases Channel.cause_of_refused (hready.2 error herror) with hrefusal | hnothing
    · exact .inl hrefusal
    · exact .inr (.inl hnothing)

end answers

end Outlet
end LineShell
