/-
How much of what is written a channel receives, if it has room for so
many bytes. It does not matter how many bytes it takes at a time, as long
as that is at least one: what is written is received up to the room that
there is, and the room shrinks by that (`Channel.Absorbs`).

# Full channels

A refused byte means that the channel is full, and to a full channel it
makes no difference whether more is written or not. So the pieces of a
print may be treated as if all of them had been written, although the ones
behind a refused one never are. What a channel answers is told by the room
alone as well (`Channel.cause_offer`, `Outlet.Plain.cause_print`).
-/
import LineShell.Proofs.Flushing

namespace LineShell

-- ============================================================== channels

namespace Channel

/-- The beginning of bytes that there is room for. -/
def fitting (bytes : Bytes) (c : Channel) : Bytes :=
  match c.room with
  | some room => bytes.take room
  | none => bytes

/-- No more is taken of an offer than there is room for. -/
theorem length_accepts_le {c : Channel} {room : Nat} (hroom : c.room = some room) (bytes : Bytes) :
    (c.accepts bytes).length ≤ room := by
  simp only [accepts, hroom]
  exact List.length_take_le _ _

/-- A channel has come to another by bytes that were written to it, of
which it has received what it had room for. -/
structure Absorbs (c : Channel) (bytes : Bytes) (c' : Channel) : Prop where
  received : c'.received = c.received ++ c.fitting bytes
  room : c'.room = c.room.map (· - bytes.length)
  portion : c'.portion = c.portion
  refusal : c'.refusal = c.refusal
  later : c'.later = c.later

namespace Absorbs

variable {c c' c'' : Channel} {bytes more : Bytes}

theorem nothing (c : Channel) : c.Absorbs [] c := by
  refine ⟨?_, ?_, rfl, rfl, rfl⟩
  · cases hroom : c.room with
    | none => simp [fitting, hroom]
    | some room => simp [fitting, hroom]
  · cases hroom : c.room with
    | none => rfl
    | some room => rfl

theorem append (h : c.Absorbs bytes c') (h' : c'.Absorbs more c'') :
    c.Absorbs (bytes ++ more) c'' := by
  refine ⟨?_, ?_, h'.portion.trans h.portion, h'.refusal.trans h.refusal,
    h'.later.trans h.later⟩
  · rw [h'.received, h.received, List.append_assoc]
    unfold fitting
    rw [h.room]
    cases c.room with
    | none => rfl
    | some room => exact congrArg (c.received ++ ·) List.take_append.symm
  · rw [h'.room, h.room, List.length_append]
    cases c.room with
    | none => rfl
    | some room =>
        rw [Option.map_some, Option.map_some, Option.map_some, Nat.sub_sub]

/-- To a full channel anything may be written. -/
theorem of_full (hroom : c.room = some 0) (bytes : Bytes) : c.Absorbs bytes c := by
  refine ⟨?_, ?_, rfl, rfl, rfl⟩
  · simp [fitting, hroom]
  · simp [hroom]

/-- Of an offer a channel takes a beginning for which it has room. -/
theorem of_accepts (h : c.accepts bytes = more) : c.Absorbs more (c.take more) := by
  refine ⟨?_, rfl, rfl, rfl, rfl⟩
  rw [received_take]
  cases hroom : c.room with
  | none => simp [fitting, hroom]
  | some room =>
      have hlen : more.length ≤ room := h ▸ length_accepts_le hroom bytes
      simp only [fitting, hroom, List.take_of_length_le hlen]

end Absorbs

/-- Only a full channel refuses bytes, if it takes any at a time. -/
theorem room_of_refused {c : Channel} {byte : UInt8} {more : Bytes} (hportion : c.portion ≠ some 0)
    (h : c.accepts (byte :: more) = []) : c.room = some 0 := by
  unfold accepts at h
  rcases hp : c.portion with _ | _ | portion
  · rcases hroom : c.room with _ | _ | room
    · simp [hp, hroom] at h
    · rfl
    · simp [hp, hroom] at h
  · exact absurd hp hportion
  · rcases hroom : c.room with _ | _ | room
    · simp [hp, hroom] at h
    · rfl
    · simp [hp, hroom] at h

/-- What a full channel answers to more bytes. -/
def fullAnswer (c : Channel) : SystemError :=
  c.refusal.getD .nothingTaken

theorem answer_of_full {c : Channel} (hroom : c.room = some 0) : c.answer = c.fullAnswer := by
  unfold answer
  rw [if_pos hroom]
  rfl

/-- An offer succeeds if there is room for all of it, and is else answered
as by a full channel. -/
theorem cause_offer {c : Channel} {room : Nat} (hportion : c.portion ≠ some 0)
    (hroom : c.room = some room) (bytes : Bytes) :
    (c.offer bytes).1 = if bytes.length ≤ room then none else some c.fullAnswer := by
  fun_induction offer bytes c generalizing room with
  | case1 c => simp
  | case2 c byte more hrefused =>
      have hfull := room_of_refused hportion hrefused
      have hzero : room = 0 := Option.some.inj (hroom.symm.trans hfull)
      rw [answer_of_full hfull, if_neg (by simp [hzero])]
  | case3 c byte more first others htaken ih =>
      have htakes := length_accepts_le hroom (byte :: more)
      have hsplit := congrArg List.length (c.accepts_append_drop (byte :: more))
      rw [htaken] at htakes hsplit
      simp only [List.length_append, List.length_cons, List.drop_succ_cons] at htakes hsplit
      have hshrunk : (c.take (first :: others)).room = some (room - (others.length + 1)) := by
        show c.room.map (· - (first :: others).length) = _
        rw [hroom]
        rfl
      rw [ih hportion hshrunk]
      -- the rest fits into the rest of the room if all of it fits
      have hfits : (more.drop others.length).length ≤ room - (others.length + 1)
          ↔ (byte :: more).length ≤ room := by
        rw [List.length_cons]
        omega
      simp only [hfits]
      rfl

/-- In its last spell a channel refuses again what it has refused. -/
theorem afterRefusal_of_last {c : Channel} (h : c.later = []) : c.afterRefusal = c := by
  rw [afterRefusal, h]

/-- An offer is absorbed, and if not all of it was taken the channel is
full. -/
theorem absorbs_offer {c : Channel} (hlast : c.later = []) (hportion : c.portion ≠ some 0)
    (bytes : Bytes) :
    c.Absorbs bytes (c.offer bytes).2.2 ∧
      ((c.offer bytes).1 ≠ none → (c.offer bytes).2.2.room = some 0) := by
  fun_induction offer bytes c with
  | case1 c => exact ⟨.nothing c, fun h => absurd rfl h⟩
  | case2 c byte more hrefused =>
      have hfull := room_of_refused hportion hrefused
      rw [afterRefusal_of_last hlast]
      exact ⟨.of_full hfull _, fun _ => hfull⟩
  | case3 c byte more first others htaken ih =>
      have hsplit := c.accepts_append_drop (byte :: more)
      rw [htaken, List.length_cons, List.drop_succ_cons] at hsplit
      obtain ⟨hrest, hfull⟩ := ih hlast hportion
      have hall := (Absorbs.of_accepts htaken).append hrest
      rw [hsplit] at hall
      exact ⟨hall, hfull⟩

end Channel

-- =============================================================== outlets

namespace Outlet

/-- An outlet that holds nothing back, over a channel that takes at least
one byte at a time and stays full once it is. -/
structure Plain (o : Outlet) : Prop where
  direct : o.byLine = false
  moves : o.channel.portion ≠ some 0
  last : o.channel.later = []

/-- It stays so whatever its channel absorbs. -/
theorem Plain.of_absorbs {o : Outlet} (h : o.Plain) {bytes : Bytes} {c : Channel}
    (habsorbs : o.channel.Absorbs bytes c) : ({ o with channel := c } : Outlet).Plain :=
  ⟨h.direct, by rw [habsorbs.portion]; exact h.moves, habsorbs.later.trans h.last⟩

/-- What is printed is absorbed by the channel, also if the print fails. -/
theorem Plain.print {o : Outlet} (h : o.Plain) (pieces : List Bytes) :
    o.channel.Absorbs pieces.flatten (o.print pieces).2.channel ∧ (o.print pieces).2.Plain := by
  induction pieces generalizing o with
  | nil => exact ⟨.nothing _, h⟩
  | cons piece pieces ih =>
      obtain ⟨habsorbs, hfull⟩ := Channel.absorbs_offer h.last h.moves piece
      rw [List.flatten_cons, Outlet.print, write_of_direct h.direct]
      unfold pass Channel.write
      dsimp only
      have hmid := h.of_absorbs habsorbs
      cases hcause : (o.channel.offer piece).1 with
      | none =>
          obtain ⟨hrest, hplain⟩ := ih hmid
          exact ⟨habsorbs.append hrest, hplain⟩
      | some cause =>
          -- the channel is full, so the other pieces would not have come through
          have hroom := hfull (by simp [hcause])
          exact ⟨habsorbs.append (.of_full hroom _), hmid⟩

/-- A print succeeds if the channel has room for all of it. Else it is
answered as by a full channel, wherever it has come to an end. -/
theorem Plain.cause_print {o : Outlet} (h : o.Plain) {room : Nat}
    (hroom : o.channel.room = some room) (pieces : List Bytes) :
    (o.print pieces).1
      = if pieces.flatten.length ≤ room then none else some o.channel.fullAnswer := by
  induction pieces generalizing o room with
  | nil => simp [Outlet.print]
  | cons piece pieces ih =>
      obtain ⟨habsorbs, -⟩ := Channel.absorbs_offer h.last h.moves piece
      have hcause := Channel.cause_offer h.moves hroom piece
      have hmid := h.of_absorbs habsorbs
      have hshrunk : (o.channel.offer piece).2.2.room = some (room - piece.length) := by
        rw [habsorbs.room, hroom]
        rfl
      have hanswer : (o.channel.offer piece).2.2.fullAnswer = o.channel.fullAnswer := by
        unfold Channel.fullAnswer
        rw [habsorbs.refusal]
      rw [Outlet.print, write_of_direct h.direct, List.flatten_cons, List.length_append]
      unfold pass Channel.write
      dsimp only
      by_cases hfits : piece.length ≤ room
      · rw [if_pos hfits] at hcause
        have hrest : pieces.flatten.length ≤ room - piece.length
            ↔ piece.length + pieces.flatten.length ≤ room := by omega
        rw [hcause]
        show (Outlet.print pieces { o with channel := (o.channel.offer piece).2.2 }).1 = _
        rw [ih hmid hshrunk]
        simp only [hrest, hanswer]
      · rw [if_neg hfits] at hcause
        rw [hcause, if_neg (by omega)]
        rfl

end Outlet
end LineShell
