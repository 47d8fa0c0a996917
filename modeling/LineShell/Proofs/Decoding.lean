/-
Bytes that are decoded in parts. An ASCII byte ends what was begun before
it and is a character of its own, so the text of bytes around an ASCII
byte is the text in front of it, the character, and the text behind it
(`toList_lossy_append`). This is so for any bytes; what is not UTF-8 on one
side is replaced there and takes nothing from the other.

# What a character comes from

No character of ASCII comes from anything but its own byte
(`mem_lossy_iff`). What a byte beyond ASCII begins has a least and a
greatest code that it can still become (`Begun.least`, `Begun.greatest`).
Each further byte narrows this range, and for every byte that begins a
character it lies beyond ASCII and has no code in it that is none
(`Begun.Beyond`). This is the invariant of the decoder.
-/
import LineShell.Text.Utf8
import Mathlib.Algebra.Group.Nat.Defs
import Mathlib.Data.List.Induction

namespace LineShell.Utf8

/-- The character of a code has that code. -/
theorem toNat_ofNat_of_valid {code : Nat} (h : code.isValidChar) :
    (Char.ofNat code).toNat = code := by
  unfold Char.ofNat
  rw [dif_pos h]
  rfl

-- ================================================= what has been begun

namespace Begun

/-- The least code that can come of what was begun. -/
def least (b : Begun) : Nat :=
  (b.bits * 64 + (b.low.toNat - 0x80)) * 64 ^ (b.needs - 1)

/-- The greatest code that can come of what was begun. -/
def greatest (b : Begun) : Nat :=
  (b.bits * 64 + (b.high.toNat - 0x80)) * 64 ^ (b.needs - 1) + (64 ^ (b.needs - 1) - 1)

/-- What was begun goes on with bytes beyond ASCII only, and becomes a
character beyond ASCII if it is finished. -/
structure Beyond (b : Begun) : Prop where
  low : 0x80 ≤ b.low.toNat
  least : 0x80 ≤ b.least
  valid : b.greatest < 0xD800 ∨ 0xDFFF < b.least ∧ b.greatest < 0x110000

/-- Every byte that begins a character begins one beyond ASCII. -/
theorem beyond_of_ofByte? {byte : UInt8} {b : Begun} (h : ofByte? byte = some b) :
    b.Beyond := by
  unfold ofByte? at h
  simp only [Bool.and_eq_true, decide_eq_true_eq, beq_iff_eq, UInt8.le_iff_toNat_le] at h
  split at h
  · rename_i hbyte
    cases h
    have hlow : 0xC2 ≤ byte.toNat := hbyte.1
    have hhigh : byte.toNat ≤ 0xDF := hbyte.2
    exact ⟨by simp, by simp [Begun.least]; omega, .inl (by simp [greatest]; omega)⟩
  split at h
  · cases h
    exact ⟨by decide, by decide, .inl (by decide)⟩
  split at h
  · cases h
    exact ⟨by decide, by decide, .inl (by decide)⟩
  split at h
  · rename_i hed hbyte
    cases h
    have hlow : 0xE1 ≤ byte.toNat := hbyte.1
    have hhigh : byte.toNat ≤ 0xEF := hbyte.2
    have hne : byte.toNat ≠ 0xED := fun heq => hed (UInt8.toNat_inj.1 heq)
    refine ⟨by simp, by simp [Begun.least]; omega, ?_⟩
    simp [Begun.least, greatest]
    omega
  split at h
  · cases h
    exact ⟨by decide, by decide, .inr ⟨by decide, by decide⟩⟩
  split at h
  · cases h
    exact ⟨by decide, by decide, .inr ⟨by decide, by decide⟩⟩
  split at h
  · rename_i hbyte
    cases h
    have hlow : 0xF1 ≤ byte.toNat := hbyte.1
    have hhigh : byte.toNat ≤ 0xF3 := hbyte.2
    refine ⟨by simp, by simp [Begun.least]; omega, ?_⟩
    simp [Begun.least, greatest]
    omega
  · cases h

/-- The code that a further byte leads to lies in the range. -/
theorem bits_mem_range {b : Begun} {byte : UInt8} (hlow : b.low ≤ byte)
    (hhigh : byte ≤ b.high) :
    b.least ≤ (b.bits * 64 + (byte.toNat - 0x80)) * 64 ^ (b.needs - 1) ∧
      (b.bits * 64 + (byte.toNat - 0x80)) * 64 ^ (b.needs - 1) + (64 ^ (b.needs - 1) - 1)
        ≤ b.greatest := by
  rw [UInt8.le_iff_toNat_le] at hlow hhigh
  have hbelow : (b.bits * 64 + (b.low.toNat - 0x80)) * 64 ^ (b.needs - 1)
      ≤ (b.bits * 64 + (byte.toNat - 0x80)) * 64 ^ (b.needs - 1) :=
    Nat.mul_le_mul_right _ (by omega)
  have habove : (b.bits * 64 + (byte.toNat - 0x80)) * 64 ^ (b.needs - 1)
      ≤ (b.bits * 64 + (b.high.toNat - 0x80)) * 64 ^ (b.needs - 1) :=
    Nat.mul_le_mul_right _ (by omega)
  exact ⟨hbelow, Nat.add_le_add_right habove _⟩

/-- The range of what a further byte leads to is that of its bits, as many
bytes further. -/
theorem least_next {b : Begun} (byte : UInt8) (hneeds : ¬b.needs ≤ 1) :
    Begun.least ⟨b.needs - 1, 0x80, 0xBF, b.bits * 64 + (byte.toNat - 0x80)⟩
      = (b.bits * 64 + (byte.toNat - 0x80)) * 64 ^ (b.needs - 1) := by
  obtain ⟨n, hn⟩ : ∃ n, b.needs = n + 2 := ⟨b.needs - 2, by omega⟩
  generalize b.bits * 64 + (byte.toNat - 0x80) = bits
  simp only [Begun.least, hn]
  rw [show n + 2 - 1 = n + 1 from rfl, Nat.add_sub_cancel, Nat.pow_succ]
  simp [Nat.mul_assoc, Nat.mul_comm]

theorem greatest_next {b : Begun} (byte : UInt8) (hneeds : ¬b.needs ≤ 1) :
    greatest ⟨b.needs - 1, 0x80, 0xBF, b.bits * 64 + (byte.toNat - 0x80)⟩
      = (b.bits * 64 + (byte.toNat - 0x80)) * 64 ^ (b.needs - 1)
        + (64 ^ (b.needs - 1) - 1) := by
  obtain ⟨n, hn⟩ : ∃ n, b.needs = n + 2 := ⟨b.needs - 2, by omega⟩
  generalize b.bits * 64 + (byte.toNat - 0x80) = bits
  simp only [greatest, hn]
  rw [show n + 2 - 1 = n + 1 from rfl, Nat.add_sub_cancel, Nat.pow_succ]
  have hpow : 0 < 64 ^ n := Nat.pow_pos (by decide)
  have hmul : bits * (64 ^ n * 64) = bits * 64 * 64 ^ n := by
    rw [Nat.mul_comm (64 ^ n), Nat.mul_assoc]
  rw [hmul, Nat.add_mul]
  simp
  omega

/-- A further byte narrows the range. -/
theorem Beyond.next {b : Begun} (hb : b.Beyond) {byte : UInt8} (hlow : b.low ≤ byte)
    (hhigh : byte ≤ b.high) (hneeds : ¬b.needs ≤ 1) :
    Beyond ⟨b.needs - 1, 0x80, 0xBF, b.bits * 64 + (byte.toNat - 0x80)⟩ := by
  obtain ⟨hleast, hgreatest⟩ := bits_mem_range hlow hhigh
  have hrange := hb.least
  have hvalid := hb.valid
  refine ⟨by simp, ?_, ?_⟩
  · rw [least_next byte hneeds]
    omega
  · rw [least_next byte hneeds, greatest_next byte hneeds]
    omega

/-- The last byte makes a character beyond ASCII. -/
theorem Beyond.finished {b : Begun} (hb : b.Beyond) {byte : UInt8} (hlow : b.low ≤ byte)
    (hhigh : byte ≤ b.high) (hneeds : b.needs ≤ 1) :
    0x80 ≤ (Char.ofNat (b.bits * 64 + (byte.toNat - 0x80))).toNat := by
  obtain ⟨hleast, hgreatest⟩ := bits_mem_range hlow hhigh
  rw [show b.needs - 1 = 0 by omega] at hleast hgreatest
  have hrange := hb.least
  have hvalid := hb.valid
  have hchar : Nat.isValidChar (b.bits * 64 + (byte.toNat - 0x80)) := by
    unfold Nat.isValidChar
    omega
  rw [toNat_ofNat_of_valid hchar]
  omega

end Begun

-- ===================================================== steps of the decoder

namespace Decoder

/-- What the decoder has begun can only become a character beyond ASCII. -/
def BeginsBeyond (d : Decoder) : Prop :=
  ∀ b, d.begun = some b → b.Beyond

/-- A character beyond ASCII, or the one of an ASCII byte. -/
def ComesFrom (byte : UInt8) (c : Char) : Prop :=
  0x80 ≤ c.toNat ∨ byte < 0x80 ∧ c = Char.ofNat byte.toNat

theorem beginsBeyond_of_none {d : Decoder} (h : d.begun = none) : d.BeginsBeyond := by
  intro b hb
  rw [h] at hb
  cases hb

/-- What a byte adds to a reading: characters that come from it. There is
one at least, unless the byte belongs to what is begun after it. -/
def Adds (byte : UInt8) (d d' : Decoder) : Prop :=
  d'.BeginsBeyond ∧
    ∃ new, d'.text = new ++ d.text ∧ (∀ c ∈ new, ComesFrom byte c) ∧
      (d'.begun = none → new ≠ [])

/-- A byte that ends in a character beyond ASCII. -/
theorem adds_char {byte : UInt8} {d d' : Decoder} {c : Char} (hbegun : d'.begun = none)
    (htext : d'.text = c :: d.text) (hc : ComesFrom byte c) : Adds byte d d' := by
  refine ⟨beginsBeyond_of_none hbegun, [c], htext, ?_, fun _ => by simp⟩
  intro c' hc'
  rw [List.mem_singleton.1 hc']
  exact hc

/-- A byte that belongs to what is begun after it. -/
theorem adds_nothing {byte : UInt8} {d d' : Decoder} {b : Begun} (hbegun : d'.begun = some b)
    (htext : d'.text = d.text) (hb : b.Beyond) : Adds byte d d' := by
  refine ⟨?_, [], htext, by simp, fun hnone => ?_⟩
  · intro b' hb'
    rw [hbegun] at hb'
    cases hb'
    exact hb
  · rw [hbegun] at hnone
    cases hnone

/-- Where a character has to begin, a byte makes a character or begins one. -/
theorem adds_first (d : Decoder) (byte : UInt8) : Adds byte d (d.first byte) := by
  unfold first
  split
  · rename_i hascii
    exact adds_char rfl rfl (.inr ⟨hascii, rfl⟩)
  · split
    · rename_i b hb
      exact adds_nothing rfl rfl (Begun.beyond_of_ofByte? hb)
    · exact adds_char rfl rfl (.inl (by decide))

/-- So does every byte. -/
theorem adds_step {d : Decoder} (hd : d.BeginsBeyond) (byte : UInt8) :
    Adds byte d (d.step byte) := by
  unfold step
  split
  · exact adds_first d byte
  · rename_i b hsome
    have hb := hd b hsome
    split
    · rename_i hrange
      simp only [Bool.and_eq_true, decide_eq_true_eq] at hrange
      dsimp only
      split
      · rename_i hneeds
        exact adds_char rfl rfl (.inl (hb.finished hrange.1 hrange.2 hneeds))
      · rename_i hneeds
        exact adds_nothing rfl rfl (hb.next hrange.1 hrange.2 hneeds)
    · -- what was begun is replaced, and the byte begins anew
      obtain ⟨hbegins, new, htext, hnew, hsome⟩ := adds_first d.replace byte
      refine ⟨hbegins, new ++ [replacement], by rw [htext]; simp [replace], ?_, fun _ => by simp⟩
      intro c hc
      rcases List.mem_append.1 hc with hc | hc
      · exact hnew c hc
      · rw [List.mem_singleton.1 hc]
        exact .inl (by decide)

/-- An ASCII byte ends what was begun and is a character of its own. -/
theorem step_of_ascii {d : Decoder} (hd : d.BeginsBeyond) {byte : UInt8} (h : byte < 0x80) :
    d.step byte = d.finish.emit (Char.ofNat byte.toNat) := by
  unfold step finish
  split
  · rename_i hnone
    simp [first, h, hnone]
  · rename_i b hsome
    have hlow := (hd b hsome).low
    have hout : ¬(b.low ≤ byte && byte ≤ b.high) = true := by
      rw [UInt8.lt_iff_toNat_lt] at h
      have h : byte.toNat < 0x80 := h
      simp only [Bool.and_eq_true, decide_eq_true_eq, UInt8.le_iff_toNat_le]
      omega
    rw [if_neg hout]
    simp [first, h, hsome]

-- ===================================================== runs of the decoder

/-- A reading that goes on behind another one. -/
def behind (front d : Decoder) : Decoder where
  begun := d.begun
  text := d.text ++ front.text
  sound := d.sound && front.sound

theorem behind_of_begun_none {front : Decoder} (h : front.begun = none) :
    behind front {} = front := by
  rcases front with ⟨begun, text, sound⟩
  simp only at h
  simp [behind, h]

theorem step_behind (front d : Decoder) (byte : UInt8) :
    (behind front d).step byte = behind front (d.step byte) := by
  rcases d with ⟨_ | b, text, sound⟩
  · simp only [step, behind, first]
    split
    · rfl
    · split
      · rfl
      · rfl
  · simp only [step, behind]
    split
    · split
      · rfl
      · rfl
    · simp only [first, replace]
      split
      · rfl
      · split
        · rfl
        · rfl

theorem foldl_step_behind (front d : Decoder) (bytes : Bytes) :
    bytes.foldl step (behind front d) = behind front (bytes.foldl step d) := by
  induction bytes generalizing d with
  | nil => rfl
  | cons byte bytes ih => rw [List.foldl_cons, step_behind, ih, List.foldl_cons]

theorem finish_behind (front d : Decoder) :
    (behind front d).finish = behind front d.finish := by
  unfold finish
  split
  · rename_i h
    rw [if_pos (show d.begun.isSome = true from h)]
    rfl
  · rename_i h
    rw [if_neg (show ¬d.begun.isSome = true from h)]

/-- What a decoder has read comes from the bytes that it was given. -/
theorem foldl_step_spec (bytes : Bytes) :
    (bytes.foldl step {}).BeginsBeyond ∧
      ∀ c ∈ (bytes.foldl step {}).text, 0x80 ≤ c.toNat ∨ ∃ byte ∈ bytes, ComesFrom byte c := by
  -- from the last byte on, since a step is described by what it adds
  induction bytes using List.reverseRecOn with
  | nil => exact ⟨beginsBeyond_of_none rfl, by simp⟩
  | append_singleton bytes byte ih =>
      obtain ⟨hbegins, htext⟩ := ih
      obtain ⟨hbegins', new, htext', hnew, -⟩ := adds_step hbegins byte
      rw [List.foldl_append, List.foldl_cons, List.foldl_nil]
      refine ⟨hbegins', fun c hc => ?_⟩
      rw [htext'] at hc
      rcases List.mem_append.1 hc with hc | hc
      · exact .inr ⟨byte, by simp, hnew c hc⟩
      · refine (htext c hc).imp_right ?_
        rintro ⟨other, hother, hcomes⟩
        exact ⟨other, by simp [hother], hcomes⟩

/-- At the end of the bytes nothing is added but a replacement. -/
theorem run_spec (bytes : Bytes) :
    ∀ c ∈ (run bytes).text, 0x80 ≤ c.toNat ∨ ∃ byte ∈ bytes, ComesFrom byte c := by
  intro c hc
  unfold run finish at hc
  split at hc
  · rcases List.mem_cons.1 hc with rfl | hc
    · exact .inl (by decide)
    · exact (foldl_step_spec bytes).2 c hc
  · exact (foldl_step_spec bytes).2 c hc

/-- The last character comes from the last byte. -/
theorem run_concat (front : Bytes) (byte : UInt8) :
    ∃ c text, (run (front ++ [byte])).text = c :: text ∧ ComesFrom byte c := by
  obtain ⟨-, new, htext, hnew, hsome⟩ := adds_step (foldl_step_spec front).1 byte
  unfold run finish
  rw [List.foldl_append, List.foldl_cons, List.foldl_nil]
  split
  · exact ⟨replacement, _, rfl, .inl (by decide)⟩
  · rename_i hnone
    cases new with
    | nil => exact absurd rfl (hsome (by simpa using hnone))
    | cons c new => exact ⟨c, new ++ _, htext, hnew c List.mem_cons_self⟩

/-- An ASCII byte keeps what is in front of it apart from what is behind. -/
theorem run_append (front back : Bytes) {byte : UInt8} (h : byte < 0x80) :
    run (front ++ byte :: back)
      = behind ((run front).emit (Char.ofNat byte.toNat)) (run back) := by
  have hstep := step_of_ascii (foldl_step_spec front).1 h
  unfold run
  rw [List.foldl_append, List.foldl_cons, hstep, ← finish_behind, ← foldl_step_behind,
    behind_of_begun_none rfl]

end Decoder

-- ============================================================ texts of bytes

/-- The text around an ASCII byte is that of the bytes around it. -/
theorem toList_lossy_append (front back : Bytes) {byte : UInt8} (h : byte < 0x80) :
    (lossy (front ++ byte :: back)).toList
      = (lossy front).toList ++ Char.ofNat byte.toNat :: (lossy back).toList := by
  unfold lossy
  rw [Decoder.run_append front back h]
  simp [Decoder.behind, Decoder.emit]

/-- The text of bytes ends in a character of their last byte. -/
theorem toList_lossy_concat (front : Bytes) (byte : UInt8) :
    ∃ text c, (lossy (front ++ [byte])).toList = text ++ [c] ∧ Decoder.ComesFrom byte c := by
  obtain ⟨c, text, htext, hc⟩ := Decoder.run_concat front byte
  refine ⟨text.reverse, c, ?_, hc⟩
  unfold lossy
  rw [htext, String.toList_ofList, List.reverse_cons]

theorem toNat_ofNat_of_ascii {byte : UInt8} (h : byte < 0x80) :
    (Char.ofNat byte.toNat).toNat = byte.toNat := by
  rw [UInt8.lt_iff_toNat_lt] at h
  have h : byte.toNat < 0x80 := h
  refine toNat_ofNat_of_valid ?_
  unfold Nat.isValidChar
  omega

/-- A character of ASCII is in the text of bytes if its byte is one of them. -/
theorem mem_lossy_iff (bytes : Bytes) {byte : UInt8} (h : byte < 0x80) :
    Char.ofNat byte.toNat ∈ (lossy bytes).toList ↔ byte ∈ bytes := by
  have hcode := toNat_ofNat_of_ascii h
  have hsmall : byte.toNat < 0x80 := h
  constructor
  · intro hmem
    unfold lossy at hmem
    rw [String.toList_ofList, List.mem_reverse] at hmem
    rcases Decoder.run_spec bytes _ hmem with hbeyond | ⟨other, hother, hbeyond | ⟨hascii, heq⟩⟩
    · omega
    · omega
    · have hsame : byte.toNat = other.toNat := by
        rw [← hcode, heq, toNat_ofNat_of_ascii hascii]
      rw [UInt8.toNat_inj.1 hsame]
      exact hother
  · intro hmem
    obtain ⟨front, back, rfl⟩ := List.append_of_mem hmem
    rw [toList_lossy_append front back h]
    simp

end LineShell.Utf8
