/-
Decoding undone. Bytes that are UTF-8 are the very bytes of the text that is
read from them (`ofText_of_decode?`), so that a text taken from outside can
be handed on as it came. And a text is what is read from its bytes
(`lossy_ofText`): whatever is written can be read again.

# The spelling of a character

A character beyond ASCII is spelled by a first byte, which holds a mark of
how many are to follow and the bits that do not fit into those, and by six
bits in each of the others (`spelling`). What the decoder has begun is such
a spelling without its last bytes (`Begun.BegunWith`), and the range of codes
that it can still come to has one length of spelling (`HasSize`). Each byte
that is read goes to the end of the spelling (`spelling_succ`); the last one
makes it that of the character. For the decoder this is an invariant as long
as it replaces nothing (`Decoder.IsCopyOf`).
-/
import LineShell.Proofs.Decoding

namespace LineShell.Utf8

/-- The last bytes of a character, behind the one that begins it. -/
def tailOf : Nat → Nat → Bytes
  | 0, _ => []
  | count + 1, bits => tailOf count (bits / 64) ++ [UInt8.ofNat (bits % 64 + 128)]

/-- What marks the first byte of a character with so many bytes behind it. -/
def leadMark : Nat → Nat
  | 1 => 0xC0
  | 2 => 0xE0
  | _ => 0xF0

/-- A character that has begun with these bytes, the last so many of them
behind the first. -/
def spelling (size count bits : Nat) : Bytes :=
  UInt8.ofNat (leadMark size + bits / 64 ^ count) :: tailOf count bits

/-- The codes of the characters with so many bytes behind the first. -/
def HasSize (size code : Nat) : Prop :=
  size = 1 ∧ 0x80 ≤ code ∧ code < 0x800 ∨ size = 2 ∧ 0x800 ≤ code ∧ code < 0x10000 ∨
    size = 3 ∧ 0x10000 ≤ code ∧ code < 0x110000

instance (size code : Nat) : Decidable (HasSize size code) :=
  inferInstanceAs (Decidable (_ ∨ _ ∨ _))

/-- A size that the ends of a range have, all between them have. -/
theorem HasSize.between {size low code high : Nat} (hlow : HasSize size low)
    (hhigh : HasSize size high) (h : low ≤ code) (h' : code ≤ high) : HasSize size code := by
  unfold HasSize at *
  omega

/-- The bytes of a character are its spelling. -/
theorem utf8EncodeChar_of_hasSize {size code : Nat} (h : HasSize size code)
    (hvalid : code.isValidChar) :
    String.utf8EncodeChar (Char.ofNat code) = spelling size size code := by
  have hcode : (Char.ofNat code).val.toNat = code := toNat_ofNat_of_valid hvalid
  unfold String.utf8EncodeChar
  rw [hcode]
  rcases h with ⟨rfl, hlow, hhigh⟩ | ⟨rfl, hlow, hhigh⟩ | ⟨rfl, hlow, hhigh⟩
  · rw [if_neg (by omega), if_pos (by omega), Nat.mod_eq_of_lt (by omega)]
    simp [spelling, leadMark, tailOf, Nat.add_comm]
  · rw [if_neg (by omega), if_neg (by omega), if_pos (by omega),
      Nat.mod_eq_of_lt (a := code / 4096) (by omega)]
    simp [spelling, leadMark, tailOf, Nat.add_comm]
  · rw [if_neg (by omega), if_neg (by omega), if_neg (by omega),
      Nat.mod_eq_of_lt (a := code / 262144) (by omega)]
    simp [spelling, leadMark, tailOf, Nat.add_comm, Nat.div_div_eq_div_mul]

/-- A further byte is spelled behind the others. -/
theorem spelling_succ (size count bits : Nat) {byte : UInt8} (hlow : 0x80 ≤ byte.toNat)
    (hhigh : byte.toNat ≤ 0xBF) :
    spelling size (count + 1) (bits * 64 + (byte.toNat - 0x80))
      = spelling size count bits ++ [byte] := by
  have hdiv : (bits * 64 + (byte.toNat - 0x80)) / 64 = bits := by omega
  have hmod : (bits * 64 + (byte.toNat - 0x80)) % 64 + 128 = byte.toNat := by omega
  have hlead : (bits * 64 + (byte.toNat - 0x80)) / 64 ^ (count + 1) = bits / 64 ^ count := by
    rw [Nat.pow_succ', ← Nat.div_div_eq_div_mul, hdiv]
  unfold spelling
  rw [hlead, tailOf, hdiv, hmod, UInt8.ofNat_toNat]
  rfl

-- ===================================================== what was begun

namespace Begun

/-- What was begun was begun with these bytes: it will be a character of some
size, and so many of its bytes are there as are not needed. -/
structure BegunWith (pending : Bytes) (b : Begun) : Prop where
  beyond : b.Beyond
  high : b.high.toNat ≤ 0xBF
  spelled : ∃ size count, count + b.needs = size ∧ 1 ≤ b.needs ∧
    pending = spelling size count b.bits ∧ HasSize size b.least ∧ HasSize size b.greatest

/-- A byte that begins a character is the first of its spelling. -/
theorem begunWith_of_ofByte? {byte : UInt8} {b : Begun} (h : ofByte? byte = some b) :
    b.BegunWith [byte] := by
  have hbeyond := beyond_of_ofByte? h
  have hspelled : ∀ size, byte = UInt8.ofNat (leadMark size + b.bits) →
      [byte] = spelling size 0 b.bits := by
    intro size heq
    rw [spelling, Nat.pow_zero, Nat.div_one, ← heq]
    rfl
  unfold ofByte? at h
  simp only [Bool.and_eq_true, decide_eq_true_eq, beq_iff_eq, UInt8.le_iff_toNat_le] at h
  have hback : ∀ mark, mark ≤ byte.toNat → byte = UInt8.ofNat (mark + (byte.toNat - mark)) := by
    intro mark hmark
    rw [Nat.add_sub_cancel' hmark, UInt8.ofNat_toNat]
  split at h
  · rename_i hbyte
    cases h
    have hlow : 0xC2 ≤ byte.toNat := hbyte.1
    have hhigh : byte.toNat ≤ 0xDF := hbyte.2
    refine ⟨hbeyond, by simp, 1, 0, rfl, by simp, hspelled 1 (hback 0xC0 (by omega)), ?_, ?_⟩
    · simp [HasSize, Begun.least]; omega
    · simp [HasSize, greatest]; omega
  split at h
  · rename_i hbyte
    cases h
    exact ⟨hbeyond, by decide, 2, 0, rfl, by decide, hspelled 2 hbyte, by decide, by decide⟩
  split at h
  · rename_i hbyte
    cases h
    exact ⟨hbeyond, by decide, 2, 0, rfl, by decide, hspelled 2 hbyte, by decide, by decide⟩
  split at h
  · rename_i hbyte
    cases h
    have hlow : 0xE1 ≤ byte.toNat := hbyte.1
    have hhigh : byte.toNat ≤ 0xEF := hbyte.2
    refine ⟨hbeyond, by simp, 2, 0, rfl, by simp, hspelled 2 (hback 0xE0 (by omega)), ?_, ?_⟩
    · simp [HasSize, Begun.least]; omega
    · simp [HasSize, greatest]; omega
  split at h
  · rename_i hbyte
    cases h
    exact ⟨hbeyond, by decide, 3, 0, rfl, by decide, hspelled 3 hbyte, by decide, by decide⟩
  split at h
  · rename_i hbyte
    cases h
    exact ⟨hbeyond, by decide, 3, 0, rfl, by decide, hspelled 3 hbyte, by decide, by decide⟩
  split at h
  · rename_i hbyte
    cases h
    have hlow : 0xF1 ≤ byte.toNat := hbyte.1
    have hhigh : byte.toNat ≤ 0xF3 := hbyte.2
    refine ⟨hbeyond, by simp, 3, 0, rfl, by simp, hspelled 3 (hback 0xF0 (by omega)), ?_, ?_⟩
    · simp [HasSize, Begun.least]; omega
    · simp [HasSize, greatest]; omega
  · cases h

/-- A further byte that is not the last joins the spelling. -/
theorem BegunWith.next {pending : Bytes} {b : Begun} (hb : b.BegunWith pending) {byte : UInt8}
    (hlow : b.low ≤ byte) (hhigh : byte ≤ b.high) (hneeds : ¬b.needs ≤ 1) :
    BegunWith (pending ++ [byte])
      ⟨b.needs - 1, 0x80, 0xBF, b.bits * 64 + (byte.toNat - 0x80)⟩ := by
  obtain ⟨size, count, hcount, hsome, rfl, hleast, hgreatest⟩ := hb.spelled
  obtain ⟨hmin, hmax⟩ := bits_mem_range hlow hhigh
  have hbelow : 0x80 ≤ byte.toNat := Nat.le_trans hb.beyond.low hlow
  have habove : byte.toNat ≤ 0xBF := Nat.le_trans hhigh hb.high
  refine ⟨hb.beyond.next hlow hhigh hneeds, by simp, size, count + 1, ?_, ?_,
    (spelling_succ size count b.bits hbelow habove).symm, ?_, ?_⟩
  · show count + 1 + (b.needs - 1) = size
    omega
  · show 1 ≤ b.needs - 1
    omega
  · rw [least_next byte hneeds]
    exact hleast.between hgreatest hmin (by omega)
  · rw [greatest_next byte hneeds]
    exact hleast.between hgreatest (by omega) hmax

/-- The last byte ends the spelling of a character. -/
theorem BegunWith.finished {pending : Bytes} {b : Begun} (hb : b.BegunWith pending) {byte : UInt8}
    (hlow : b.low ≤ byte) (hhigh : byte ≤ b.high) (hneeds : b.needs ≤ 1) :
    String.utf8EncodeChar (Char.ofNat (b.bits * 64 + (byte.toNat - 0x80))) = pending ++ [byte] := by
  obtain ⟨size, count, hcount, hsome, rfl, hleast, hgreatest⟩ := hb.spelled
  obtain ⟨hmin, hmax⟩ := bits_mem_range hlow hhigh
  have hbelow : 0x80 ≤ byte.toNat := Nat.le_trans hb.beyond.low hlow
  have habove : byte.toNat ≤ 0xBF := Nat.le_trans hhigh hb.high
  obtain rfl : size = count + 1 := by omega
  rw [show b.needs - 1 = 0 by omega, Nat.pow_zero, Nat.mul_one] at hmin hmax
  have hvalid : Nat.isValidChar (b.bits * 64 + (byte.toNat - 0x80)) := by
    have hrange := hb.beyond.valid
    unfold Nat.isValidChar
    omega
  rw [utf8EncodeChar_of_hasSize (hleast.between hgreatest hmin (by omega)) hvalid,
    spelling_succ _ count b.bits hbelow habove]

end Begun

-- ============================================================ a whole text

namespace Decoder

/-- A reading of bytes in which nothing was replaced: they are the bytes of
the characters read, and of the one that has begun. -/
def IsCopyOf (bytes : Bytes) (d : Decoder) : Prop :=
  ∃ pending, bytes = d.text.reverse.flatMap String.utf8EncodeChar ++ pending ∧
    match d.begun with
    | none => pending = []
    | some b => b.BegunWith pending

/-- A byte that ends a character. -/
theorem isCopyOf_emit {d : Decoder} {c : Char} {front more : Bytes}
    (h : front = d.text.reverse.flatMap String.utf8EncodeChar)
    (hc : String.utf8EncodeChar c = more) : (d.emit c).IsCopyOf (front ++ more) := by
  refine ⟨[], ?_, rfl⟩
  simp [emit, h, hc]

/-- Where a character has to begin, a byte is copied or replaced. -/
theorem IsCopyOf.first {bytes : Bytes} {d : Decoder} (hd : d.IsCopyOf bytes)
    (hbegun : d.begun = none) {byte : UInt8} (hsound : (d.first byte).sound = true) :
    (d.first byte).IsCopyOf (bytes ++ [byte]) := by
  obtain ⟨pending, hbytes, hpending⟩ := hd
  rw [hbegun] at hpending
  obtain rfl : pending = [] := hpending
  rw [List.append_nil] at hbytes
  unfold Decoder.first at hsound ⊢
  split
  · rename_i hascii
    have hcode : (Char.ofNat byte.toNat).val.toNat = byte.toNat := toNat_ofNat_of_ascii hascii
    have hsmall : byte.toNat < 0x80 := hascii
    refine isCopyOf_emit hbytes ?_
    unfold String.utf8EncodeChar
    rw [hcode, if_pos (by omega), UInt8.ofNat_toNat]
  · rename_i hascii
    rw [if_neg hascii] at hsound
    split
    · rename_i b hb
      exact ⟨[byte], by rw [hbytes], Begun.begunWith_of_ofByte? hb⟩
    · rename_i hnone
      rw [hnone] at hsound
      cases hsound

/-- A replacement is not forgotten. -/
theorem sound_of_first {d : Decoder} {byte : UInt8} (h : (d.first byte).sound = true) :
    d.sound = true := by
  unfold Decoder.first at h
  split at h
  · exact h
  · split at h
    · exact h
    · cases h

theorem sound_of_step {d : Decoder} {byte : UInt8} (h : (d.step byte).sound = true) :
    d.sound = true := by
  unfold Decoder.step at h
  split at h
  · exact sound_of_first h
  · split at h
    · split at h
      · exact h
      · exact h
    · exact absurd (sound_of_first h) Bool.false_ne_true

/-- Every byte is copied, unless one is replaced. -/
theorem IsCopyOf.step {bytes : Bytes} {d : Decoder} (hd : d.IsCopyOf bytes) {byte : UInt8}
    (hsound : (d.step byte).sound = true) : (d.step byte).IsCopyOf (bytes ++ [byte]) := by
  unfold Decoder.step at hsound ⊢
  split
  · rename_i hnone
    rw [hnone] at hsound
    exact hd.first hnone hsound
  · rename_i b hsome
    obtain ⟨pending, hbytes, hpending⟩ := hd
    rw [hsome] at hpending hsound
    dsimp only at hsound
    split
    · rename_i hrange
      simp only [Bool.and_eq_true, decide_eq_true_eq] at hrange
      dsimp only
      split
      · rename_i hneeds
        have hc := Begun.BegunWith.finished hpending hrange.1 hrange.2 hneeds
        rw [hbytes, List.append_assoc]
        exact isCopyOf_emit rfl hc
      · rename_i hneeds
        refine ⟨pending ++ [byte], by rw [hbytes, List.append_assoc], ?_⟩
        exact Begun.BegunWith.next hpending hrange.1 hrange.2 hneeds
    · rename_i hrange
      -- what was begun is replaced
      rw [if_neg hrange] at hsound
      exact absurd (sound_of_first hsound) Bool.false_ne_true

/-- Bytes of which none is replaced are the bytes of the text. -/
theorem isCopyOf_foldl {bytes : Bytes} (h : (bytes.foldl step {}).sound = true) :
    (bytes.foldl step {}).IsCopyOf bytes := by
  induction bytes using List.reverseRecOn with
  | nil => exact ⟨[], rfl, rfl⟩
  | append_singleton bytes byte ih =>
      rw [List.foldl_append, List.foldl_cons, List.foldl_nil] at h ⊢
      exact (ih (sound_of_step h)).step h

end Decoder

/-- The bytes that a text was decoded from are its bytes. -/
theorem ofText_of_decode? {bytes : Bytes} {text : String} (h : decode? bytes = some text) :
    Bytes.ofText text = bytes := by
  unfold decode? Decoder.run Decoder.finish at h
  split at h
  · cases h
  · rename_i hnone
    dsimp only at h
    split at h
    · rename_i hsound
      obtain ⟨pending, hbytes, hpending⟩ := Decoder.isCopyOf_foldl hsound
      rw [Option.not_isSome_iff_eq_none.1 hnone] at hpending
      obtain rfl : pending = [] := hpending
      cases h
      unfold Bytes.ofText
      rw [String.toList_ofList]
      rw [List.append_nil] at hbytes
      exact hbytes.symm
    · cases h

-- ========================================================= read again

/-- The first byte of a spelling is one. -/
theorem toNat_lead {size code : Nat} (h : HasSize size code) :
    (UInt8.ofNat (leadMark size + code / 64 ^ size)).toNat = leadMark size + code / 64 ^ size := by
  rw [UInt8.toNat_ofNat']
  refine Nat.mod_eq_of_lt ?_
  rcases h with ⟨rfl, hlow, hhigh⟩ | ⟨rfl, hlow, hhigh⟩ | ⟨rfl, hlow, hhigh⟩
  all_goals
    simp only [leadMark]
    omega

namespace Begun

/-- It begins the character, and the byte behind it is one that may follow:
the narrowed ranges leave out no character. -/
theorem ofByte?_lead {size code : Nat} (h : HasSize size code) (hvalid : code.isValidChar) :
    ∃ low high, ofByte? (UInt8.ofNat (leadMark size + code / 64 ^ size))
        = some ⟨size, low, high, code / 64 ^ size⟩ ∧
      low.toNat ≤ code / 64 ^ (size - 1) % 64 + 0x80 ∧
      code / 64 ^ (size - 1) % 64 + 0x80 ≤ high.toNat := by
  have hbyte := toNat_lead h
  generalize UInt8.ofNat (leadMark size + code / 64 ^ size) = byte at hbyte
  unfold Nat.isValidChar at hvalid
  unfold ofByte?
  simp only [Bool.and_eq_true, decide_eq_true_eq, beq_iff_eq, UInt8.le_iff_toNat_le,
    ← UInt8.toNat_inj, UInt8.reduceToNat, hbyte]
  rcases h with ⟨rfl, hlow, hhigh⟩ | ⟨rfl, hlow, hhigh⟩ | ⟨rfl, hlow, hhigh⟩
  · simp only [leadMark, Nat.pow_one, Nat.sub_self, Nat.pow_zero, Nat.div_one]
    rw [if_pos (by omega), Nat.add_sub_cancel_left]
    exact ⟨_, _, rfl, Nat.le_add_left _ _, by show _ ≤ 191; omega⟩
  · simp only [leadMark, Nat.reducePow, Nat.reduceSub]
    rw [if_neg (by omega)]
    by_cases hfirst : code < 0x1000
    · rw [if_pos (by omega)]
      exact ⟨_, _, by rw [Nat.div_eq_of_lt hfirst], by show 160 ≤ _; omega, by show _ ≤ 191; omega⟩
    by_cases hsurrogate : 0xD000 ≤ code ∧ code < 0xE000
    · have hlead : code / 4096 = 13 := by omega
      rw [if_neg (by omega), if_pos (by omega)]
      exact ⟨_, _, by rw [hlead], by show 128 ≤ _; omega, by show _ ≤ 159; omega⟩
    · rw [if_neg (by omega), if_neg (by omega), if_pos (by omega), Nat.add_sub_cancel_left]
      exact ⟨_, _, rfl, by show 128 ≤ _; omega, by show _ ≤ 191; omega⟩
  · simp only [leadMark, Nat.reducePow, Nat.reduceSub]
    rw [if_neg (by omega), if_neg (by omega), if_neg (by omega), if_neg (by omega)]
    by_cases hfirst : code < 0x40000
    · rw [if_pos (by omega)]
      exact ⟨_, _, by rw [Nat.div_eq_of_lt hfirst], by show 144 ≤ _; omega, by show _ ≤ 191; omega⟩
    by_cases hlast : 0x100000 ≤ code
    · have hlead : code / 262144 = 4 := by omega
      rw [if_neg (by omega), if_pos (by omega)]
      exact ⟨_, _, by rw [hlead], by show 128 ≤ _; omega, by show _ ≤ 143; omega⟩
    · rw [if_neg (by omega), if_neg (by omega), if_pos (by omega), Nat.add_sub_cancel_left]
      exact ⟨_, _, rfl, by show 128 ≤ _; omega, by show _ ≤ 191; omega⟩
end Begun

namespace Decoder

variable {d : Decoder} {b : Begun} {byte : UInt8}

/-- A byte that may follow joins what was begun, -/
theorem step_more (hbegun : d.begun = some b) (hlow : b.low.toNat ≤ byte.toNat)
    (hhigh : byte.toNat ≤ b.high.toNat) (hneeds : ¬b.needs ≤ 1) :
    d.step byte
      = { d with begun := some ⟨b.needs - 1, 0x80, 0xBF, b.bits * 64 + (byte.toNat - 0x80)⟩ } := by
  have hrange : (b.low ≤ byte && byte ≤ b.high) = true := by
    simp [UInt8.le_iff_toNat_le, hlow, hhigh]
  unfold step
  rw [hbegun]
  dsimp only
  rw [if_pos hrange, if_neg hneeds]

/-- or ends it. -/
theorem step_last (hbegun : d.begun = some b) (hlow : b.low.toNat ≤ byte.toNat)
    (hhigh : byte.toNat ≤ b.high.toNat) (hneeds : b.needs ≤ 1) :
    d.step byte = d.emit (Char.ofNat (b.bits * 64 + (byte.toNat - 0x80))) := by
  have hrange : (b.low ≤ byte && byte ≤ b.high) = true := by
    simp [UInt8.le_iff_toNat_le, hlow, hhigh]
  unfold step
  rw [hbegun]
  dsimp only
  rw [if_pos hrange, if_pos hneeds]

theorem toNat_tail (bits : Nat) : (UInt8.ofNat (bits % 64 + 128)).toNat = bits % 64 + 128 := by
  rw [UInt8.toNat_ofNat']
  exact Nat.mod_eq_of_lt (by omega)

/-- Bytes of a character that are not its last join what was begun. -/
theorem foldl_step_tailOf {count more bits : Nat} {low high : UInt8} (hmore : 1 ≤ more)
    (hbegun : d.begun = some ⟨count + 1 + more, low, high, bits / 64 ^ (count + 1)⟩)
    (hlow : low.toNat ≤ bits / 64 ^ count % 64 + 0x80)
    (hhigh : bits / 64 ^ count % 64 + 0x80 ≤ high.toNat) :
    (tailOf (count + 1) bits).foldl step d = { d with begun := some ⟨more, 0x80, 0xBF, bits⟩ } := by
  have hjoin : bits / 64 * 64 + (bits % 64 + 128 - 0x80) = bits := by omega
  have hbyte := toNat_tail bits
  induction count generalizing bits more with
  | zero =>
      rw [Nat.pow_zero, Nat.div_one] at hlow hhigh
      show d.step (UInt8.ofNat (bits % 64 + 128)) = _
      rw [step_more hbegun (by rwa [hbyte]) (by rwa [hbyte]) (by dsimp only; omega), hbyte]
      dsimp only
      rw [Nat.pow_one, hjoin, show 0 + 1 + more - 1 = more by omega]
  | succ count ih =>
      have hpow : ∀ k, bits / 64 / 64 ^ k = bits / 64 ^ (k + 1) := by
        intro k
        rw [Nat.div_div_eq_div_mul, ← Nat.pow_succ']
      have hfront : (tailOf (count + 1) (bits / 64)).foldl step d
          = { d with begun := some ⟨more + 1, 0x80, 0xBF, bits / 64⟩ } :=
        ih (by omega)
          (by rw [hbegun, hpow, show count + 1 + (more + 1) = count + 1 + 1 + more by omega])
          (by rwa [hpow]) (by rwa [hpow]) (by omega) (toNat_tail _)
      rw [tailOf, List.foldl_append, hfront, List.foldl_cons, List.foldl_nil,
        step_more rfl (by rw [hbyte]; exact Nat.le_add_left _ _)
          (by rw [hbyte]; show _ ≤ 191; omega) (by dsimp only; omega), hbyte]
      dsimp only
      rw [hjoin, Nat.add_sub_cancel]

/-- A character beyond ASCII is read from its spelling. -/
theorem foldl_step_spelling {size code : Nat} (h : HasSize size code) (hvalid : code.isValidChar)
    (hnone : d.begun = none) :
    (spelling size size code).foldl step d = d.emit (Char.ofNat code) := by
  obtain ⟨low, high, hlead, hlow, hhigh⟩ := Begun.ofByte?_lead h hvalid
  have hascii : ¬UInt8.ofNat (leadMark size + code / 64 ^ size) < 0x80 := by
    have hmark : 0x80 ≤ leadMark size := by
      unfold leadMark
      split <;> decide
    rw [UInt8.lt_iff_toNat_lt, toNat_lead h]
    exact Nat.not_lt.2 (Nat.le_add_right_of_le hmark)
  have hfirst : d.step (UInt8.ofNat (leadMark size + code / 64 ^ size))
      = { d with begun := some ⟨size, low, high, code / 64 ^ size⟩ } := by
    unfold step
    rw [hnone]
    unfold first
    rw [if_neg hascii, hlead]
  have hbyte := toNat_tail code
  have hjoin : code / 64 * 64 + (code % 64 + 128 - 0x80) = code := by omega
  obtain ⟨count, rfl⟩ : ∃ count, size = count + 1 := by
    unfold HasSize at h
    exact ⟨size - 1, by omega⟩
  rw [spelling, List.foldl_cons, hfirst]
  rw [Nat.add_sub_cancel] at hlow hhigh
  rw [tailOf, List.foldl_append, List.foldl_cons, List.foldl_nil]
  cases count with
  | zero =>
      rw [Nat.pow_zero, Nat.div_one] at hlow hhigh
      rw [tailOf, List.foldl_nil, step_last rfl (by rw [hbyte]; exact hlow)
        (by rw [hbyte]; exact hhigh) (Nat.le_refl _), hbyte]
      dsimp only
      rw [Nat.pow_one, hjoin]
      rfl
  | succ count =>
      have hpow : ∀ k, code / 64 / 64 ^ k = code / 64 ^ (k + 1) := by
        intro k
        rw [Nat.div_div_eq_div_mul, ← Nat.pow_succ']
      have hfront (e : Decoder) (he : e.begun
            = some ⟨count + 1 + 1, low, high, code / 64 ^ (count + 1 + 1)⟩) :
          (tailOf (count + 1) (code / 64)).foldl step e
            = { e with begun := some ⟨1, 0x80, 0xBF, code / 64⟩ } :=
        foldl_step_tailOf (Nat.le_refl 1) (by rw [he, hpow]) (by rwa [hpow]) (by rwa [hpow])
      rw [hfront _ rfl, step_last rfl (by rw [hbyte]; exact Nat.le_add_left _ _)
          (by rw [hbyte]; show _ ≤ 191; omega) (Nat.le_refl _), hbyte]
      dsimp only
      rw [hjoin]
      rfl

/-- Every character is read from its bytes. -/
theorem foldl_step_char (c : Char) (hnone : d.begun = none) :
    (String.utf8EncodeChar c).foldl step d = d.emit c := by
  have hc : Char.ofNat c.toNat = c := Char.ofNat_toNat c
  have hvalid : c.toNat.isValidChar := c.valid
  by_cases hascii : c.toNat < 0x80
  · have hbyte : (UInt8.ofNat c.toNat).toNat = c.toNat := by
      rw [UInt8.toNat_ofNat']
      exact Nat.mod_eq_of_lt (by omega)
    have hsmall : UInt8.ofNat c.toNat < 0x80 := by
      rw [UInt8.lt_iff_toNat_lt, hbyte]
      exact hascii
    have hbytes : String.utf8EncodeChar c = [UInt8.ofNat c.toNat] := by
      unfold String.utf8EncodeChar
      exact if_pos (Nat.le_of_lt_succ hascii)
    rw [hbytes, List.foldl_cons, List.foldl_nil]
    unfold step first
    rw [hnone, if_pos hsmall, hbyte, hc]
  · obtain ⟨size, hsize⟩ : ∃ size, HasSize size c.toNat := by
      unfold Nat.isValidChar at hvalid
      by_cases h2 : c.toNat < 0x800
      · exact ⟨1, .inl ⟨rfl, by omega, h2⟩⟩
      by_cases h3 : c.toNat < 0x10000
      · exact ⟨2, .inr (.inl ⟨rfl, by omega, h3⟩)⟩
      · exact ⟨3, .inr (.inr ⟨rfl, by omega, by omega⟩)⟩
    rw [← hc, utf8EncodeChar_of_hasSize hsize hvalid, foldl_step_spelling hsize hvalid hnone]

theorem foldl_step_text (text : List Char) (hnone : d.begun = none) :
    (text.flatMap String.utf8EncodeChar).foldl step d
      = { d with text := text.reverse ++ d.text } := by
  induction text generalizing d with
  | nil => rfl
  | cons c text ih =>
      rw [List.flatMap_cons, List.foldl_append, foldl_step_char c hnone, ih rfl]
      simp [emit, hnone]

end Decoder

/-- A text is read from its bytes, and nothing of it is replaced. -/
theorem lossy_ofText (text : String) : lossy (Bytes.ofText text) = text := by
  unfold lossy Decoder.run Bytes.ofText
  rw [Decoder.foldl_step_text text.toList rfl]
  simp [Decoder.finish]

theorem decode?_ofText (text : String) : decode? (Bytes.ofText text) = some text := by
  unfold decode? Decoder.run Bytes.ofText
  rw [Decoder.foldl_step_text text.toList rfl]
  simp [Decoder.finish]

/-- The bytes of a text are the only ones that it is decoded from. -/
theorem decode?_eq_some_iff {bytes : Bytes} {text : String} :
    decode? bytes = some text ↔ bytes = Bytes.ofText text := by
  refine ⟨fun h => (ofText_of_decode? h).symm, ?_⟩
  rintro rfl
  exact decode?_ofText text

end LineShell.Utf8

theorem LineShell.Bytes.ofText_injective : Function.Injective ofText := by
  intro text other h
  rw [← Utf8.lossy_ofText text, h, Utf8.lossy_ofText]

/-- The bytes of two texts, one behind the other. -/
theorem LineShell.Bytes.ofText_append (text more : String) :
    ofText (text ++ more) = ofText text ++ ofText more := by
  simp [ofText]

theorem LineShell.Bytes.ofText_join (pieces : List String) :
    ofText (String.join pieces) = (pieces.map ofText).flatten := by
  induction pieces with
  | nil => rfl
  | cons piece pieces ih =>
      rw [String.join_cons, ofText_append, ih, List.map_cons, List.flatten_cons]

theorem LineShell.Bytes.ofText_ne_nil {text : String} (h : text ≠ "") : ofText text ≠ [] := by
  intro hnil
  have htext := Utf8.lossy_ofText text
  rw [hnil] at htext
  exact h htext.symm
