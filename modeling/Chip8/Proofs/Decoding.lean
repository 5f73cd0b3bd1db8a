import Chip8.Proofs.Words

/-!
# Decoding and unused bits

A word is put together again from its fields, so the word of a decoded instruction is the decoded
one with the bits cleared that its instruction does not use (`Instruction.encode_decode`). Hence
these bits, and no others, make no difference to decoding (`Instruction.decode_inj`).
-/

namespace Chip8

namespace Word

variable (word : UInt16)

theorem ofNibbles_fields :
    ofNibbles (group word).val (x word).val (y word).val (nibble word).val = word := by
  have bound := word.toNat_lt
  apply UInt16.toNat_inj.mp
  simp only [ofNibbles, group, x, y, nibble, Fin.val_ofNat, UInt16.toNat_ofNat']
  omega

theorem ofByte_fields : ofByte (group word).val (x word).val (byte word) = word := by
  have bound := word.toNat_lt
  apply UInt16.toNat_inj.mp
  simp only [ofByte, group, x, byte, Fin.val_ofNat, UInt16.toNat_ofNat', UInt8.toNat_ofNat']
  omega

theorem ofAddress_fields : ofAddress (group word).val (address word) = word := by
  have bound := word.toNat_lt
  apply UInt16.toNat_inj.mp
  simp only [ofAddress, group, address, Fin.val_ofNat, UInt16.toNat_ofNat']
  omega

/-- Masks act on each nibble alone. -/
theorem and_shiftRight_mod (first second position : Nat) :
    (first &&& second) >>> position % 16 =
      (first >>> position % 16) &&& (second >>> position % 16) := by
  rw [Nat.shiftRight_and_distrib, Nat.and_mod_two_pow (n := 4)]

theorem and_ofNibbles (mask : UInt16) :
    word &&& mask = ofNibbles ((group word).val &&& (group mask).val)
      ((x word).val &&& (x mask).val) ((y word).val &&& (y mask).val)
      ((nibble word).val &&& (nibble mask).val) := by
  have first := and_shiftRight_mod word.toNat mask.toNat 12
  have second := and_shiftRight_mod word.toNat mask.toNat 8
  have third := and_shiftRight_mod word.toNat mask.toNat 4
  have last := and_shiftRight_mod word.toNat mask.toNat 0
  simp only [Nat.shiftRight_eq_div_pow, Nat.reducePow, Nat.div_one] at first second third last
  rw [← ofNibbles_fields (word &&& mask)]
  simp only [group, x, y, nibble, Fin.val_ofNat, UInt16.toNat_and, first, second, third, last]

theorem and_full (digit : Fin 16) : digit.val &&& 0xF = digit.val := by
  rw [Nat.and_two_pow_sub_one_eq_mod digit.val 4, Nat.mod_eq_of_lt digit.isLt]

theorem and_mask_nibble :
    word &&& 0xFFF0 = ofNibbles (group word).val (x word).val (y word).val 0 := by
  rw [and_ofNibbles]
  change ofNibbles (_ &&& 0xF) (_ &&& 0xF) (_ &&& 0xF) (_ &&& 0) = _
  rw [and_full, and_full, and_full, Nat.and_zero]

theorem and_mask_y :
    word &&& 0xFF0F = ofNibbles (group word).val (x word).val 0 (nibble word).val := by
  rw [and_ofNibbles]
  change ofNibbles (_ &&& 0xF) (_ &&& 0xF) (_ &&& 0) (_ &&& 0xF) = _
  rw [and_full, and_full, Nat.and_zero, and_full]

variable {word}

theorem canonical_of_compare
    (compares : (group word).val = 0x5 ∨ (group word).val = 0x9) :
    canonical word = ofNibbles (group word).val (x word).val (y word).val 0 := by
  rw [canonical, if_pos (compares.imp Fin.ext Fin.ext), and_mask_nibble]

theorem canonical_of_shift (arithmetic : (group word).val = 0x8)
    (shifts : (nibble word).val = 0x6 ∨ (nibble word).val = 0xE) :
    canonical word = ofNibbles (group word).val (x word).val 0 (nibble word).val := by
  have other : ¬ (group word = 0x5 ∨ group word = 0x9) := by
    rintro (same | same) <;> rw [same] at arithmetic <;> cases arithmetic
  rw [canonical, if_neg other, if_pos ⟨Fin.ext arithmetic, shifts.imp Fin.ext Fin.ext⟩, and_mask_y]

theorem canonical_of_used (used : (group word).val ≠ 0x5 ∧ (group word).val ≠ 0x9)
    (shifts : (group word).val = 0x8 → (nibble word).val ≠ 0x6 ∧ (nibble word).val ≠ 0xE) :
    canonical word = word := by
  rw [canonical, if_neg, if_neg]
  · rintro ⟨arithmetic, shift | shift⟩
    · exact (shifts (congrArg Fin.val arithmetic)).1 (congrArg Fin.val shift)
    · exact (shifts (congrArg Fin.val arithmetic)).2 (congrArg Fin.val shift)
  · rintro (same | same)
    · exact used.1 (congrArg Fin.val same)
    · exact used.2 (congrArg Fin.val same)

end Word

namespace Instruction

variable {word : UInt16}

theorem encode_decodeArithmetic (group : (Word.group word).val = 0x8) :
    encode (decodeArithmetic word) = Word.canonical word := by
  have fields := Word.ofNibbles_fields word
  have shifted := Word.canonical_of_shift group
  have used (other : (Word.nibble word).val ≠ 0x6 ∧ (Word.nibble word).val ≠ 0xE) :=
    Word.canonical_of_used (by omega) fun _ => other
  unfold decodeArithmetic
  split
  case h_7 digit | h_9 digit =>
    rw [shifted (by omega), group, digit]
    rfl
  case h_10 => exact (used ⟨by assumption, by assumption⟩).symm
  all_goals
    rename_i digit
    rw [group, digit] at fields
    exact fields.trans (used (by omega)).symm

theorem encode_decodeKeypad (group : (Word.group word).val = 0xE) :
    encode (decodeKeypad word) = word := by
  have fields := Word.ofByte_fields word
  unfold decodeKeypad
  split
  case h_3 => rfl
  all_goals
    rename_i code
    have code := congrArg UInt8.ofNat code
    rw [UInt8.ofNat_toNat] at code
    rw [group, code] at fields
    exact fields

theorem encode_decodeTimerMemory (group : (Word.group word).val = 0xF) :
    encode (decodeTimerMemory word) = word := by
  have fields := Word.ofByte_fields word
  unfold decodeTimerMemory
  split
  case h_10 => rfl
  all_goals
    rename_i code
    have code := congrArg UInt8.ofNat code
    rw [UInt8.ofNat_toNat] at code
    rw [group, code] at fields
    exact fields

/-- The word of a decoded instruction is the one that was decoded, with the unused bits cleared. -/
theorem encode_decode (word : UInt16) : encode (decode word) = Word.canonical word := by
  have byAddress := Word.ofAddress_fields word
  have byByte := Word.ofByte_fields word
  have byNibbles := Word.ofNibbles_fields word
  have used (other : (Word.group word).val ≠ 0x5 ∧ (Word.group word).val ≠ 0x9 ∧
      (Word.group word).val ≠ 0x8) : Word.canonical word = word :=
    Word.canonical_of_used ⟨other.1, other.2.1⟩ fun same => absurd same other.2.2
  unfold decode
  split
  case h_1 group =>
    rw [used (by omega)]
    split
    next same => exact same.symm
    next =>
      split
      next same => exact same.symm
      next => rfl
  case h_6 group | h_10 group =>
    rw [Word.canonical_of_compare (by omega), group]
    rfl
  case h_9 group => exact encode_decodeArithmetic group
  case h_15 group =>
    rw [used (by omega)]
    exact encode_decodeKeypad group
  case h_16 =>
    -- The group is a nibble, and every other one has a case of its own.
    have group : (Word.group word).val = 0xF := by grind
    rw [used (by omega)]
    exact encode_decodeTimerMemory group
  case h_14 group =>
    rw [group] at byNibbles
    exact byNibbles.trans (used (by omega)).symm
  case h_2 group | h_3 group | h_11 group | h_12 group =>
    rw [group] at byAddress
    exact byAddress.trans (used (by omega)).symm
  all_goals
    rename_i group
    rw [group] at byByte
    exact byByte.trans (used (by omega)).symm

/-- An instruction without a meaning carries the word that was decoded. -/
theorem eq_of_decode_unknown {carried : UInt16} (unknown : decode word = .unknown carried) :
    carried = word := by
  unfold decode decodeArithmetic decodeKeypad decodeTimerMemory at unknown
  grind

/-- The unused bits make no difference to decoding. -/
theorem decode_canonical (word : UInt16) : decode (Word.canonical word) = decode word := by
  rw [← encode_decode]
  by_cases known : ∀ carried, decode word ≠ .unknown carried
  case pos => exact decode_encode known
  case neg =>
    obtain ⟨carried, unknown⟩ : ∃ carried, decode word = .unknown carried := by
      simpa using known
    obtain rfl := eq_of_decode_unknown unknown
    rw [unknown]
    exact unknown

theorem decode_inj (first second : UInt16) :
    decode first = decode second ↔ Word.canonical first = Word.canonical second := by
  constructor
  · intro same
    rw [← encode_decode first, same, encode_decode]
  · intro same
    rw [← decode_canonical first, same, decode_canonical]

end Instruction

end Chip8
