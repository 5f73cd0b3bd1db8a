import Chip8.Proofs.Step

/-!
# Words and their instructions

The fields of a word that is put together from a group and operands are these again. So the word of
an instruction decodes to that instruction (`Instruction.decode_encode`), and a machine that fetches
it executes it (`Machine.Fetches.isAt_of_encode`).
-/

namespace Chip8

namespace Word

/-! ## Words of nibbles -/

section

variable {group y nibble : Nat} (inGroup : group < 16) (x : Register) (inNibble : nibble < 16)

include inGroup inNibble

theorem toNat_ofNibbles (inY : y < 16) :
    (ofNibbles group x y nibble).toNat =
      group * 0x1000 + x.val * 0x100 + y * 0x10 + nibble :=
  UInt16.toNat_ofNat_of_lt (by simp only [UInt16.size]; omega)

theorem group_ofNibbles (inY : y < 16) :
    (Word.group (ofNibbles group x y nibble)).val = group := by
  simp only [Word.group, toNat_ofNibbles inGroup x inNibble inY, Fin.val_ofNat]
  omega

theorem x_ofNibbles (inY : y < 16) : Word.x (ofNibbles group x y nibble) = x := by
  apply Fin.ext
  simp only [Word.x, toNat_ofNibbles inGroup x inNibble inY, Fin.val_ofNat]
  omega

theorem y_ofNibbles (y : Register) : Word.y (ofNibbles group x y nibble) = y := by
  apply Fin.ext
  simp only [Word.y, toNat_ofNibbles inGroup x inNibble y.isLt, Fin.val_ofNat]
  omega

theorem nibble_ofNibbles (inY : y < 16) :
    (Word.nibble (ofNibbles group x y nibble)).val = nibble := by
  simp only [Word.nibble, toNat_ofNibbles inGroup x inNibble inY, Fin.val_ofNat]
  omega

end

/-! ## Words of a register and a byte -/

section

variable {group : Nat} (inGroup : group < 16) (x : Register) (byte : UInt8)

include inGroup

theorem toNat_ofByte :
    (ofByte group x byte).toNat = group * 0x1000 + x.val * 0x100 + byte.toNat := by
  have := byte.toNat_lt
  exact UInt16.toNat_ofNat_of_lt (by simp only [UInt16.size]; omega)

theorem group_ofByte : (Word.group (ofByte group x byte)).val = group := by
  have := byte.toNat_lt
  simp only [Word.group, toNat_ofByte inGroup, Fin.val_ofNat]
  omega

theorem x_ofByte : Word.x (ofByte group x byte) = x := by
  have := byte.toNat_lt
  apply Fin.ext
  simp only [Word.x, toNat_ofByte inGroup, Fin.val_ofNat]
  omega

theorem byte_ofByte : Word.byte (ofByte group x byte) = byte := by
  have := byte.toNat_lt
  apply UInt8.toNat_inj.mp
  rw [Word.byte, toNat_ofByte inGroup, UInt8.toNat_ofNat']
  omega

end

/-! ## Words of an address -/

section

variable {group : Nat} (inGroup : group < 16) (address : AddressOperand)

include inGroup

theorem toNat_ofAddress :
    (ofAddress group address).toNat = group * 0x1000 + address.val :=
  UInt16.toNat_ofNat_of_lt (by simp only [UInt16.size]; omega)

theorem group_ofAddress : (Word.group (ofAddress group address)).val = group := by
  simp only [Word.group, toNat_ofAddress inGroup, Fin.val_ofNat]
  omega

theorem address_ofAddress : Word.address (ofAddress group address) = address := by
  apply Fin.ext
  simp only [Word.address, toNat_ofAddress inGroup, Fin.val_ofNat]
  omega

end

end Word

namespace Instruction

/-- The word of an instruction decodes to it. -/
theorem decode_encode {instruction : Instruction}
    (known : ∀ word, instruction ≠ .unknown word) : decode (encode instruction) = instruction := by
  cases instruction with
  | unknown word => exact absurd rfl (known word)
  | clearScreen | ret => rfl
  | jump | call | loadIndex | jumpOffset =>
      simp (disch := omega) only [encode, decode, Word.group_ofAddress, Word.address_ofAddress]
  | skipIfByte | skipUnlessByte | loadByte | addByte | random =>
      simp (disch := omega) only [encode, decode, Word.group_ofByte, Word.x_ofByte,
        Word.byte_ofByte]
  | skipIfPressed | skipUnlessPressed =>
      simp (disch := omega) only [encode, decode, decodeKeypad, Word.group_ofByte, Word.x_ofByte,
        Word.byte_ofByte, UInt8.reduceToNat]
  | loadDelay | awaitKey | setDelay | setSound | addIndex | glyph | decimal | store | load =>
      simp (disch := omega) only [encode, decode, decodeTimerMemory, Word.group_ofByte,
        Word.x_ofByte, Word.byte_ofByte, UInt8.reduceToNat]
  | skipIfEqual | skipUnlessEqual =>
      simp (disch := omega) only [encode, decode, Word.group_ofNibbles, Word.x_ofNibbles,
        Word.y_ofNibbles]
  | draw x y height =>
      simp (disch := omega) only [encode, decode, Word.group_ofNibbles, Word.x_ofNibbles,
        Word.y_ofNibbles]
      exact congrArg _ (Fin.ext (Word.nibble_ofNibbles (by omega) x height.isLt y.isLt))
  | move | or | and | xor | add | sub | subReverse | shiftRight | shiftLeft =>
      simp (disch := omega) only [encode, decode, decodeArithmetic, Word.group_ofNibbles,
        Word.x_ofNibbles, Word.y_ofNibbles, Word.nibble_ofNibbles]

/-- A shift does not look at its third nibble. -/
theorem decode_shift (x y : Register) :
    decode (Word.ofNibbles 0x8 x y 0x6) = .shiftRight x ∧
      decode (Word.ofNibbles 0x8 x y 0xE) = .shiftLeft x := by
  constructor <;>
    simp (disch := omega) only [decode, decodeArithmetic, Word.group_ofNibbles, Word.x_ofNibbles,
      Word.nibble_ofNibbles]

end Instruction

namespace Machine

/-- The next step executes the instruction of a word. -/
structure Fetches (machine : Machine) (word : UInt16) : Prop where
  running : machine.core.keyWait = none
  inside : machine.core.CanFetch
  found : machine.core.word = word

variable {machine : Machine} {word : UInt16}

theorem Fetches.isAt (fetches : machine.Fetches word) :
    machine.IsAt (Instruction.decode word) where
  running := fetches.running
  inside := fetches.inside
  decoded := congrArg Instruction.decode fetches.found

theorem Fetches.isAt_of_encode {instruction : Instruction}
    (fetches : machine.Fetches instruction.encode)
    (known : ∀ word, instruction ≠ .unknown word) : machine.IsAt instruction :=
  Instruction.decode_encode known ▸ fetches.isAt

end Machine

end Chip8
