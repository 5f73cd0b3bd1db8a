import Chip8.Numeral

/-!
# Instructions

The instructions of the machine, their 16-bit words, and their mnemonic and diagnostic forms. Every
word decodes; bit patterns without a meaning become `unknown`. `encode` gives the word of an
instruction with all unused bits zero.
-/

namespace Chip8

/-- A general register, `V0` to `VF`. -/
abbrev Register := Fin 16

/-- An address operand of twelve bits. -/
abbrev AddressOperand := Fin 4096

/-- The register that offset jumps add. -/
def offsetRegister : Register := ⟨0x0, by decide⟩

/-- The register that receives carries, borrows and collisions. -/
def flagRegister : Register := ⟨0xF, by decide⟩

/-- A decoded instruction. -/
inductive Instruction where
  /-- Clear the display. -/
  | clearScreen
  /-- Return to the address on top of the stack. -/
  | ret
  | jump (address : AddressOperand)
  /-- Jump and push the address of the next instruction. -/
  | call (address : AddressOperand)
  | skipIfByte (x : Register) (byte : UInt8)
  | skipUnlessByte (x : Register) (byte : UInt8)
  | skipIfEqual (x y : Register)
  | loadByte (x : Register) (byte : UInt8)
  /-- Add a byte; the flag register is not touched. -/
  | addByte (x : Register) (byte : UInt8)
  | move (x y : Register)
  | or (x y : Register)
  | and (x y : Register)
  | xor (x y : Register)
  | add (x y : Register)
  | sub (x y : Register)
  | shiftRight (x : Register)
  /-- Subtract `Vx` from `Vy` into `Vx`. -/
  | subReverse (x y : Register)
  | shiftLeft (x : Register)
  | skipUnlessEqual (x y : Register)
  | loadIndex (address : AddressOperand)
  /-- Jump to an address plus `V0`. -/
  | jumpOffset (address : AddressOperand)
  /-- Load a random byte under a mask. -/
  | random (x : Register) (mask : UInt8)
  /-- Draw a sprite of the given height at the position `Vx`, `Vy`. -/
  | draw (x y : Register) (height : Fin 16)
  | skipIfPressed (x : Register)
  | skipUnlessPressed (x : Register)
  | loadDelay (x : Register)
  /-- Wait for a key and load its index. -/
  | awaitKey (x : Register)
  | setDelay (x : Register)
  | setSound (x : Register)
  | addIndex (x : Register)
  /-- Point the index register at the glyph of `Vx`. -/
  | glyph (x : Register)
  /-- Write the three decimal digits of `Vx` to memory. -/
  | decimal (x : Register)
  /-- Write `V0` to `Vx` to memory. -/
  | store (x : Register)
  /-- Read `V0` to `Vx` from memory. -/
  | load (x : Register)
  /-- A bit pattern without a meaning; it does nothing. -/
  | unknown (word : UInt16)
  deriving DecidableEq, Repr

/-! ## Operand fields of a word -/

namespace Word

/-- The highest nibble, which selects the group of the instruction. -/
def group (word : UInt16) : Fin 16 := Fin.ofNat 16 (word.toNat / 0x1000)

/-- The register operand `x`, the second nibble. -/
def x (word : UInt16) : Register := Fin.ofNat 16 (word.toNat / 0x100)

/-- The register operand `y`, the third nibble. -/
def y (word : UInt16) : Register := Fin.ofNat 16 (word.toNat / 0x10)

/-- The lowest nibble. -/
def nibble (word : UInt16) : Fin 16 := Fin.ofNat 16 word.toNat

/-- The byte operand, the lower byte. -/
def byte (word : UInt16) : UInt8 := UInt8.ofNat word.toNat

/-- The address operand, the lower twelve bits. -/
def address (word : UInt16) : AddressOperand := Fin.ofNat 4096 word.toNat

/-- The word of a group with three nibbles. -/
def ofNibbles (group x y nibble : Nat) : UInt16 :=
  UInt16.ofNat (group * 0x1000 + x * 0x100 + y * 0x10 + nibble)

/-- The word of a group with a register and a byte. -/
def ofByte (group x : Nat) (byte : UInt8) : UInt16 :=
  UInt16.ofNat (group * 0x1000 + x * 0x100 + byte.toNat)

/-- The word of a group with an address. -/
def ofAddress (group : Nat) (address : AddressOperand) : UInt16 :=
  UInt16.ofNat (group * 0x1000 + address.val)

/-- The word with the bits cleared that its instruction does not use. -/
def canonical (word : UInt16) : UInt16 :=
  if group word = 0x5 ∨ group word = 0x9 then word &&& 0xFFF0
  else if group word = 0x8 ∧ (nibble word = 0x6 ∨ nibble word = 0xE) then word &&& 0xFF0F
  else word

end Word

namespace Instruction

/-- The arithmetic group, selected by the lowest nibble. -/
def decodeArithmetic (word : UInt16) : Instruction :=
  let x := Word.x word
  let y := Word.y word
  match (Word.nibble word).val with
  | 0x0 => .move x y
  | 0x1 => .or x y
  | 0x2 => .and x y
  | 0x3 => .xor x y
  | 0x4 => .add x y
  | 0x5 => .sub x y
  | 0x6 => .shiftRight x
  | 0x7 => .subReverse x y
  | 0xE => .shiftLeft x
  | _ => .unknown word

/-- The keypad group, selected by the lower byte. -/
def decodeKeypad (word : UInt16) : Instruction :=
  match (Word.byte word).toNat with
  | 0x9E => .skipIfPressed (Word.x word)
  | 0xA1 => .skipUnlessPressed (Word.x word)
  | _ => .unknown word

/-- The group of timers and memory, selected by the lower byte. -/
def decodeTimerMemory (word : UInt16) : Instruction :=
  let x := Word.x word
  match (Word.byte word).toNat with
  | 0x07 => .loadDelay x
  | 0x0A => .awaitKey x
  | 0x15 => .setDelay x
  | 0x18 => .setSound x
  | 0x1E => .addIndex x
  | 0x29 => .glyph x
  | 0x33 => .decimal x
  | 0x55 => .store x
  | 0x65 => .load x
  | _ => .unknown word

/-- The instruction of a word. -/
def decode (word : UInt16) : Instruction :=
  let x := Word.x word
  let y := Word.y word
  let byte := Word.byte word
  let address := Word.address word
  match (Word.group word).val with
  | 0x0 =>
    if word = 0x00E0 then .clearScreen
    else if word = 0x00EE then .ret
    else .unknown word
  | 0x1 => .jump address
  | 0x2 => .call address
  | 0x3 => .skipIfByte x byte
  | 0x4 => .skipUnlessByte x byte
  | 0x5 => .skipIfEqual x y
  | 0x6 => .loadByte x byte
  | 0x7 => .addByte x byte
  | 0x8 => decodeArithmetic word
  | 0x9 => .skipUnlessEqual x y
  | 0xA => .loadIndex address
  | 0xB => .jumpOffset address
  | 0xC => .random x byte
  | 0xD => .draw x y (Word.nibble word)
  | 0xE => decodeKeypad word
  | _ => decodeTimerMemory word

/-- The word of an instruction, with unused bits zero. -/
def encode : Instruction → UInt16
  | .clearScreen => 0x00E0
  | .ret => 0x00EE
  | .jump address => Word.ofAddress 0x1 address
  | .call address => Word.ofAddress 0x2 address
  | .skipIfByte x byte => Word.ofByte 0x3 x byte
  | .skipUnlessByte x byte => Word.ofByte 0x4 x byte
  | .skipIfEqual x y => Word.ofNibbles 0x5 x y 0
  | .loadByte x byte => Word.ofByte 0x6 x byte
  | .addByte x byte => Word.ofByte 0x7 x byte
  | .move x y => Word.ofNibbles 0x8 x y 0x0
  | .or x y => Word.ofNibbles 0x8 x y 0x1
  | .and x y => Word.ofNibbles 0x8 x y 0x2
  | .xor x y => Word.ofNibbles 0x8 x y 0x3
  | .add x y => Word.ofNibbles 0x8 x y 0x4
  | .sub x y => Word.ofNibbles 0x8 x y 0x5
  | .shiftRight x => Word.ofNibbles 0x8 x 0 0x6
  | .subReverse x y => Word.ofNibbles 0x8 x y 0x7
  | .shiftLeft x => Word.ofNibbles 0x8 x 0 0xE
  | .skipUnlessEqual x y => Word.ofNibbles 0x9 x y 0
  | .loadIndex address => Word.ofAddress 0xA address
  | .jumpOffset address => Word.ofAddress 0xB address
  | .random x mask => Word.ofByte 0xC x mask
  | .draw x y height => Word.ofNibbles 0xD x y height
  | .skipIfPressed x => Word.ofByte 0xE x 0x9E
  | .skipUnlessPressed x => Word.ofByte 0xE x 0xA1
  | .loadDelay x => Word.ofByte 0xF x 0x07
  | .awaitKey x => Word.ofByte 0xF x 0x0A
  | .setDelay x => Word.ofByte 0xF x 0x15
  | .setSound x => Word.ofByte 0xF x 0x18
  | .addIndex x => Word.ofByte 0xF x 0x1E
  | .glyph x => Word.ofByte 0xF x 0x29
  | .decimal x => Word.ofByte 0xF x 0x33
  | .store x => Word.ofByte 0xF x 0x55
  | .load x => Word.ofByte 0xF x 0x65
  | .unknown word => word

end Instruction

end Chip8
