import Chip8.Instruction

/-!
# Instruction listings

The mnemonic form of an instruction, as traces show it, and its diagnostic form.
-/

namespace Chip8.Instruction

/-- The name of a register in a listing. -/
def registerName (x : Register) : String := "v" ++ Numeral.hex 1 x.val

/-- An address operand in a listing. -/
def addressText (address : AddressOperand) : String := "0x" ++ Numeral.hex 3 address.val

/-- A mnemonic with two operands. -/
def listed (name first second : String) : String := name ++ " " ++ first ++ ", " ++ second

/-- The mnemonic form. -/
def mnemonic : Instruction → String
  | .clearScreen => "CLS"
  | .ret => "RET"
  | .jump address => "JP " ++ addressText address
  | .call address => "CALL " ++ addressText address
  | .skipIfByte x byte => listed "SE" (registerName x) (toString byte.toNat)
  | .skipUnlessByte x byte => listed "SNE" (registerName x) (toString byte.toNat)
  | .skipIfEqual x y => listed "SE" (registerName x) (registerName y)
  | .loadByte x byte => listed "LD" (registerName x) (toString byte.toNat)
  | .addByte x byte => listed "ADD" (registerName x) (toString byte.toNat)
  | .move x y => listed "LD" (registerName x) (registerName y)
  | .or x y => listed "OR" (registerName x) (registerName y)
  | .and x y => listed "AND" (registerName x) (registerName y)
  | .xor x y => listed "XOR" (registerName x) (registerName y)
  | .add x y => listed "ADD" (registerName x) (registerName y)
  | .sub x y => listed "SUB" (registerName x) (registerName y)
  | .shiftRight x => "SHR " ++ registerName x
  | .subReverse x y => listed "SUBN" (registerName x) (registerName y)
  | .shiftLeft x => "SHL " ++ registerName x
  | .skipUnlessEqual x y => listed "SNE" (registerName x) (registerName y)
  | .loadIndex address => listed "LD" "I" (addressText address)
  | .jumpOffset address => listed "JP" "v0" (addressText address)
  | .random x mask => listed "RND" (registerName x) (toString mask.toNat)
  | .draw x y height =>
    listed "DRW" (registerName x) (registerName y) ++ ", " ++ toString height.val
  | .skipIfPressed x => "SKP " ++ registerName x
  | .skipUnlessPressed x => "SKNP " ++ registerName x
  | .loadDelay x => listed "LD" (registerName x) "DT"
  | .awaitKey x => listed "LD" (registerName x) "K"
  | .setDelay x => listed "LD" "DT" (registerName x)
  | .setSound x => listed "LD" "ST" (registerName x)
  | .addIndex x => listed "ADD" "I" (registerName x)
  | .glyph x => listed "LD" "F" (registerName x)
  | .decimal x => listed "LD" "B" (registerName x)
  | .store x => listed "LD" "[I]" (registerName x)
  | .load x => listed "LD" (registerName x) "[I]"
  | .unknown word => "0x" ++ Numeral.hex 4 word.toNat

/-- A diagnostic form with named operands. -/
def record (name : String) (operands : List (String × Nat)) : String :=
  let fields := operands.map fun operand => operand.1 ++ ": " ++ toString operand.2
  name ++ " \x7b " ++ ", ".intercalate fields ++ " \x7d"

/-- The diagnostic form with an address operand. -/
def addressRecord (name : String) (address : AddressOperand) : String :=
  record name [("address", address.val)]

/-- The diagnostic form with one register operand. -/
def registerRecord (name : String) (x : Register) : String :=
  record name [("vx", x.val)]

/-- The diagnostic form with two register operands. -/
def registersRecord (name : String) (x y : Register) : String :=
  record name [("vx", x.val), ("vy", y.val)]

/-- The diagnostic form with a register and a byte operand. -/
def byteRecord (name : String) (x : Register) (byte : UInt8) : String :=
  record name [("vx", x.val), ("kk", byte.toNat)]

/-- The diagnostic form. -/
def diagnostic : Instruction → String
  | .clearScreen => "ClearScreen"
  | .ret => "Return"
  | .jump address => addressRecord "Jump" address
  | .call address => addressRecord "Call" address
  | .skipIfByte x byte => byteRecord "SkipEqByte" x byte
  | .skipUnlessByte x byte => byteRecord "SkipNotEqByte" x byte
  | .skipIfEqual x y => registersRecord "SkipEq" x y
  | .loadByte x byte => byteRecord "LoadByte" x byte
  | .addByte x byte => byteRecord "AddByte" x byte
  | .move x y => registersRecord "Move" x y
  | .or x y => registersRecord "Or" x y
  | .and x y => registersRecord "And" x y
  | .xor x y => registersRecord "Xor" x y
  | .add x y => registersRecord "Add" x y
  | .sub x y => registersRecord "Sub" x y
  | .shiftRight x => registerRecord "ShiftRight" x
  | .subReverse x y => registersRecord "SubReverse" x y
  | .shiftLeft x => registerRecord "ShiftLeft" x
  | .skipUnlessEqual x y => registersRecord "SkipNotEq" x y
  | .loadIndex address => addressRecord "LoadAddress" address
  | .jumpOffset address => addressRecord "JumpOffset" address
  | .random x mask => byteRecord "Random" x mask
  | .draw x y height => record "Draw" [("vx", x.val), ("vy", y.val), ("k", height.val)]
  | .skipIfPressed x => registerRecord "SkipPressed" x
  | .skipUnlessPressed x => registerRecord "SkipNotPressed" x
  | .loadDelay x => registerRecord "LoadDelay" x
  | .awaitKey x => registerRecord "WaitKey" x
  | .setDelay x => registerRecord "SetDelay" x
  | .setSound x => registerRecord "SetSound" x
  | .addIndex x => registerRecord "AddAddress" x
  | .glyph x => registerRecord "Glyph" x
  | .decimal x => registerRecord "Bcd" x
  | .store x => registerRecord "Store" x
  | .load x => registerRecord "Load" x
  | .unknown word => s!"Unknown({word.toNat})"

end Chip8.Instruction
