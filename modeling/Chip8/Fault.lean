import Chip8.IoFault
import Chip8.Layout

/-!
# Faults

The causes for which a machine operation fails, each with its message, the message of the cause
behind it, and its diagnostic form.
-/

namespace Chip8

/-- Why a machine operation failed. -/
inductive Fault where
  /-- The program image does not fit in memory. -/
  | largeProgram (size : Nat)
  /-- A read or write outside of the addressable memory. -/
  | memoryOutOfBounds (address : Nat)
  /-- A return with an empty call stack. -/
  | stackUnderflow (pc : UInt16)
  /-- A call nested deeper than `stackLimit`. -/
  | stackOverflow (pc : UInt16)
  /-- A register index above fifteen. -/
  | invalidRegister (index : Nat)
  /-- A key index above fifteen. -/
  | invalidKey (index : Nat)
  /-- A file could not be read. -/
  | io (cause : IoFault)
  deriving DecidableEq, Repr

namespace Fault

/-- What is wrong with a key index above fifteen. -/
def invalidKeyMessage (index : Nat) : String :=
  s!"keycode must be in range 0 <= keycode < 16, got {index}"

/-- The diagnostic form of a key index above fifteen. -/
def invalidKeyDiagnostic (index : Nat) : String :=
  s!"InvalidKeyCode({index})"

/-- The fault in words. -/
def message : Fault → String
  | .largeProgram size =>
    s!"program of {size} bytes too large for VM memory, limit is {maxProgramSize}"
  | .memoryOutOfBounds address => "memory access out of bounds: 0x" ++ Numeral.hex 4 address
  | .stackUnderflow pc =>
    "call stack underflow: return with empty stack at 0x" ++ Numeral.hex 4 pc.toNat
  | .stackOverflow pc =>
    s!"call stack overflow: more than {stackLimit} nested calls at 0x" ++ Numeral.hex 4 pc.toNat
  | .invalidRegister index => s!"invalid register index: {index}"
  | .invalidKey index => invalidKeyMessage index
  | .io cause => cause.message

/-- The message of the cause behind the fault, where it wraps one. -/
def source? : Fault → Option String
  | .io cause => some cause.message
  | .invalidKey index => some (invalidKeyMessage index)
  | _ => none

/-- The diagnostic form. -/
def diagnostic : Fault → String
  | .largeProgram size => s!"LargeProgram \x7b size: {size} \x7d"
  | .memoryOutOfBounds address => s!"MemoryOutOfBounds \x7b address: {address} \x7d"
  | .stackUnderflow pc => s!"StackUnderflow \x7b pc: {pc.toNat} \x7d"
  | .stackOverflow pc => s!"StackOverflow \x7b pc: {pc.toNat} \x7d"
  | .invalidRegister index => s!"InvalidRegister({index})"
  | .invalidKey index => "InvalidKey(" ++ invalidKeyDiagnostic index ++ ")"
  | .io cause => "Io(" ++ cause.diagnostic ++ ")"

end Fault

end Chip8
