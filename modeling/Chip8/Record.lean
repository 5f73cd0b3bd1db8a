import Chip8.Instruction.Listing
import Chip8.Fault

/-!
# Log records

What the machine and its beepers report while they run, with the level and the text of each record.
-/

namespace Chip8

/-- How much a log record matters. -/
inductive Level where
  | error
  | warn
  | info
  | debug
  | trace
  deriving DecidableEq, Repr

namespace Level

/-- The full name of a level. -/
def name : Level → String
  | .error => "ERROR"
  | .warn => "WARN"
  | .info => "INFO"
  | .debug => "DEBUG"
  | .trace => "TRACE"

/-- The name of a level in four letters. -/
def shortName : Level → String
  | .error => "ERRO"
  | .warn => "WARN"
  | .info => "INFO"
  | .debug => "DEBG"
  | .trace => "TRCE"

/-- Whether a level is at least as severe as information. -/
def isPublic : Level → Bool
  | .error => true
  | .warn => true
  | .info => true
  | .debug => false
  | .trace => false

end Level

/-- A record of the machine or a beeper. -/
inductive Record where
  /-- An instruction was fetched; it runs next. -/
  | fetched (pc word : UInt16) (instruction : Instruction)
  /-- A word without a meaning was passed over. -/
  | ignored (pc word : UInt16)
  /-- An instruction failed. -/
  | failed (pc : UInt16) (instruction : Instruction) (fault : Fault)
  /-- A program was loaded. -/
  | loaded (size : Nat)
  /-- The terminal bell is rung for a tick. -/
  | beep
  /-- The terminal bell could not be written. -/
  | bellFailed (cause : IoFault)
  deriving DecidableEq, Repr

namespace Record

/-- The level of a record. -/
def level : Record → Level
  | .fetched .. => .trace
  | .ignored .. => .debug
  | .failed .. => .error
  | .loaded _ => .debug
  | .beep => .debug
  | .bellFailed _ => .warn

/-- The text of a record. -/
def text : Record → String
  | .fetched pc word instruction =>
    Numeral.hex 4 pc.toNat ++ ": " ++ Numeral.hex 4 word.toNat ++ " " ++ instruction.mnemonic
  | .ignored pc word =>
    "0x" ++ Numeral.hex 4 pc.toNat ++ ": ignoring unknown instruction 0x"
      ++ Numeral.hex 4 word.toNat
  | .failed pc instruction fault =>
    "0x" ++ Numeral.hex 4 pc.toNat ++ ": " ++ instruction.mnemonic ++ ": " ++ fault.message
  | .loaded size => s!"loaded program of {size} bytes"
  | .beep => "beep"
  | .bellFailed cause => "failed to ring terminal bell: " ++ cause.message

end Record

end Chip8
