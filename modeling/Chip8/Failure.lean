import Chip8.Keypad

/-!
# Failures

The causes for which the windowed application fails, each with its message and the message of the
cause behind it. What the application does not expect at its start is no such cause but a panic.
-/

namespace Chip8

/-- Largest accepted size of a cell in window pixels. -/
def maxScale : Nat := 64

/-- Why settings are refused. -/
inductive SettingsFault where
  /-- The size of a cell is zero or above `maxScale`. -/
  | scale (value : Nat)
  /-- The machine would execute nothing. -/
  | instructionRate
  /-- The timers would never count down. -/
  | timerRate
  /-- No program is named. -/
  | noRom
  /-- Any other cause, by its description. -/
  | other (description : String)
  deriving DecidableEq, Repr

namespace SettingsFault

/-- The cause in words. -/
def message : SettingsFault → String
  | .scale value => s!"scale must be between 1 and {maxScale}, got {value}"
  | .instructionRate => "instructions_per_second must not be zero"
  | .timerRate => "timer_frequency must not be zero"
  | .noRom => "no ROM file given"
  | .other description => description

end SettingsFault

/-- Why a definition of a keyboard layout is refused. -/
inductive InputFault where
  /-- The definition with this index names both a keypad key and an action. -/
  | both (index : Nat) (key : Key) (action : String)
  /-- The definition with this index names neither a keypad key nor an action. -/
  | neither (index : Nat)
  /-- Any other cause, by its description. -/
  | other (description : String)
  deriving DecidableEq, Repr

namespace InputFault

/-- The cause in words. -/
def message : InputFault → String
  | .both index key action =>
    s!"definition {index}: " ++ key.name ++ " is also mapped to action '" ++ action
      ++ "', expected one of chip8 or action"
  | .neither index => s!"definition {index}: expected one of chip8 or action"
  | .other description => description

end InputFault

/-- Why the application fails. -/
inductive Failure where
  | machine (fault : Fault)
  | io (cause : IoFault)
  /-- The window system refused, by its description. -/
  | window (description : String)
  /-- A graphics context, surface or shader failed, by its description. -/
  | graphics (description : String)
  /-- A document is not well formed or holds values of the wrong type, by the description of the
  library that reads it. -/
  | document (description : String)
  | settings (cause : SettingsFault)
  | input (cause : InputFault)
  deriving DecidableEq, Repr

namespace Failure

/-- The cause in words. -/
def cause : Failure → String
  | .machine fault => fault.message
  | .io cause => cause.message
  | .window description => description
  | .graphics description => "opengl: " ++ description
  | .document description => "yaml: " ++ description
  | .settings cause => "settings: " ++ cause.message
  | .input cause => "input map: " ++ cause.message

/-- The failure in words. -/
def message (failure : Failure) : String := "application error: " ++ failure.cause

/-- The message of the cause behind the failure, where it wraps one. -/
def source? : Failure → Option String
  | .machine fault => some fault.message
  | .io cause => some cause.message
  | .window description => some description
  | .document description => some description
  | _ => none

end Failure

/-- What stops the windowed application before its end: a failure that it reports, or a panic. -/
inductive Halt where
  | failed (failure : Failure)
  | panicked (message : String)
  deriving DecidableEq, Repr

end Chip8
