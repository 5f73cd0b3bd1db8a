import Chip8.Failure
import Chip8.HostKey
import Chip8.Record

/-!
# Notices

What the windowed application logs, with the level and the text of each notice.
-/

namespace Chip8.Desktop

/-- What a graphics context tells about itself. -/
structure GraphicsInfo where
  version : String
  renderer : String
  vendor : String
  shadingLanguage : String
  deriving DecidableEq, Repr

namespace GraphicsInfo

/-- Whether the context offers the embedded variant of the interface. -/
def isEmbedded (info : GraphicsInfo) : Bool := (info.version.splitOn " ES ").length != 1

/-- The four entries, one to a line. -/
def text (info : GraphicsInfo) : String :=
  "OpenGL Version: " ++ info.version ++ "\nRenderer: " ++ info.renderer ++ "\nVendor: "
    ++ info.vendor ++ "\nShading Language: " ++ info.shadingLanguage

end GraphicsInfo

/-- A notice in the log of the application. -/
inductive Notice where
  /-- The program starts. -/
  | starting
  | loadingSettings (path : String)
  | loadingInputMap (path : String)
  | loadingRom (path : String)
  /-- The machine or the bell reports something. -/
  | machine (record : Record)
  /-- A graphics configuration with this number of samples is compared with the best so far. -/
  | considered (samples : Nat)
  | picked (samples : Nat)
  /-- The window is created after the graphics configuration was picked. -/
  | finalizing
  /-- The desktop variant of the graphics interface is not available. -/
  | fallingBack (reason : String)
  | settingVsync
  | vsyncFailed (reason : String)
  | rendererCreated (info : GraphicsInfo)
  /-- A key of the keypad is pressed or released. -/
  | keypad (key : Key) (pressed : Bool)
  /-- A host key does nothing. -/
  | unbound (key : HostKey)
  /-- The exit action was triggered. -/
  | exit
  | played (beeps : Nat)
  | finished
  | failed (failure : Failure)
  deriving DecidableEq, Repr

namespace Notice

/-- The level of a notice. -/
def level : Notice → Level
  | .machine record => record.level
  | .considered _ => .debug
  | .settingVsync => .debug
  | .fallingBack _ => .warn
  | .vsyncFailed _ => .error
  | .failed _ => .error
  | .keypad _ _ => .trace
  | .unbound _ => .trace
  | _ => .info

/-- The text of a notice. -/
def text : Notice → String
  | .starting => "starting..."
  | .loadingSettings path => "load settings: " ++ path
  | .loadingInputMap path => "load input map: " ++ path
  | .loadingRom path => "load rom: " ++ path
  | .machine record => record.text
  | .considered samples => s!"consider config: num_samples={samples}"
  | .picked samples => s!"picked GL config with {samples} samples"
  | .finalizing => "creating window with finalize_window"
  | .fallingBack reason => "falling back to OpenGL ES: " ++ reason
  | .settingVsync => "attempt to set vsync"
  | .vsyncFailed reason => "error setting vsync: Error(" ++ Text.quoted reason ++ ")"
  | .rendererCreated info => "created OpenGL renderer:\n" ++ info.text
  | .keypad key pressed => key.name ++ s!" pressed={pressed}"
  | .unbound key => "no input mapping for " ++ key.name
  | .exit => "exit"
  | .played beeps => s!"played {beeps} beeps"
  | .finished => "done"
  | .failed failure => failure.message

end Notice

end Chip8.Desktop
