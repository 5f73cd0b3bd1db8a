import Chip8.Config
import Chip8.Document.Node
import Chip8.Failure

/-!
# Settings

What the windowed application is told by its settings file: the program, the keyboard layout, the
size of the display and the configuration of the machine. What a library makes of the text of a
settings file is given; settings that are read from a text are also checked.
-/

namespace Chip8

open Document

namespace Config

/-- The configuration in the fields of a document, with defaults for those left out. -/
def ofFields? (fields : List (String × Node)) : Option Config := do
  let default : Config := {}
  let rate (node : Node) : Option Frequency := node.word?.map Frequency.mk
  let instructionRate ← field? fields "instructions_per_second" rate default.instructionRate
  let timerRate ← field? fields "timer_frequency" rate default.timerRate
  let seed? ← field? fields "rng_seed" (Node.optional? Node.word?) default.seed?
  return { instructionRate, timerRate, seed? }

/-- The configuration in a document: a mapping, or a list of the fields in their order. -/
def ofNode? : Node → Option Config
  | .list values =>
    let names := ["instructions_per_second", "timer_frequency", "rng_seed"]
    if values.length ≤ names.length then ofFields? (names.zip values) else none
  | node => node.fields?.bind ofFields?

end Config

/-- Settings of the windowed application. -/
structure Settings where
  /-- The file of the program. -/
  rom? : Option String := none
  /-- The file of the keyboard layout; the built-in layout is used without one. -/
  inputMap? : Option String := none
  /-- Size of a display cell in window pixels. -/
  scale : Nat := 20
  /-- The configuration of the machine. -/
  config : Config := {}
  deriving DecidableEq, Repr

namespace Settings

/-- The file that settings are read from when none is named. -/
def defaultFile : String := "settings.yaml"

/-- Checks the cell size, then the instruction rate, then the timer rate. -/
def validate (settings : Settings) : Except SettingsFault Unit := do
  if settings.scale = 0 ∨ maxScale < settings.scale then throw (.scale settings.scale)
  if settings.config.instructionRate.perSecond = 0 then throw .instructionRate
  if settings.config.timerRate.perSecond = 0 then throw .timerRate

/-- Width and height of the window in pixels, as 32-bit words. -/
def windowSize (settings : Settings) : Nat × Nat :=
  (displayWidth * settings.scale % Numeral.span32,
    displayHeight * settings.scale % Numeral.span32)

/-- The names of the fields that are not part of the configuration of the machine. -/
def ownFields : List String := ["rom", "input_map", "scale"]

/-- The greatest depth of collections in a field that is not one of the named ones. -/
def depthLimit : Nat := 127

/-- The settings in a document, with defaults for the fields left out. The fields that may belong
to the configuration are kept until all are read, so each of them must be bounded. -/
def ofNode? (node : Node) : Option Settings := do
  let fields ← node.fields?
  guard (fields.all fun field => field.1 ∈ ownFields || field.2.isBounded depthLimit)
  let default : Settings := {}
  let rom? ← field? fields "rom" (Node.optional? Node.text?) default.rom?
  let inputMap? ← field? fields "input_map" (Node.optional? Node.text?) default.inputMap?
  let scale ← field? fields "scale" Node.unsigned? default.scale
  let config ← Config.ofFields? fields
  return { rom?, inputMap?, scale, config }

/-- Reads and checks settings, given what a text parses as. -/
def ofText (parse : String → Except String Settings) (text : String) : Except Failure Settings :=
  match parse text with
  | .error description => .error (.document description)
  | .ok settings =>
    match settings.validate with
    | .ok () => .ok settings
    | .error cause => .error (.settings cause)

/-- Reads and checks the settings of a file, given what reading the file yields. -/
def ofFile (parse : String → Except String Settings) (contents : Except IoFault (List UInt8)) :
    Except Failure Settings :=
  match contents.bind Text.ofBytes with
  | .ok text => ofText parse text
  | .error cause => .error (.io cause)

end Settings

end Chip8
