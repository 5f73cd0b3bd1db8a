import Chip8.Desktop.Host
import Chip8.Files
import Chip8.Yaml

/-!
# Launching the windowed application

The windowed program from its arguments to its end. The stages run in a fixed order, and the first
that fails ends the program: arguments, settings, the program file named by the arguments, keyboard
layout, event loop, checked settings, program, window, renderer, events.
-/

namespace Chip8.Desktop

/-- An argument of a program as the system passes it. -/
inductive Argument where
  | text (text : String)
  /-- It is not text, and to read it is a panic with this message. -/
  | unreadable (message : String)
  deriving DecidableEq, Repr

/-- How the windowed program ended. -/
structure Ending where
  status : Nat
  /-- The calls made, with the log among them. -/
  calls : Array Call
  /-- Whether the usage line is printed. -/
  showsUsage : Bool
  /-- The message of the panic that ended the program, if one did. -/
  panic? : Option String
  /-- Bell characters that were written. -/
  bells : Nat

namespace Launch

open Staged

/-- How the program is used. -/
def usage : String := "usage: eightchip-win [SETTINGS] [ROM]"

/-- The status of a program that fails. -/
def failureStatus : Nat := 1

/-- The status of a program that panics. -/
def panicStatus : Nat := 101

/-- Turns a result into an action. -/
def ofExcept {α : Type} : Except Failure α → Starting α
  | .ok value => pure value
  | .error failure => throw (.failed failure)

/-- The text of an argument, if there is one. -/
def readArgument : Option Argument → Starting (Option String)
  | none => pure none
  | some (.text text) => pure (some text)
  | some (.unreadable message) => throw (.panicked message)

/-- The names of a settings file and of a program file, as far as there are arguments. -/
def readArguments (arguments : List Argument) : Starting (Option String × Option String) := do
  let settingsFile? ← readArgument arguments[0]?
  return (settingsFile?, ← readArgument arguments[1]?)

/-- Reads a settings file. -/
def loadSettings (yaml : Yaml) (files : Files) (path : String) : Starting Settings := do
  log (.loadingSettings path)
  ofExcept (Settings.ofFile yaml.settings (files.read path))

/-- The settings of the named file; without a name those of the default file, or if there is none
the default settings. -/
def findSettings (yaml : Yaml) (files : Files) : Option String → Starting Settings
  | some path => loadSettings yaml files path
  | none =>
    if files.contains Settings.defaultFile then loadSettings yaml files Settings.defaultFile
    else pure {}

/-- The keyboard layout that the settings name, or the built-in one. -/
def findInputMap (yaml : Yaml) (files : Files) (settings : Settings) : Starting InputMap :=
  match settings.inputMap? with
  | some path => do
    log (.loadingInputMap path)
    ofExcept (InputMap.ofFile yaml.definitions (files.read path))
  | none => ofExcept (InputMap.defaultLayout yaml.definitions)

/-- The settings and the layout, given the names of a settings file and of a program file, each
optional. -/
def prepare (yaml : Yaml) (files : Files) (settingsFile? rom? : Option String) :
    Starting (Settings × InputMap) := do
  let settings ← findSettings yaml files settingsFile?
  let settings : Settings :=
    match rom? with
    | some rom => { settings with rom? := some rom }
    | none => settings
  return (settings, ← findInputMap yaml files settings)

/-- Everything before the events. -/
def start (yaml : Yaml) (files : Files) (arguments : List Argument) (entropy : Secret)
    (now : Nat) : Starting Host := do
  let names ← readArguments arguments
  let prepared ← prepare yaml files names.1 names.2
  attempt .eventLoop .createEventLoop .panicked
  Host.create prepared.1 prepared.2 files.read entropy now

/-- The end after a failure. -/
def failed (session : Session) (failure : Failure) (bells : Nat) : Ending :=
  ⟨failureStatus, (session.record (.log (.failed failure))).calls, true, none, bells⟩

/-- The end of a program that does not get to its events. A panic leaves no notice in the log. -/
def halted (session : Session) : Halt → Ending
  | .failed failure => failed session failure 0
  | .panicked message => ⟨panicStatus, session.calls, false, some message, 0⟩

/-- The end of an application whose events are over. -/
def finished (host : Host) : Ending :=
  match host.failure? with
  | some failure => failed host.close failure host.bell.rung
  | none =>
    let session := (host.call (.log (.played host.bell.beeps))).close
    ⟨0, (session.record (.log .finished)).calls, false, none, host.bell.rung⟩

/-- Runs the windowed program at a time that stands still. -/
def run (yaml : Yaml) (files : Files) (arguments : List Argument) (entropy : Secret) (now : Nat)
    (stage : Stage) (cues : List Host.Cue) : Ending :=
  let session := (Session.start stage).record (.log .starting)
  match (start yaml files arguments entropy now).run session with
  | (.error halt, session) => halted session halt
  | (.ok host, _) => finished (host.run now cues)

end Launch

/-- The public log of a program: its notices from information up. -/
def Ending.log (ending : Ending) : List String :=
  (ending.calls.toList.filterMap Call.notice?).filter (·.level.isPublic)
    |>.map fun notice => notice.level.shortName ++ " " ++ notice.text

end Chip8.Desktop
