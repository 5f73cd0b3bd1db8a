import Chip8.Clock
import Chip8.Desktop.Renderer
import Chip8.Desktop.Window
import Chip8.InputMap
import Chip8.Machine.Run
import Chip8.Settings

/-!
# Host

The windowed application: it owns a machine and reacts to the events of its window. Each tick of the
clock runs a frame and asks for a redraw, keys go to the keypad, and the first failure, exit action
or request to close ends the application; later events have no effect.
-/

namespace Chip8.Desktop

/-- The title of the window. -/
def windowTitle : String := "EightChip Emulator"

/-- Identifies a window. -/
abbrev WindowId := Nat

/-- The window of the application. -/
def mainWindow : WindowId := 1

/-- What happens to a window. -/
inductive WindowEvent where
  | resized (width height : Nat)
  /-- A key, if it has a name, is pressed or released. -/
  | key (key? : Option HostKey) (pressed : Bool)
  | focused (gained : Bool)
  | closeRequested
  /-- Anything that the application does not react to. -/
  | other
  deriving DecidableEq, Repr

/-- What the application is told. -/
inductive Event where
  /-- All pending events were delivered. The clock is read to check for a tick, and once more to
  restart after one. -/
  | cleared (check restart : Nat)
  | redraw
  | window (id : WindowId) (event : WindowEvent)
  /-- Anything that the application does not react to. -/
  | other
  deriving DecidableEq, Repr

/-- What the application asks for between events. -/
inductive Control where
  /-- Deliver events as they come. -/
  | poll
  /-- Wait for events up to a time. -/
  | waitUntil (deadline : Nat)
  /-- End with a status. -/
  | exit (status : Nat)
  deriving DecidableEq, Repr

/-- The state of the application. -/
structure Host where
  session : Session
  renderer : Renderer
  machine : Machine
  inputMap : InputMap
  bell : Bell
  clock : Clock
  /-- Size of a display cell in pixels. -/
  scale : Nat
  control : Control
  /-- The failure that ended the application, if one did. -/
  failure? : Option Failure

namespace Host

/-! ## Starting -/

/-- Loads the program that the settings name, given what reading each file yields. -/
def loadRom (settings : Settings) (read : String → Except IoFault (List UInt8)) (entropy : Secret) :
    Starting Machine := do
  let some rom := settings.rom? | throw (.failed (.settings .noRom))
  Staged.log (.loadingRom rom)
  let loaded := (Machine.create settings.config entropy).loadFile (read rom)
  modify (·.logRecords loaded.records)
  match loaded.result with
  | .ok () => return loaded.machine
  | .error fault => throw (.failed (.machine fault))

/-- Creates the renderer for a new window, which is closed if there is none. -/
def attach (width height : Nat) : Staged Renderer := do
  let renderer ←
    try Renderer.create width height
    catch failure =>
      Staged.call .releaseContext
      throw failure
  Staged.log (.rendererCreated (← get).stage.info)
  return renderer

/-- Creates the window and the renderer for it. -/
def createWindow (width height : Nat) : Starting Renderer := do
  Window.create ⟨windowTitle, width, height⟩
  Staged.raise (attach width height)

/-- Starts the application at a time: checks the settings, loads the program, then creates the
window and the renderer, so that nothing shows if the program cannot be loaded. -/
def create (settings : Settings) (inputMap : InputMap)
    (read : String → Except IoFault (List UInt8)) (entropy : Secret) (now : Nat) :
    Starting Host := do
  match settings.validate with
  | .ok () => pure ()
  | .error cause => throw (.failed (.settings cause))
  let machine ← loadRom settings read entropy
  let size := settings.windowSize
  let renderer ← createWindow size.1 size.2
  return {
    session := ← get
    renderer, machine, inputMap
    bell := {}
    clock := ⟨now, settings.config.timerRate.interval⟩
    scale := settings.scale
    control := .poll
    failure? := none }

/-! ## Reacting to events -/

/-- Whether the application has ended. -/
def isEnded (host : Host) : Bool :=
  match host.control with
  | .exit _ => true
  | _ => false

/-- Ends the application with a failure. -/
def fail (host : Host) (failure : Failure) : Host :=
  { host with failure? := some failure, control := .exit 1 }

/-- Makes a call. -/
def call (host : Host) (made : Call) : Host := { host with session := host.session.record made }

/-- Performs an action on the session; a failure ends the application. -/
def perform (host : Host) (action : Staged Unit) : Host :=
  match action.run host.session with
  | (.ok (), session) => { host with session }
  | (.error failure, session) => { host with session }.fail failure

/-- One frame of the machine, with the terminal bell. -/
def runFrame (host : Host) : Except Fault Flow × Host :=
  let frame := host.machine.runFrame (Bell.ringing none) host.bell
  (frame.1.result,
    { host with
      machine := frame.1.machine
      bell := frame.2
      session := host.session.logRecords frame.1.records })

/-- Waits for the next tick. -/
def awaitTick (host : Host) : Host := { host with control := .waitUntil host.clock.deadline }

/-- Runs a frame and asks for a redraw if a tick is due, then waits for the next one. -/
def onCleared (host : Host) (check restart : Nat) : Host :=
  let ticked := host.clock.tick check restart
  let host := { host with clock := ticked.2 }
  if ticked.1 then
    match host.runFrame with
    | (.error fault, host) => host.fail (.machine fault)
    | (.ok _, host) => (host.call .requestRedraw).awaitTick
  else host.awaitTick

/-- Shows the display of the machine in the window. -/
def present (host : Host) : Staged Unit := do
  Staged.attempt .current .makeCurrent .graphics
  host.renderer.upload (host.machine.core.display.upscale host.scale)
  Renderer.clear
  host.renderer.draw
  Staged.attempt .swap .swapBuffers .graphics

/-- Sets whether a key of the keypad is held. -/
def setKey (host : Host) (key : Key) (pressed : Bool) : Host :=
  { host with machine := host.machine.withCore (host.machine.core.setKey key pressed) }

/-- Passes a key of the keypad on to the machine, and ends the application at the exit action. -/
def onInput (host : Host) (event : InputEvent) : Host :=
  match event.binding.key? with
  | some key => (host.call (.log (.keypad key event.pressed))).setKey key event.pressed
  | none =>
    if event.pressed && event.binding.isAction InputMap.exitAction then
      { host.call (.log .exit) with control := .exit 0 }
    else host

/-- Passes on what a host key does. -/
def onKey (host : Host) (key : HostKey) (pressed : Bool) : Host :=
  match host.inputMap.event? key pressed with
  | some event => host.onInput event
  | none => host.call (.log (.unbound key))

/-- Lets all keys go: a window without focus is not told of their release. -/
def onFocusLost (host : Host) : Host :=
  { host with machine := host.machine.withCore host.machine.core.clearKeys }

/-- Adapts the surface and the drawn area to a new size of the window. -/
def onResized (host : Host) (width height : Nat) : Host :=
  host.perform do
    if ← Window.resizeSurface width height then Renderer.resize width height

/-- Reacts to an event of the application's window. -/
def onWindowEvent (host : Host) : WindowEvent → Host
  | .resized width height => host.onResized width height
  | .key none _ => host
  | .key (some key) pressed => host.onKey key pressed
  | .focused true => host
  | .focused false => host.onFocusLost
  | .closeRequested => { host with control := .exit 0 }
  | .other => host

/-- Reacts to an event, unless the application has ended. -/
def handle (host : Host) (event : Event) : Host :=
  if host.isEnded then host
  else
    match event with
    | .cleared check restart => host.onCleared check restart
    | .redraw => host.perform host.present
    | .window id event => if id = mainWindow then host.onWindowEvent event else host
    | .other => host

/-! ## Running and closing -/

/-- What happens next around the application: an event, or an operation that fails or works from
then on. -/
inductive Cue where
  | event (event : Event)
  | fail (operation : Operation)
  | mend (operation : Operation)
  deriving DecidableEq, Repr

/-- Changes the stage. -/
def onStage (host : Host) (change : Stage → Stage) : Host :=
  { host with session := { host.session with stage := change host.session.stage } }

/-- Follows a cue. -/
def follow (host : Host) : Cue → Host
  | .event event => host.handle event
  | .fail operation => host.onStage (·.fail operation)
  | .mend operation => host.onStage (·.mend operation)

/-- Starts the event loop at a time. -/
def beginLoop (host : Host) (now : Nat) : Host := { host with clock := host.clock.reset now }

/-- Follows all cues, also those after the end. -/
def run (host : Host) (now : Nat) (cues : List Cue) : Host :=
  cues.foldl follow (host.beginLoop now)

/-- Closes the application: first the window with its graphics context, then the renderer. -/
def close (host : Host) : Session :=
  host.renderer.delete (host.session.record .releaseContext)

end Host

end Chip8.Desktop
