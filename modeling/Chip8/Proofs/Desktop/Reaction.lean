import Chip8.Desktop.Host
import Chip8.Proofs.Console
import Chip8.Proofs.Desktop.Session

/-!
# Reactions to events

What the application does with one event, component by component: what it asks of its machine
(`Event.request?`), whether and how it ends (`Host.stop?`), and which calls it makes.
-/

namespace Chip8.Desktop

open Staged

namespace WindowEvent

/-- What an event of the application's window asks of the machine, for a layout. -/
def request? (inputMap : InputMap) : WindowEvent → Option Request
  | .key (some hostKey) pressed =>
    ((inputMap.binding? hostKey).bind Binding.key?).map fun bound => .setKey bound pressed
  | .focused false => some .clearKeys
  | _ => none

/-- Whether an event of the application's window ends the application: the exit action is triggered,
or the window is to be closed. -/
def closes (inputMap : InputMap) : WindowEvent → Bool
  | .key (some hostKey) pressed =>
    pressed && inputMap.binding? hostKey == some (.action InputMap.exitAction)
  | .closeRequested => true
  | _ => false

end WindowEvent

namespace Event

/-- What an event asks of the machine, for a layout and the clock that it finds. -/
def request? (inputMap : InputMap) (clock : Clock) : Event → Option Request
  | .cleared check restart => if (clock.tick check restart).1 then some .frame else none
  | .window id event => if id = mainWindow then event.request? inputMap else none
  | _ => none

def clockAfter (clock : Clock) : Event → Clock
  | .cleared check restart => (clock.tick check restart).2
  | _ => clock

/-- What the application asks for after an event that does not end it. -/
def controlAfter (control : Control) (clock : Clock) : Event → Control
  | .cleared check restart => .waitUntil (clock.tick check restart).2.deadline
  | _ => control

end Event

namespace Renderer

variable (renderer : Renderer) (pixels : Array UInt8) (session : Session)

abbrev Fits : Prop := pixels.size = renderer.width * renderer.height * 3

def misfit : Failure :=
  let width := renderer.width
  let height := renderer.height
  .graphics s!"bitmap of {pixels.size} bytes does not fit a {width}x{height} texture"

/-- The commands that replace the content of the texture. -/
def uploading : List Command :=
  [.bindTexture renderer.texture, .uploadTexture renderer.width renderer.height pixels,
    .bindTexture 0]

def clearing : List Command := [.clearColor, .clear]

/-- The commands that draw the texture over the window. -/
def drawing : List Command :=
  [.useProgram renderer.program, .bindVertexArray renderer.vertexArray, .activateTexture,
    .bindTexture renderer.texture, .drawQuad, .bindTexture 0, .bindVertexArray 0, .useProgram 0]

theorem outcome_upload :
    outcome (renderer.upload pixels) session =
      if renderer.Fits pixels then
        (.ok (), session.recordAll ((renderer.uploading pixels).map .graphics))
      else (.error (renderer.misfit pixels), session) := by
  unfold upload
  dsimp only
  split
  next misfits => rfl
  next fits => exact (if_pos (Decidable.not_not.mp fits)).symm

theorem outcome_clear :
    outcome clear session = (.ok (), session.recordAll (clearing.map .graphics)) := rfl

theorem outcome_draw :
    outcome renderer.draw session =
      (.ok (), session.recordAll (renderer.drawing.map .graphics)) := rfl

end Renderer

/-- How the application ends. -/
inductive Stop where
  | failed (failure : Failure)
  | closed
  deriving DecidableEq

namespace Stop

def status : Stop → Nat
  | .failed _ => 1
  | .closed => 0

def failure? : Stop → Option Failure
  | .failed failure => some failure
  | .closed => none

end Stop

namespace Host

variable (host : Host)

/-- The machine with its bell. -/
def console : Console Bell := ⟨host.machine, host.bell⟩

/-- The display of the machine as it is shown in the window. -/
def bitmap : Array UInt8 := host.machine.core.display.upscale host.scale

/-- Why a redraw fails, if it does. -/
def redrawFailure? : Option Failure :=
  if host.session.stage.refuses .current then some (.graphics Operation.current.refusal)
  else if host.renderer.Fits host.bitmap then
    if host.session.stage.refuses .swap then some (.graphics Operation.swap.refusal) else none
  else some (host.renderer.misfit host.bitmap)

def redrawCalls : List Call :=
  if host.session.stage.refuses .current then [.makeCurrent]
  else if host.renderer.Fits host.bitmap then
    let uploading := host.renderer.uploading host.bitmap
    let commands := uploading ++ Renderer.clearing ++ host.renderer.drawing
    [.makeCurrent] ++ commands.map .graphics ++ [.swapBuffers]
  else [.makeCurrent]

/-- How an event ends the application, if it does: a frame or a redraw fails, or an event of its
window closes it. -/
def stop? : Event → Option Stop
  | .cleared check restart =>
    if (host.clock.tick check restart).1 then
      match host.runFrame.1 with
      | .error fault => some (.failed (.machine fault))
      | .ok _ => none
    else none
  | .redraw => host.redrawFailure?.map .failed
  | .window id event => if id = mainWindow ∧ event.closes host.inputMap then some .closed else none
  | .other => none

/-! ## Redraws and keys -/

theorem outcome_present :
    outcome host.present host.session =
      (match host.redrawFailure? with
        | some failure => .error failure
        | none => .ok (),
        host.session.recordAll host.redrawCalls) := by
  have upload := host.renderer.outcome_upload host.bitmap (host.session.record .makeCurrent)
  unfold present redrawFailure? redrawCalls
  rw [outcome_bind, outcome_attempt]
  cases host.session.stage.refuses .current with
  | true => rfl
  | false =>
      simp only [Bool.false_eq_true, ↓reduceIte]
      rw [outcome_bind, ← bitmap, upload]
      by_cases fits : host.renderer.Fits host.bitmap
      · simp only [if_pos fits]
        rw [outcome_bind, Renderer.outcome_clear]
        dsimp only
        rw [outcome_bind, Renderer.outcome_draw]
        dsimp only
        rw [outcome_attempt]
        simp only [Session.stage_recordAll, List.map_append, Session.recordAll_append]
        have stage : (host.session.record .makeCurrent).stage = host.session.stage := rfl
        rw [stage]
        cases host.session.stage.refuses .swap <;> rfl
      · simp only [if_neg fits]
        rfl

theorem onResized_eq (width height : Nat) :
    host.onResized width height =
      { host with
        session := host.session.recordAll <|
          if width = 0 ∨ height = 0 then []
          else [.resizeSurface width height, .graphics (.viewport width height)] } := by
  unfold onResized Window.resizeSurface Renderer.resize
  by_cases empty : width = 0 ∨ height = 0
  · simp only [if_pos empty]
    rfl
  · simp only [if_neg empty]
    rfl

/-- A host key sets a key of the keypad, ends the application, or does nothing. -/
theorem onKey_eq (key : HostKey) (pressed : Bool) :
    host.onKey key pressed =
      match host.inputMap.binding? key with
      | some (.key bound) => (host.call (.log (.keypad bound pressed))).setKey bound pressed
      | some (.action name) =>
        if pressed = true ∧ name = InputMap.exitAction then
          { host.call (.log .exit) with control := .exit 0 }
        else host
      | none => host.call (.log (.unbound key)) := by
  -- The name that is asked for is trimmed, but has no blanks.
  have trimmed : Text.trim InputMap.exitAction = InputMap.exitAction := by decide +kernel
  unfold onKey InputMap.event?
  cases host.inputMap.binding? key with
  | none => rfl
  | some binding =>
      cases binding with
      | key bound => rfl
      | action name =>
          simp only [Option.map_some, onInput, Binding.key?, Binding.isAction, trimmed,
            Bool.and_eq_true, beq_iff_eq]

section

variable {host : Host} (running : host.isEnded = false)

include running

theorem handle_cleared (check restart : Nat) :
    let clock := (host.clock.tick check restart).2
    let ran := { host.runFrame.2 with clock }
    host.handle (.cleared check restart) =
      if (host.clock.tick check restart).1 then
        match host.runFrame.1 with
        | .error fault => ran.fail (.machine fault)
        | .ok _ => (ran.call .requestRedraw).awaitTick
      else { host with clock }.awaitTick := by
  intro clock ran
  simp only [handle, running, Bool.false_eq_true, ↓reduceIte, onCleared]
  cases (host.clock.tick check restart).1 with
  | false => rfl
  | true =>
      have framed : { host with clock }.runFrame = (host.runFrame.1, ran) := rfl
      simp only [↓reduceIte]
      rw [framed]
      cases host.runFrame.1 <;> rfl

theorem handle_redraw :
    let drawn := { host with session := host.session.recordAll host.redrawCalls }
    host.handle .redraw =
      match host.redrawFailure? with
      | some failure => drawn.fail failure
      | none => drawn := by
  have performed : host.perform host.present =
      match outcome host.present host.session with
      | (.ok (), session) => { host with session }
      | (.error failure, session) => { host with session }.fail failure := rfl
  simp only [handle, running, Bool.false_eq_true, ↓reduceIte, performed, outcome_present]
  cases host.redrawFailure? <;> rfl

theorem handle_window (id : WindowId) (event : WindowEvent) :
    host.handle (.window id event) =
      if id = mainWindow then host.onWindowEvent event else host := by
  simp only [handle, running, Bool.false_eq_true, ↓reduceIte]

theorem handle_other : host.handle .other = host := by
  simp only [handle, running, Bool.false_eq_true, ↓reduceIte]

end

/-! ## Components -/

/-- What an event does to a running application, component by component. -/
structure Reacts (host : Host) (event : Event) (after : Host) : Prop where
  console : after.console =
    host.console.run (Bell.ringing none) (event.request? host.inputMap host.clock).toList
  clock : after.clock = event.clockAfter host.clock
  inputMap : after.inputMap = host.inputMap
  renderer : after.renderer = host.renderer
  scale : after.scale = host.scale
  failure? : after.failure? = ((host.stop? event).bind Stop.failure?).or host.failure?
  control : after.control =
    match host.stop? event with
    | some stop => .exit stop.status
    | none => event.controlAfter host.control host.clock

namespace Reacts

variable {host : Host} {event : Event}

theorem of_ignored (request : event.request? host.inputMap host.clock = none)
    (stop : host.stop? event = none) (clock : event.clockAfter host.clock = host.clock)
    (control : event.controlAfter host.control host.clock = host.control) (session : Session) :
    host.Reacts event { host with session } where
  console := by rw [request]; rfl
  clock := clock.symm
  inputMap := rfl
  renderer := rfl
  scale := rfl
  failure? := by rw [stop]; rfl
  control := by rw [stop]; exact control.symm

end Reacts

section

variable {host : Host} (running : host.isEnded = false)

include running

theorem handle_cleared_reacts (check restart : Nat) :
    host.Reacts (.cleared check restart) (host.handle (.cleared check restart)) := by
  rw [handle_cleared running]
  dsimp only
  cases ticks : (host.clock.tick check restart).1 with
  | false =>
      have request : (Event.cleared check restart).request? host.inputMap host.clock = none := by
        simp only [Event.request?, ticks, Bool.false_eq_true, ↓reduceIte]
      have stop : host.stop? (.cleared check restart) = none := by
        simp only [stop?, ticks, Bool.false_eq_true, ↓reduceIte]
      exact ⟨by rw [request]; rfl, rfl, rfl, rfl, rfl, by rw [stop]; rfl, by rw [stop]; rfl⟩
  | true =>
      have request : (Event.cleared check restart).request? host.inputMap host.clock =
          some .frame := by
        simp only [Event.request?, ticks, ↓reduceIte]
      cases ran : host.runFrame.1 with
      | error fault =>
          have stop : host.stop? (.cleared check restart) = some (.failed (.machine fault)) := by
            simp only [stop?, ticks, ↓reduceIte, ran]
          exact ⟨by rw [request]; rfl, rfl, rfl, rfl, rfl, by rw [stop]; rfl, by rw [stop]; rfl⟩
      | ok flow =>
          have stop : host.stop? (.cleared check restart) = none := by
            simp only [stop?, ticks, ↓reduceIte, ran]
          exact ⟨by rw [request]; rfl, rfl, rfl, rfl, rfl, by rw [stop]; rfl, by rw [stop]; rfl⟩

theorem handle_redraw_reacts : host.Reacts .redraw (host.handle .redraw) := by
  rw [handle_redraw running]
  cases failed : host.redrawFailure? with
  | none =>
      have stop : host.stop? .redraw = none := by
        simp only [stop?, failed, Option.map_none]
      exact .of_ignored rfl stop rfl rfl _
  | some failure =>
      have stop : host.stop? .redraw = some (.failed failure) := by
        simp only [stop?, failed, Option.map_some]
      exact ⟨rfl, rfl, rfl, rfl, rfl, by rw [stop]; rfl, by rw [stop]; rfl⟩

theorem handle_key_reacts (key : HostKey) (pressed : Bool) :
    host.Reacts (.window mainWindow (.key (some key) pressed))
      (host.handle (.window mainWindow (.key (some key) pressed))) := by
  rw [handle_window running, if_pos rfl, onWindowEvent, onKey_eq]
  generalize same : Event.window mainWindow (.key (some key) pressed) = event
  have clock : event.clockAfter host.clock = host.clock := by rw [← same]; rfl
  have control : event.controlAfter host.control host.clock = host.control := by rw [← same]; rfl
  have request : event.request? host.inputMap host.clock =
      ((host.inputMap.binding? key).bind Binding.key?).map fun bound => .setKey bound pressed := by
    rw [← same]
    rfl
  have stop : host.stop? event =
      if pressed = true ∧ host.inputMap.binding? key = some (.action InputMap.exitAction) then
        some .closed
      else none := by
    simp only [← same, stop?, WindowEvent.closes, Bool.and_eq_true, beq_iff_eq, true_and]
  cases bound : host.inputMap.binding? key with
  | none =>
      rw [bound] at request stop
      exact .of_ignored request (stop.trans (if_neg nofun)) clock control _
  | some binding =>
      rw [bound] at request stop
      cases binding with
      | key pad =>
          rw [if_neg nofun] at stop
          exact ⟨by rw [request]; rfl, clock.symm, rfl, rfl, rfl, by rw [stop]; rfl,
            by rw [stop]; exact control.symm⟩
      | action name =>
          by_cases exits : pressed = true ∧ name = InputMap.exitAction
          · rw [if_pos ⟨exits.1, congrArg (some ∘ Binding.action) exits.2⟩] at stop
            simp only [if_pos exits]
            exact ⟨by rw [request]; rfl, clock.symm, rfl, rfl, rfl, by rw [stop]; rfl,
              by rw [stop]; rfl⟩
          · have goesOn : host.stop? event = none := by
              rw [stop]
              refine if_neg fun closes => exits ⟨closes.1, ?_⟩
              cases closes.2
              rfl
            simp only [if_neg exits]
            exact .of_ignored request goesOn clock control _

theorem handle_window_reacts (event : WindowEvent) :
    host.Reacts (.window mainWindow event) (host.handle (.window mainWindow event)) := by
  have handled := handle_window running mainWindow event
  rw [if_pos rfl] at handled
  cases event with
  | resized width height =>
      rw [handled, onWindowEvent, onResized_eq]
      exact .of_ignored rfl rfl rfl rfl _
  | key key? pressed =>
      cases key? with
      | none =>
          rw [handled]
          exact .of_ignored rfl rfl rfl rfl _
      | some key => exact handle_key_reacts running key pressed
  | focused gained =>
      rw [handled]
      cases gained with
      | false => exact ⟨rfl, rfl, rfl, rfl, rfl, rfl, rfl⟩
      | true => exact .of_ignored rfl rfl rfl rfl _
  | closeRequested =>
      rw [handled]
      exact ⟨rfl, rfl, rfl, rfl, rfl, rfl, rfl⟩
  | other =>
      rw [handled]
      exact .of_ignored rfl rfl rfl rfl _

theorem handle_reacts (event : Event) : host.Reacts event (host.handle event) := by
  cases event with
  | cleared check restart => exact handle_cleared_reacts running check restart
  | redraw => exact handle_redraw_reacts running
  | other =>
      rw [handle_other running]
      exact .of_ignored rfl rfl rfl rfl _
  | window id event =>
      by_cases main : id = mainWindow
      · subst main
        exact handle_window_reacts running event
      · have request : (Event.window id event).request? host.inputMap host.clock = none :=
          if_neg main
        have stop : host.stop? (.window id event) = none := if_neg fun closes => main closes.1
        rw [handle_window running, if_neg main]
        exact .of_ignored request stop rfl rfl _

end

end Host

end Chip8.Desktop
