import Chip8.Desktop.Window
import Chip8.Proofs.Desktop.Phases

/-!
# Setting up the window

Whether a window with a current graphics context can be had is read off the stage
(`Stage.windowFailure?`).
-/

namespace Chip8.Desktop

open Staged

/-- Why a window for which a graphics configuration is picked does not get a current context: the
first reason that applies. -/
def Stage.completionFailure? (stage : Stage) : Option Failure :=
  (if stage.lateWindow then stage.refusal? .finalize .window else none).or <|
  (if stage.refuses .desktopContext then stage.refusal? .embeddedContext .graphics else none).or <|
  (stage.refusal? .surface .graphics).or <|
  (stage.refusal? .firstCurrent .graphics).or <|
  if stage.refuses .isCurrent then
    some (.graphics "context must be current to load OpenGL functions")
  else none

/-- Why no window with a current graphics context is to be had: the first reason that applies. -/
def Stage.windowFailure? (stage : Stage) : Option Halt :=
  ((stage.refusal? .display .graphics).map .failed).or <|
  (if stage.samples = [] then some (.panicked "the system must supply at least one GL config")
    else none).or <|
  stage.completionFailure?.map .failed

namespace Window

variable {stage : Stage}

theorem does_bestFrom (best : GraphicsConfig) (index : Nat) (samples : List Nat) :
    Does stage .window (bestFrom best index samples) none := by
  induction samples generalizing best index with
  | nil => exact .pure best
  | cons count samples ih =>
      rw [bestFrom]
      exact .andThen (.call List.mem_cons_self) fun _ => ih _ _

theorem does_pickConfig :
    Does stage .window pickConfig
      (if stage.samples = [] then some (.panicked "the system must supply at least one GL config")
      else none) := by
  apply Does.get_bind
  intro session same
  rw [same]
  cases stage.samples with
  | nil => exact .throw _
  | cons samples rest => exact does_bestFrom _ _ _

theorem does_createContext (config : Nat) :
    Does stage .window (createContext config)
      (if stage.refuses .desktopContext then stage.refusal? .embeddedContext .graphics
      else none) := by
  apply Does.andThen (.call List.mem_cons_self)
  intro _
  apply Does.fails_bind
  cases stage.refuses .desktopContext with
  | false => exact .pure ()
  | true => exact .andThen (.call List.mem_cons_self) fun _ => .attempt List.mem_cons_self

theorem does_setVsync : Does stage .window setVsync none := by
  apply Does.andThen (.call List.mem_cons_self)
  intro _
  apply Does.andThen (.call List.mem_cons_self)
  intro _
  apply Does.fails_bind
  cases stage.refuses .vsync with
  | false => exact .pure ()
  | true => exact .call List.mem_cons_self

theorem does_checkCurrent (failure : Failure) :
    Does stage .window (do if ← fails .isCurrent then throw failure)
      (if stage.refuses .isCurrent then some failure else none) := by
  apply Does.fails_bind
  cases stage.refuses .isCurrent with
  | false => exact .pure ()
  | true => exact .throw failure

theorem does_complete (config : Nat) (request : WindowRequest) :
    Does stage .window (complete config request) stage.completionFailure? := by
  unfold Stage.completionFailure?
  apply Does.get_bind
  intro session same
  rw [same]
  -- What comes next is the same whether or not the window is still to be created.
  have context :
      Does stage .window
        (do
          createContext config
          attempt .surface (.createSurface config) Failure.graphics
          attempt .firstCurrent .makeFirstCurrent Failure.graphics
          setVsync
          if ← fails .isCurrent then
            throw (.graphics "context must be current to load OpenGL functions")) _ :=
    .bind (does_createContext config) fun _ => .bind (.attempt List.mem_cons_self) fun _ =>
      .bind (.attempt List.mem_cons_self) fun _ => .andThen does_setVsync fun _ =>
        does_checkCurrent _
  cases stage.lateWindow with
  | false => exact context
  | true =>
      apply Does.andThen (.call List.mem_cons_self)
      intro _
      exact .bind (.attempt List.mem_cons_self) fun _ => context

theorem does_create (request : WindowRequest) :
    Does stage .window (create request) stage.windowFailure? := by
  apply Does.bind (Does.raise (.attempt List.mem_cons_self))
  intro _
  apply Does.bind does_pickConfig
  intro config
  apply Does.andThen (.call List.mem_cons_self)
  intro _
  apply Does.andThen (.call List.mem_cons_self)
  intro _
  exact (does_complete config.index request).raise

end Window

end Chip8.Desktop
