import Chip8.Desktop.Stage

/-!
# Windows

Creating the window and its graphics context. Among the configurations on offer the first with the
most samples is taken, and none on offer is a panic; the desktop variant of the graphics interface
is preferred to the embedded one; and a display that cannot synchronise with the screen is only
reported.
-/

namespace Chip8.Desktop

/-- A graphics configuration on offer: its index and its number of samples. -/
structure GraphicsConfig where
  index : Nat
  samples : Nat
  deriving DecidableEq, Repr

namespace Window

open Staged

/-- Compares the remaining configurations with the best so far. -/
def bestFrom (best : GraphicsConfig) : (index : Nat) → List Nat → Starting GraphicsConfig
  | _, [] => pure best
  | index, samples :: rest => do
    log (.considered samples)
    bestFrom (if best.samples < samples then ⟨index, samples⟩ else best) (index + 1) rest

/-- Picks a configuration, of which the application expects at least one. -/
def pickConfig : Starting GraphicsConfig := do
  match (← get).stage.samples with
  | [] => throw (.panicked "the system must supply at least one GL config")
  | samples :: rest => bestFrom ⟨0, samples⟩ 1 rest

/-- Creates a graphics context, embedded if the desktop interface is refused. -/
def createContext (config : Nat) : Staged Unit := do
  call (.createContext config .desktop)
  if ← fails .desktopContext then
    log (.fallingBack Operation.desktopContext.refusal)
    attempt .embeddedContext (.createContext config .embedded) .graphics

/-- Asks for frames that are synchronised with the screen. -/
def setVsync : Staged Unit := do
  log .settingVsync
  call .setVsync
  if ← fails .vsync then log (.vsyncFailed Operation.vsync.refusal)

/-- Creates what a window still lacks once a configuration is picked: itself, if it could not be
created before, and a graphics context that is current. -/
def complete (config : Nat) (request : WindowRequest) : Staged Unit := do
  if (← get).stage.lateWindow then
    log .finalizing
    attempt .finalize (.finalizeWindow config request) .window
  createContext config
  attempt .surface (.createSurface config) .graphics
  attempt .firstCurrent .makeFirstCurrent .graphics
  setVsync
  if ← fails .isCurrent then
    throw (.graphics "context must be current to load OpenGL functions")

/-- Creates a window with a graphics context that is current. -/
def create (request : WindowRequest) : Starting Unit := do
  raise (attempt .display (.buildDisplay request) .graphics)
  let config ← pickConfig
  call (.pickConfig config.index)
  log (.picked config.samples)
  raise (complete config.index request)

/-- Resizes the surface of the window, unless it would be empty. -/
def resizeSurface (width height : Nat) : Staged Bool := do
  if width = 0 ∨ height = 0 then return false
  call (.resizeSurface width height)
  return true

end Window

end Chip8.Desktop
