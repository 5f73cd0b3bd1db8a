import Chip8.Desktop.Graphics
import Chip8.Desktop.Notice

/-!
# Stages and sessions

The surroundings of the windowed application, as far as it can tell: a `Stage` says what the window
system offers and which operations fail, and a `Session` records the calls that were made. Actions
on a session are written in the monad `Staged`, and in `Starting` if they can also panic; a failing
call is recorded like any other.
-/

namespace Chip8.Desktop

/-- Operations of the window system and the graphics interface that can fail. -/
inductive Operation where
  /-- Creating the event loop. -/
  | eventLoop
  /-- Opening the display and its window. -/
  | display
  /-- Creating the window after the display. -/
  | finalize
  /-- Creating a context of the desktop interface. -/
  | desktopContext
  /-- Creating a context of the embedded interface. -/
  | embeddedContext
  | surface
  /-- Making the new context current. -/
  | firstCurrent
  | vsync
  /-- Being current after that. -/
  | isCurrent
  /-- Making the context current again. -/
  | current
  | swap
  | createProgram
  | createVertex
  | compileVertex
  | createFragment
  | compileFragment
  | link
  | createVertexArray
  | createTexture
  deriving DecidableEq, Repr

namespace Operation

/-- The name of an operation. -/
def name : Operation → String
  | .eventLoop => "event_loop"
  | .display => "display"
  | .finalize => "finalize"
  | .desktopContext => "opengl"
  | .embeddedContext => "gles"
  | .surface => "surface"
  | .firstCurrent => "first_current"
  | .vsync => "vsync"
  | .isCurrent => "is_current"
  | .current => "current"
  | .swap => "swap"
  | .createProgram => "create_program"
  | .createVertex => "create_vertex"
  | .compileVertex => "compile_vertex"
  | .createFragment => "create_fragment"
  | .compileFragment => "compile_fragment"
  | .link => "link"
  | .createVertexArray => "create_vertex_array"
  | .createTexture => "create_texture"

/-- Every operation. -/
def all : List Operation :=
  [.eventLoop, .display, .finalize, .desktopContext, .embeddedContext, .surface, .firstCurrent,
    .vsync, .isCurrent, .current, .swap, .createProgram, .createVertex, .compileVertex,
    .createFragment, .compileFragment, .link, .createVertexArray, .createTexture]

/-- The operation with a name. -/
def ofName? (name : String) : Option Operation := all.find? (·.name == name)

/-- How the failure of an operation is described. -/
def refusal (operation : Operation) : String := operation.name ++ " failed"

end Operation

/-- What the window system offers. -/
structure Stage where
  /-- The number of samples of each graphics configuration on offer. -/
  samples : List Nat
  /-- Whether the window can only be created after the display. -/
  lateWindow : Bool
  /-- What the graphics context tells about itself. -/
  info : GraphicsInfo
  /-- What is logged about a shader that does not compile. -/
  shaderLog : ObjectName → String
  /-- What is logged about a program that does not link. -/
  programLog : String
  /-- The operations that fail. -/
  failing : List Operation

namespace Stage

/-- From now on an operation fails. -/
def fail (stage : Stage) (operation : Operation) : Stage :=
  { stage with failing := operation :: stage.failing }

/-- From now on an operation works. -/
def mend (stage : Stage) (operation : Operation) : Stage :=
  { stage with failing := stage.failing.filter (· != operation) }

end Stage

/-- The variants of the graphics interface. -/
inductive ContextKind where
  | desktop
  | embedded
  deriving DecidableEq, Repr

/-- The variant with its version, in a recording. -/
def ContextKind.text : ContextKind → String
  | .desktop => "OpenGl 3.3 Core"
  | .embedded => "Gles 3.0"

/-- The title and the size of a window that is asked for. -/
structure WindowRequest where
  title : String
  width : Nat
  height : Nat
  deriving DecidableEq, Repr

/-- The request in a recording. -/
def WindowRequest.text (request : WindowRequest) : String :=
  Text.quoted request.title ++ s!" {request.width}x{request.height} resizable=true"

/-- A call that the application makes. -/
inductive Call where
  | log (notice : Notice)
  /-- Nothing shows yet: the event loop is what windows are made for. -/
  | createEventLoop
  | buildDisplay (request : WindowRequest)
  | pickConfig (config : Nat)
  | finalizeWindow (config : Nat) (request : WindowRequest)
  | createContext (config : Nat) (kind : ContextKind)
  | createSurface (config : Nat)
  | makeFirstCurrent
  | makeCurrent
  | setVsync
  | swapBuffers
  | resizeSurface (width height : Nat)
  | requestRedraw
  | graphics (command : Command)
  /-- The window is closed and its graphics context ceases to exist. -/
  | releaseContext
  deriving DecidableEq

namespace Call

/-- How a recording shows a call; the event loop and the release of the context leave no trace in
it. -/
def text? : Call → Option String
  | .log notice => some ("log " ++ notice.level.name ++ " " ++ notice.text)
  | .createEventLoop => none
  | .buildDisplay request =>
    some ("build_display Some(FallbackEgl) hardware=Some(true) " ++ request.text)
  | .pickConfig config => some s!"picked config {config}"
  | .finalizeWindow config request =>
    some (s!"finalize_window config {config} " ++ request.text)
  | .createContext config kind => some (s!"create_context config {config} " ++ kind.text)
  | .createSurface config => some s!"create_window_surface config {config}"
  | .makeFirstCurrent => some "make_current (first)"
  | .makeCurrent => some "make_current"
  | .setVsync => some "set_swap_interval Wait(1)"
  | .swapBuffers => some "swap_buffers"
  | .resizeSurface width height => some s!"resize_surface {width} {height}"
  | .requestRedraw => some "request_redraw"
  | .graphics command => some command.text
  | .releaseContext => none

/-- The notice of a call that logs one. -/
def notice? : Call → Option Notice
  | .log notice => some notice
  | _ => none

end Call

/-- The calls made on a stage so far, and the number of graphics objects created. -/
structure Session where
  stage : Stage
  calls : Array Call
  created : Nat

namespace Session

/-- A session without calls. -/
def start (stage : Stage) : Session := ⟨stage, #[], 0⟩

/-- Adds a call. -/
def record (session : Session) (call : Call) : Session :=
  { session with calls := session.calls.push call }

/-- Adds the records of the machine to the log. -/
def logRecords (session : Session) (records : Array Record) : Session :=
  records.foldl (fun session record => session.record (.log (.machine record))) session

/-- Adds a graphics command. -/
def command (session : Session) (command : Command) : Session := session.record (.graphics command)

/-- Forgets the calls made so far. -/
def cleared (session : Session) : Session := { session with calls := #[] }

end Session

/-- Actions on a session that may stop for a cause. -/
abbrev StagedWith (cause : Type) := ExceptT cause (StateM Session)

/-- Actions on a session that may fail. -/
abbrev Staged := StagedWith Failure

/-- Actions on a session that may also panic. -/
abbrev Starting := StagedWith Halt

namespace Staged

variable {cause : Type}

/-- Makes a call. -/
def call (call : Call) : StagedWith cause Unit := modify (·.record call)

/-- Logs a notice. -/
def log (notice : Notice) : StagedWith cause Unit := call (.log notice)

/-- Gives a graphics command. -/
def command (command : Command) : StagedWith cause Unit := modify (·.command command)

/-- Whether an operation fails. -/
def fails (operation : Operation) : StagedWith cause Bool := do
  return (← get).stage.failing.contains operation

/-- Makes a call that stops with its operation. -/
def attempt (operation : Operation) (made : Call) (stopped : String → cause) :
    StagedWith cause Unit := do
  call made
  if ← fails operation then throw (stopped operation.refusal)

/-- The name of a new graphics object. -/
def newObject : StagedWith cause ObjectName :=
  modifyGet fun session => (session.created + 1, { session with created := session.created + 1 })

/-- A failure where the application may also panic. -/
def raise {α : Type} (action : Staged α) : Starting α := ExceptT.adapt Halt.failed action

end Staged

end Chip8.Desktop
