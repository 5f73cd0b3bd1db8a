import Chip8.Desktop.Stage

/-!
# Renderer

Draws a bitmap over the whole window: a texture of the size of the bitmap, on a quad whose corners
the vertex shader takes from the number of the vertex.
-/

namespace Chip8.Desktop

/-- The graphics objects of the renderer and the size of its texture in pixels. -/
structure Renderer where
  program : ObjectName
  vertexArray : ObjectName
  texture : ObjectName
  width : Nat
  height : Nat
  deriving DecidableEq, Repr

namespace Renderer

open Staged

/-- The shader that places the corners of the quad. -/
def vertexShader : String := Text.lines [
  "",
  "const vec2 VERTS[4] = vec2[4](",
  "    vec2(-1.0, -1.0),",
  "    vec2( 1.0, -1.0),",
  "    vec2(-1.0,  1.0),",
  "    vec2( 1.0,  1.0)",
  ");",
  "",
  "out vec2 v_uv;",
  "",
  "void main() \x7b",
  "    vec2 vert = VERTS[gl_VertexID];",
  "    // Texture rows are stored top row first.",
  "    v_uv = vec2((vert.x + 1.0) * 0.5, (1.0 - vert.y) * 0.5);",
  "    gl_Position = vec4(vert, 0.0, 1.0);",
  "\x7d"]

/-- The shader that colours the quad from the texture. -/
def fragmentShader : String := Text.lines [
  "",
  "in vec2 v_uv;",
  "",
  "uniform sampler2D u_screen;",
  "",
  "out vec4 o_color;",
  "",
  "void main() \x7b",
  "    o_color = vec4(texture(u_screen, v_uv).rgb, 1.0);",
  "\x7d"]

/-- What stands before a shader, by the variant of the graphics interface. -/
def shaderHeader (info : GraphicsInfo) : String :=
  if info.isEmbedded then "#version 300 es\nprecision mediump float;" else "#version 330 core"

/-- Creates an object by a command, which gives no name if the object is refused. -/
def createObject (operation : Operation) (creation : ObjectName → Command) :
    Staged ObjectName := do
  if ← fails operation then
    command (creation 0)
    throw (.graphics operation.refusal)
  let object ← newObject
  command (creation object)
  return object

/-- The operation of creating a shader. -/
def creating : ShaderKind → Operation
  | .vertex => .createVertex
  | .fragment => .createFragment

/-- The operation of compiling a shader. -/
def compiling : ShaderKind → Operation
  | .vertex => .compileVertex
  | .fragment => .compileFragment

/-- Compiles a shader and attaches it to a program. -/
def addShader (program : ObjectName) (kind : ShaderKind) (source : String) :
    Staged ObjectName := do
  let stage := (← get).stage
  let shader ← createObject (creating kind) (.createShader kind)
  command (.shaderSource shader (shaderHeader stage.info ++ "\n" ++ source))
  command (.compileShader shader)
  if ← fails (compiling kind) then throw (.graphics (stage.shaderLog shader))
  command (.attachShader program shader)
  return shader

/-- Takes a shader off a linked program and deletes it. -/
def removeShader (program shader : ObjectName) : Staged Unit := do
  command (.detachShader program shader)
  command (.deleteShader shader)

/-- Builds the program of both shaders. -/
def createProgram : Staged ObjectName := do
  let program ← createObject .createProgram .createProgram
  let vertex ← addShader program .vertex vertexShader
  let fragment ← addShader program .fragment fragmentShader
  command (.linkProgram program)
  if ← fails .link then throw (.graphics (← get).stage.programLog)
  removeShader program vertex
  removeShader program fragment
  return program

/-- Creates an empty texture of a size. -/
def createTexture (width height : Nat) : Staged ObjectName := do
  let texture ← createObject .createTexture .createTexture
  command (.bindTexture texture)
  for parameter in Command.samplingParameters do
    command (.textureParameter parameter.1 parameter.2)
  command .packRows
  command (.defineTexture width height)
  command (.bindTexture 0)
  return texture

/-- Creates the renderer of bitmaps of a size. -/
def create (width height : Nat) : Staged Renderer := do
  let program ← createProgram
  let vertexArray ← createObject .createVertexArray .createVertexArray
  let texture ← createTexture width height
  command (.viewport width height)
  return { program, vertexArray, texture, width, height }

/-- Replaces the content of the texture by a bitmap of exactly its size. -/
def upload (renderer : Renderer) (pixels : Array UInt8) : Staged Unit := do
  let width := renderer.width
  let height := renderer.height
  if pixels.size ≠ width * height * 3 then
    throw (.graphics s!"bitmap of {pixels.size} bytes does not fit a {width}x{height} texture")
  command (.bindTexture renderer.texture)
  command (.uploadTexture width height pixels)
  command (.bindTexture 0)

/-- Fills the window with black. -/
def clear : Staged Unit := do
  command .clearColor
  command .clear

/-- Draws the texture over the whole window. -/
def draw (renderer : Renderer) : Staged Unit := do
  command (.useProgram renderer.program)
  command (.bindVertexArray renderer.vertexArray)
  command .activateTexture
  command (.bindTexture renderer.texture)
  command .drawQuad
  command (.bindTexture 0)
  command (.bindVertexArray 0)
  command (.useProgram 0)

/-- Stretches what is drawn over a window of another size. -/
def resize (width height : Nat) : Staged Unit := command (.viewport width height)

/-- Deletes the objects of the renderer. -/
def delete (renderer : Renderer) (session : Session) : Session :=
  ((session.command (.deleteProgram renderer.program)).command
    (.deleteVertexArray renderer.vertexArray)).command (.deleteTexture renderer.texture)

end Renderer

end Chip8.Desktop
