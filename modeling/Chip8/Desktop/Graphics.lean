import Chip8.Digest
import Chip8.Numeral

/-!
# Graphics commands

The commands that the renderer gives to OpenGL, and how a recording shows them: the command with its
arguments in order, constants in hexadecimal, and bulk data by its digest.
-/

namespace Chip8.Desktop

/-- The kinds of shader that make up a program. -/
inductive ShaderKind where
  | vertex
  | fragment
  deriving DecidableEq, Repr

/-- The constant that names a kind of shader. -/
def ShaderKind.constant : ShaderKind → Nat
  | .vertex => 0x8B31
  | .fragment => 0x8B30

/-- A graphics object; objects of all kinds share one sequence of names, and zero is none. -/
abbrev ObjectName := Nat

/-- A command that changes the state of the graphics context. -/
inductive Command where
  | createProgram (program : ObjectName)
  | createShader (kind : ShaderKind) (shader : ObjectName)
  | shaderSource (shader : ObjectName) (text : String)
  | compileShader (shader : ObjectName)
  | attachShader (program shader : ObjectName)
  | linkProgram (program : ObjectName)
  | detachShader (program shader : ObjectName)
  | deleteShader (shader : ObjectName)
  | createVertexArray (vertexArray : ObjectName)
  | createTexture (texture : ObjectName)
  | bindTexture (texture : ObjectName)
  /-- Sets a parameter of the bound texture. -/
  | textureParameter (parameter value : Nat)
  /-- Rows of uploaded bitmaps start at every byte. -/
  | packRows
  /-- Gives the bound texture a size, with undefined content. -/
  | defineTexture (width height : Nat)
  /-- Replaces the content of the bound texture. -/
  | uploadTexture (width height : Nat) (pixels : Array UInt8)
  | viewport (width height : Nat)
  /-- Sets the colour that clearing fills in to black. -/
  | clearColor
  | clear
  | useProgram (program : ObjectName)
  | bindVertexArray (vertexArray : ObjectName)
  | activateTexture
  /-- Draws the four vertices of a strip of triangles. -/
  | drawQuad
  | deleteProgram (program : ObjectName)
  | deleteVertexArray (vertexArray : ObjectName)
  | deleteTexture (texture : ObjectName)
  deriving DecidableEq

namespace Command

/-- A constant in a recording. -/
def constant (value : Nat) : String := "0x" ++ Numeral.hex 4 value

/-- The constant that selects the only kind of texture in use. -/
def texture2D : Nat := 0x0DE1

/-- The texture parameters: filters that pick the nearest texel, and coordinates that stop at the
edge. -/
def samplingParameters : List (Nat × Nat) :=
  [(0x2801, 0x2600), (0x2800, 0x2600), (0x2802, 0x812F), (0x2803, 0x812F)]

/-- A size as the signed 32-bit word that the interface takes. -/
def signed (size : Nat) : Int := Int.bmod size Numeral.span32

/-- A command with its arguments. -/
def listed (name : String) (arguments : List String) : String :=
  " ".intercalate (name :: arguments)

/-- A command that creates an object. -/
def creating (name : String) (arguments : List String) (object : ObjectName) : String :=
  listed name arguments ++ s!" -> {object}"

/-- How a recording shows a command. -/
def text : Command → String
  | .createProgram program => creating "CreateProgram" [] program
  | .createShader kind shader => creating "CreateShader" [constant kind.constant] shader
  | .shaderSource shader source => s!"ShaderSource {shader} " ++ source
  | .compileShader shader => s!"CompileShader {shader}"
  | .attachShader program shader => s!"AttachShader {program} {shader}"
  | .linkProgram program => s!"LinkProgram {program}"
  | .detachShader program shader => s!"DetachShader {program} {shader}"
  | .deleteShader shader => s!"DeleteShader {shader}"
  | .createVertexArray vertexArray => creating "GenVertexArrays" [] vertexArray
  | .createTexture texture => creating "GenTextures" [] texture
  | .bindTexture texture => listed "BindTexture" [constant texture2D, toString texture]
  | .textureParameter parameter value =>
    listed "TexParameteri" [constant texture2D, constant parameter, constant value]
  | .packRows => listed "PixelStorei" [constant 0x0CF5, "1"]
  | .defineTexture width height =>
    listed "TexImage2D" [constant texture2D, "0", constant 0x8051, toString (signed width),
      toString (signed height), "0", constant 0x1907, constant 0x1401, "null"]
  | .uploadTexture width height pixels =>
    listed "TexSubImage2D" [constant texture2D, "0", "0", "0", toString (signed width),
      toString (signed height), constant 0x1907, constant 0x1401,
      Numeral.lowerHex 16 (Digest.fnv1a pixels).toNat]
  | .viewport width height =>
    listed "Viewport" ["0", "0", toString (signed width), toString (signed height)]
  | .clearColor => "ClearColor 0 0 0 1"
  | .clear => listed "Clear" [constant 0x4000]
  | .useProgram program => s!"UseProgram {program}"
  | .bindVertexArray vertexArray => s!"BindVertexArray {vertexArray}"
  | .activateTexture => listed "ActiveTexture" [constant 0x84C0]
  | .drawQuad => listed "DrawArrays" [constant 0x0005, "0", "4"]
  | .deleteProgram program => s!"DeleteProgram {program}"
  | .deleteVertexArray vertexArray => s!"DeleteVertexArrays {vertexArray}"
  | .deleteTexture texture => s!"DeleteTextures {texture}"

end Command

end Chip8.Desktop
