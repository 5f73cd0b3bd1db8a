/-!
# Layout

The fixed sizes and addresses of the machine, and the built-in glyphs.
-/

namespace Chip8

/-- Number of addressable bytes, `0x000` to `0xFFE`. -/
abbrev memorySize : Nat := 0xFFF

/-- Address at which programs are loaded and started. -/
def programStart : Nat := 0x200

/-- Largest program image: the memory from the program start to the last addressable byte. -/
def maxProgramSize : Nat := memorySize - programStart

/-- Levels of nesting allowed in the call stack. -/
def stackLimit : Nat := 0xFF

/-- Columns of the display. -/
abbrev displayWidth : Nat := 64

/-- Rows of the display. -/
abbrev displayHeight : Nat := 32

/-- Address of the built-in glyphs. -/
def fontStart : Nat := 0x000

/-- Bytes of a glyph, one for each of its rows. -/
def glyphHeight : Nat := 5

/-- The glyphs of the sixteen hexadecimal digits, four columns wide. -/
def font : List UInt8 := [
  0xF0, 0x90, 0x90, 0x90, 0xF0,
  0x20, 0x60, 0x20, 0x20, 0x70,
  0xF0, 0x10, 0xF0, 0x80, 0xF0,
  0xF0, 0x10, 0xF0, 0x10, 0xF0,
  0x90, 0x90, 0xF0, 0x10, 0x10,
  0xF0, 0x80, 0xF0, 0x10, 0xF0,
  0xF0, 0x80, 0xF0, 0x90, 0xF0,
  0xF0, 0x10, 0x20, 0x40, 0x40,
  0xF0, 0x90, 0xF0, 0x90, 0xF0,
  0xF0, 0x90, 0xF0, 0x10, 0xF0,
  0xF0, 0x90, 0xF0, 0x90, 0x90,
  0xE0, 0x90, 0xE0, 0x90, 0xE0,
  0xF0, 0x80, 0x80, 0x80, 0xF0,
  0xE0, 0x90, 0x90, 0x90, 0xE0,
  0xF0, 0x80, 0xF0, 0x80, 0xF0,
  0xF0, 0x80, 0xF0, 0x80, 0x80]

end Chip8
