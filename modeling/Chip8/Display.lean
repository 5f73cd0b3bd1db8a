import Chip8.Bitmap
import Chip8.Numeral

/-!
# Display

A monochrome bitmap of 64 by 32 cells. Sprites are combined with it by exclusive or: a lit pixel
of a sprite inverts its cell, pixels outside of the grid are clipped, and erasing a drawn cell
counts as a collision.
-/

namespace Chip8

/-- Number of cells of the display. -/
abbrev cellCount : Nat := displayWidth * displayHeight

/-- The grid of cells, row by row from the top. A cell holds the common value of its three colour
channels. -/
structure Display where
  cells : Vector UInt8 cellCount
  deriving DecidableEq

namespace Display

/-- Channel value of a cleared cell. -/
def clearValue : UInt8 := 0xFF

/-- Channel value of a cell that a sprite has drawn. -/
def drawnValue : UInt8 := 0x00

/-- The display with every cell cleared. -/
def blank : Display := ⟨Vector.replicate cellCount clearValue⟩

instance : Inhabited Display := ⟨blank⟩

/-- Whether a position lies on the grid. -/
abbrev onGrid (x y : Nat) : Prop := x < displayWidth ∧ y < displayHeight

/-- Cells on the grid have an index below the number of cells. -/
theorem index_lt {x y : Nat} (inside : onGrid x y) : x + y * displayWidth < cellCount := by
  have := inside.1
  have := inside.2
  simp only [cellCount, displayWidth, displayHeight] at *
  omega

/-- Channel value of a cell, or nothing outside of the grid. -/
def cell? (display : Display) (x y : Nat) : Option UInt8 :=
  if inside : onGrid x y then
    some (display.cells.get ⟨x + y * displayWidth, index_lt inside⟩)
  else none

/-- Whether a sprite has drawn the cell. -/
def isDrawn (display : Display) (x y : Nat) : Bool :=
  display.cell? x y == some drawnValue

/-- Sets the channels of a cell; positions outside of the grid are ignored. -/
def setCell (display : Display) (x y : Nat) (value : UInt8) : Display :=
  if inside : onGrid x y then
    ⟨display.cells.set (x + y * displayWidth) value (index_lt inside)⟩
  else display

/-- Inverts a cell, and tells whether it was drawn and is now erased. -/
def toggle (display : Display) (x y : Nat) : Display × Bool :=
  match display.cell? x y with
  | none => (display, false)
  | some value =>
    if value = drawnValue then (display.setCell x y clearValue, true)
    else (display.setCell x y drawnValue, false)

/-- Inverts each cell of a list in turn, and tells whether any was erased. -/
def toggleAll (display : Display) (cells : List (Nat × Nat)) : Display × Bool :=
  cells.foldl
    (fun (state : Display × Bool) cell =>
      let toggled := state.1.toggle cell.1 cell.2
      (toggled.1, state.2 || toggled.2))
    (display, false)

/-- Whether a sprite row lights the column, counted from the left: the highest bit is leftmost. -/
def isLit (row : UInt8) (column : Nat) : Bool :=
  row.toNat.testBit (7 - column)

/-- The column that lies a number of places to the right; columns are 64-bit words, so their sum
wraps at the end of that range. -/
def columnRight (x offset : Nat) : Nat := (x + offset) % Numeral.span64

/-- The cells that a sprite row lights, from left to right. -/
def litCells (x y : Nat) (row : UInt8) : List (Nat × Nat) :=
  ((List.range 8).filter (isLit row)).map fun column => (columnRight x column, y)

/-- Combines one sprite row with the display, and tells whether any cell was erased. -/
def drawRow (display : Display) (x y : Nat) (row : UInt8) : Display × Bool :=
  display.toggleAll (litCells x y row)

/-- Combines one sprite row with the display in checked arithmetic: it fails if the column of a lit
pixel is not in the range of a word. -/
def drawRow? (display : Display) (x y : Nat) (row : UInt8) : Option (Display × Bool) :=
  if ((List.range 8).filter (isLit row)).all (x + · < Numeral.span64) then
    some (display.drawRow x y row)
  else none

/-- Combines sprite rows with the display from the top down, and tells whether any cell was
erased. -/
def drawSprite (display : Display) (x : Nat) : (y : Nat) → List UInt8 → Display × Bool
  | _, [] => (display, false)
  | y, row :: rows =>
    let drawn := display.drawRow x y row
    let rest := drawSprite drawn.1 x (y + 1) rows
    (rest.1, drawn.2 || rest.2)

/-- The channel bytes of all cells, row by row from the top. -/
def rgb (display : Display) : Array UInt8 :=
  display.cells.toArray.flatMap (Array.replicate Bitmap.pixelSize)

/-- The bitmap in which every cell is a square block of pixels of the given size. -/
def upscale (display : Display) (scale : Nat) : Array UInt8 :=
  (Bitmap.bands? display.rgb scale).get (by rw [Bitmap.bands?_eq_some, Option.isSome_some])

/-- The same bitmap, if a buffer can hold it. -/
def upscale? (display : Display) (scale : Nat) : Option (Array UInt8) :=
  Bitmap.enlarge? display.rgb scale

/-- One row of the text picture, with its line end. -/
def textRow (display : Display) (y : Nat) : List Char :=
  (List.range displayWidth).map (fun x => if display.isDrawn x y then '#' else '.') ++ ['\n']

/-- The text picture: a hash for a drawn cell, a point for any other. -/
def text (display : Display) : String :=
  String.ofList ((List.range displayHeight).flatMap display.textRow)

/-- The diagnostic form, which gives the size only. -/
def diagnostic (_ : Display) : String :=
  s!"Display \x7b size: [{displayWidth}, {displayHeight}], .. \x7d"

end Display

end Chip8
