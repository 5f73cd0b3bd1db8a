import Chip8.Proofs.Display

/-!
# Framebuffers

A display as it is stored: each cell takes three bytes, one for each of its colour channels.
Whatever is done to a display and to its bytes, the bytes go on to hold the values of the cells
(`Framebuffer.run_shows`), so the channels of a cell never differ.
-/

namespace Chip8

/-- The bytes of a display, row by row from the top. -/
structure Framebuffer where
  pixels : Vector UInt8 (cellCount * Bitmap.pixelSize)
  deriving DecidableEq

namespace Framebuffer

open Display

/-- The bytes of the display with every cell cleared. -/
def blank : Framebuffer := ⟨.replicate _ clearValue⟩

/-- Gives bytes that follow one another the same value. -/
def fill (framebuffer : Framebuffer) (start : Nat) (value : UInt8) : (count : Nat) → Framebuffer
  | 0 => framebuffer
  | count + 1 =>
    let filled := fill framebuffer start value count
    ⟨filled.pixels.setIfInBounds (start + count) value⟩

/-- Clears every cell. -/
def clear (framebuffer : Framebuffer) : Framebuffer :=
  framebuffer.fill 0 clearValue (cellCount * Bitmap.pixelSize)

/-- Where the bytes of a cell begin, or nothing outside of the grid. -/
def offset? (x y : Nat) : Option Nat :=
  if onGrid x y then some (Bitmap.pixelSize * (x + y * displayWidth)) else none

/-- Channel value of a cell, which is that of its first channel. -/
def cell? (framebuffer : Framebuffer) (x y : Nat) : Option UInt8 :=
  (offset? x y).bind fun index => framebuffer.pixels[index]?

/-- Writes the same value into all channels of a cell. -/
def setCell (framebuffer : Framebuffer) (x y : Nat) (value : UInt8) : Framebuffer :=
  match offset? x y with
  | some index => framebuffer.fill index value Bitmap.pixelSize
  | none => framebuffer

/-- Inverts a cell, and tells whether it was drawn and is now erased. -/
def toggle (framebuffer : Framebuffer) (x y : Nat) : Framebuffer × Bool :=
  match framebuffer.cell? x y with
  | none => (framebuffer, false)
  | some value =>
    if value = drawnValue then (framebuffer.setCell x y clearValue, true)
    else (framebuffer.setCell x y drawnValue, false)

/-- Inverts the cells of a sprite row column by column, and tells whether any was erased. -/
def drawRow (framebuffer : Framebuffer) (x y : Nat) (row : UInt8) : Framebuffer × Bool :=
  (List.range 8).foldl
    (fun (state : Framebuffer × Bool) column =>
      if isLit row column then
        let toggled := state.1.toggle (columnRight x column) y
        (toggled.1, state.2 || toggled.2)
      else state)
    (framebuffer, false)

/-- The bytes as they are handed out. -/
def rgb (framebuffer : Framebuffer) : Array UInt8 := framebuffer.pixels.toArray

end Framebuffer

/-- What can be done to a display. -/
inductive Stroke where
  | clear
  | setCell (x y : Nat) (value : UInt8)
  | toggle (x y : Nat)
  | drawRow (x y : Nat) (row : UInt8)

/-- The display after a stroke, and whether it erased a cell. -/
def Display.stroke (display : Display) : Stroke → Display × Bool
  | .clear => (blank, false)
  | .setCell x y value => (display.setCell x y value, false)
  | .toggle x y => display.toggle x y
  | .drawRow x y row => display.drawRow x y row

/-- The bytes after a stroke, and whether it erased a cell. -/
def Framebuffer.stroke (framebuffer : Framebuffer) : Stroke → Framebuffer × Bool
  | .clear => (framebuffer.clear, false)
  | .setCell x y value => (framebuffer.setCell x y value, false)
  | .toggle x y => framebuffer.toggle x y
  | .drawRow x y row => framebuffer.drawRow x y row

namespace Framebuffer

open Display

/-- A framebuffer shows a display if every channel of each cell has the value of the cell. -/
def Shows (framebuffer : Framebuffer) (display : Display) : Prop :=
  ∀ x y channel, onGrid x y → channel < Bitmap.pixelSize →
    framebuffer.pixels[Bitmap.pixelSize * (x + y * displayWidth) + channel]? = display.cell? x y

/-! ## Bytes -/

theorem getElem?_fill (framebuffer : Framebuffer) (start : Nat) (value : UInt8) (count : Nat)
    {index : Nat} (below : index < cellCount * Bitmap.pixelSize) :
    (framebuffer.fill start value count).pixels[index]? =
      if start ≤ index ∧ index < start + count then some value else framebuffer.pixels[index]? := by
  induction count with
  | zero => rw [fill, if_neg (by omega)]
  | succ count ih =>
      rw [fill, Vector.getElem?_setIfInBounds, ih]
      by_cases here : start + count = index
      · rw [if_pos here, if_pos (here ▸ below), if_pos (by omega)]
      · rw [if_neg here]
        exact ite_congr (propext (by omega)) (fun _ => rfl) fun _ => rfl

theorem byte_lt {x y channel : Nat} (inside : onGrid x y) (within : channel < Bitmap.pixelSize) :
    Bitmap.pixelSize * (x + y * displayWidth) + channel < cellCount * Bitmap.pixelSize := by
  have := index_lt inside
  simp only [Bitmap.pixelSize] at *
  omega

theorem blank_shows : blank.Shows .blank := by
  intro x y channel inside within
  rw [cell?_eq_getElem? _ inside, blank, Display.blank,
    Vector.getElem?_eq_getElem (byte_lt inside within),
    Vector.getElem?_eq_getElem (index_lt inside), Vector.getElem_replicate,
    Vector.getElem_replicate]

theorem clear_shows (framebuffer : Framebuffer) : framebuffer.clear.Shows .blank := by
  intro x y channel inside within
  have below := byte_lt inside within
  rw [clear, getElem?_fill _ _ _ _ below, if_pos (by omega), cell?_eq_getElem? _ inside,
    Display.blank, Vector.getElem?_eq_getElem (index_lt inside), Vector.getElem_replicate]

/-! ## Strokes -/

namespace Shows

variable {framebuffer : Framebuffer} {display : Display} (shows : framebuffer.Shows display)

include shows

theorem cell?_eq (x y : Nat) : framebuffer.cell? x y = display.cell? x y := by
  unfold cell? offset?
  by_cases inside : onGrid x y
  · rw [if_pos inside]
    exact shows x y 0 inside (by decide)
  · rw [if_neg inside, Display.cell?_eq_none inside]
    rfl

theorem setCell (x y : Nat) (value : UInt8) :
    (framebuffer.setCell x y value).Shows (display.setCell x y value) := by
  unfold Framebuffer.setCell offset?
  by_cases inside : onGrid x y
  · rw [if_pos inside]
    intro column row channel other within
    rw [getElem?_fill _ _ _ _ (byte_lt other within), cell?_setCell display inside,
      shows column row channel other within]
    -- The bytes of a cell are its own: a byte of two cells makes them the same one.
    refine ite_congr (propext ?_) (fun _ => rfl) fun _ => rfl
    rw [Prod.mk.injEq]
    have := inside.1
    have := other.1
    simp only [displayWidth, Bitmap.pixelSize] at *
    omega
  · rw [if_neg inside, Display.setCell, dif_neg inside]
    exact shows

theorem toggle (x y : Nat) :
    (framebuffer.toggle x y).1.Shows (display.toggle x y).1 ∧
      (framebuffer.toggle x y).2 = (display.toggle x y).2 := by
  unfold Framebuffer.toggle Display.toggle
  rw [shows.cell?_eq]
  cases display.cell? x y with
  | none => exact ⟨shows, rfl⟩
  | some value =>
      by_cases drawn : value = drawnValue
      · simp only [if_pos drawn]
        exact ⟨shows.setCell x y clearValue, trivial⟩
      · simp only [if_neg drawn]
        exact ⟨shows.setCell x y drawnValue, trivial⟩

theorem drawRow (x y : Nat) (row : UInt8) :
    (framebuffer.drawRow x y row).1.Shows (display.drawRow x y row).1 ∧
      (framebuffer.drawRow x y row).2 = (display.drawRow x y row).2 := by
  unfold Framebuffer.drawRow Display.drawRow toggleAll litCells
  rw [List.foldl_map, List.foldl_filter]
  -- One column does the same to both, so any columns do, whatever was erased before.
  generalize List.range 8 = columns
  generalize false = erased
  induction columns generalizing framebuffer display erased with
  | nil => exact ⟨shows, rfl⟩
  | cons column columns ih =>
      rw [List.foldl_cons, List.foldl_cons]
      cases isLit row column with
      | false => exact ih shows erased
      | true =>
          obtain ⟨same, told⟩ := shows.toggle (columnRight x column) y
          have rest := ih same (erased || (framebuffer.toggle (columnRight x column) y).2)
          rw [if_pos rfl, if_pos rfl]
          dsimp only
          rw [told] at rest ⊢
          exact rest

/-- A stroke does the same to both. -/
theorem stroke (stroke : Stroke) :
    (framebuffer.stroke stroke).1.Shows (display.stroke stroke).1 ∧
      (framebuffer.stroke stroke).2 = (display.stroke stroke).2 := by
  cases stroke with
  | clear => exact ⟨framebuffer.clear_shows, rfl⟩
  | setCell x y value => exact ⟨shows.setCell x y value, rfl⟩
  | toggle x y => exact shows.toggle x y
  | drawRow x y row => exact shows.drawRow x y row

/-- The bytes that are handed out are those of the display. -/
theorem rgb_eq : framebuffer.rgb = display.rgb := by
  apply Array.ext_getElem?
  intro index
  have stored : framebuffer.rgb.size = cellCount * Bitmap.pixelSize := Vector.size_toArray _
  by_cases below : index < cellCount * Bitmap.pixelSize
  · let x := index / Bitmap.pixelSize % displayWidth
    let y := index / Bitmap.pixelSize / displayWidth
    let channel := index % Bitmap.pixelSize
    have place : index = Bitmap.pixelSize * (x + y * displayWidth) + channel := by
      simp only [x, y, channel, displayWidth, Bitmap.pixelSize]
      omega
    have inside : onGrid x y := by
      simp only [x, y, onGrid, cellCount, displayWidth, displayHeight, Bitmap.pixelSize] at below ⊢
      omega
    have within : channel < Bitmap.pixelSize := Nat.mod_lt index (by decide)
    rw [place, display.getElem?_rgb inside within, ← shows x y channel inside within]
    exact Vector.getElem?_toArray
  · rw [Array.getElem?_eq_none (by omega), Array.getElem?_eq_none (by rw [size_rgb]; omega)]

end Shows

end Framebuffer

/-! ## Runs of strokes -/

/-- What strokes leave of a state, and for each of them whether it erased a cell. -/
def Stroke.run {σ : Type} (apply : σ → Stroke → σ × Bool) : σ → List Stroke → σ × List Bool
  | state, [] => (state, [])
  | state, stroke :: strokes =>
    let first := apply state stroke
    let rest := run apply first.1 strokes
    (rest.1, first.2 :: rest.2)

namespace Framebuffer

open Display

theorem Shows.run {framebuffer : Framebuffer} {display : Display}
    (shows : framebuffer.Shows display) (strokes : List Stroke) :
    let stored := Stroke.run Framebuffer.stroke framebuffer strokes
    let drawn := Stroke.run Display.stroke display strokes
    stored.1.Shows drawn.1 ∧ stored.2 = drawn.2 := by
  induction strokes generalizing framebuffer display with
  | nil => exact ⟨shows, rfl⟩
  | cons stroke strokes ih =>
      obtain ⟨same, told⟩ := shows.stroke stroke
      obtain ⟨rest, others⟩ := ih same
      exact ⟨rest, List.cons_eq_cons.mpr ⟨told, others⟩⟩

/-- **The stored bytes are the display.** After any strokes on a new display its stored bytes are
those that it hands out, each stroke was told to have erased a cell or not as for the display, and
the three channels of a cell are equal. -/
theorem run_shows (strokes : List Stroke) :
    let stored := Stroke.run Framebuffer.stroke .blank strokes
    let drawn := Stroke.run Display.stroke .blank strokes
    stored.1.rgb = drawn.1.rgb ∧ stored.2 = drawn.2 ∧
      (∀ x y, stored.1.cell? x y = drawn.1.cell? x y) ∧
      ∀ x y, onGrid x y → ∃ value, ∀ channel < Bitmap.pixelSize,
        stored.1.pixels[Bitmap.pixelSize * (x + y * displayWidth) + channel]? = some value := by
  intro stored drawn
  obtain ⟨shows, told⟩ := blank_shows.run strokes
  refine ⟨shows.rgb_eq, told, shows.cell?_eq, fun x y inside => ?_⟩
  obtain ⟨value, here⟩ := drawn.1.exists_cell? inside
  exact ⟨value, fun channel within => (shows x y channel inside within).trans here⟩

end Framebuffer

end Chip8
