import Chip8.Proofs.Upscaling

/-!
# Text and bitmap

The text of a display has one character for each cell, and the enlarged bitmap has one square block
of pixels. Both go through the cells row by row from the top, so the character of a cell tells the
colour of its block, and a display whose cells are all cleared or drawn can be read off either of
them (`Display.text_shows_upscale`).
-/

namespace Chip8

namespace Bitmap

/-- Every byte of the block of pixels that belongs to a cell has the value. -/
def Fills (bitmap : Array UInt8) (scale x y : Nat) (value : UInt8) : Prop :=
  ∀ column < scale, ∀ line < scale, ∀ channel < pixelSize,
    bitmap[((scale * y + line) * (displayWidth * scale) + (scale * x + column)) * pixelSize +
      channel]? = some value

end Bitmap

namespace Display

variable (display : Display)

/-! ## The text -/

/-- The character of a cell. -/
def mark (x y : Nat) : Char := if display.isDrawn x y then '#' else '.'

/-- A line of the text without its end. -/
def marks (y : Nat) : List Char := (List.range displayWidth).map (display.mark · y)

theorem toList_text :
    display.text.toList =
      ((List.range displayHeight).map display.marks).flatMap (· ++ ['\n']) := by
  rw [text, String.toList_ofList, List.flatMap_map]
  rfl

theorem length_marks (y : Nat) : (display.marks y).length = displayWidth := by
  rw [marks, List.length_map, List.length_range]

theorem mark_eq_hash_iff (x y : Nat) :
    display.mark x y = '#' ↔ display.isDrawn x y = true := by
  rw [mark]
  cases display.isDrawn x y <;> decide

theorem mark_eq_point_iff (x y : Nat) :
    display.mark x y = '.' ↔ display.isDrawn x y = false := by
  rw [mark]
  cases display.isDrawn x y <;> decide

theorem not_mem_marks (y : Nat) : '\n' ∉ display.marks y := by
  intro member
  obtain ⟨x, -, lineEnd⟩ := List.mem_map.mp member
  cases drawn : display.isDrawn x y with
  | false => cases ((display.mark_eq_point_iff x y).mpr drawn).symm.trans lineEnd
  | true => cases ((display.mark_eq_hash_iff x y).mpr drawn).symm.trans lineEnd

theorem getElem?_marks {x : Nat} (column : x < displayWidth) (y : Nat) :
    (display.marks y ++ ['\n'])[x]? = some (display.mark x y) := by
  rw [List.getElem?_append_left (by rwa [length_marks]), marks, List.getElem?_map,
    List.getElem?_range column, Option.map_some]

/-- All lines have the same length, so the place of a cell's character follows from its position. -/
theorem getElem?_text {x y : Nat} (inside : onGrid x y) :
    display.text.toList[y * (displayWidth + 1) + x]? = some (display.mark x y) := by
  let line (y : Nat) : Array Char := (display.marks y ++ ['\n']).toArray
  have uniform : ∀ y ∈ Array.range displayHeight, (line y).size = displayWidth + 1 := by
    intro y _
    rw [List.size_toArray, List.length_append, length_marks]
    rfl
  have lines : display.text.toList.toArray = (Array.range displayHeight).flatMap line := by
    apply Array.toList_inj.mp
    rw [toList_text, Array.toList_flatMap, Array.toList_range, List.flatMap_map]
  rw [← List.getElem?_toArray, lines, Nat.mul_comm,
    Bitmap.getElem?_flatMap uniform y (Nat.lt_succ_of_lt inside.1),
    Array.getElem?_range, if_pos inside.2, Option.bind_some, List.getElem?_toArray]
  exact display.getElem?_marks inside.1 y

/-! ## Blocks of pixels -/

theorem getElem?_block {scale x y column line channel : Nat} (inside : onGrid x y)
    (right : column < scale) (down : line < scale) (within : channel < 3) :
    (display.upscale scale)[((scale * y + line) * (displayWidth * scale) +
      (scale * x + column)) * 3 + channel]? = display.cell? x y := by
  have positive : 0 < scale := Nat.zero_lt_of_lt right
  rw [display.getElem?_upscale (Bitmap.place_lt inside.1 right) (Bitmap.place_lt inside.2 down)
    within, Nat.mul_add_div positive, Nat.mul_add_div positive, Nat.div_eq_of_lt right,
    Nat.div_eq_of_lt down, Nat.add_zero, Nat.add_zero]

/-- A cell fills its block with its value. -/
theorem fills_upscale_iff {scale x y : Nat} (positive : 0 < scale) (inside : onGrid x y)
    (value : UInt8) :
    Bitmap.Fills (display.upscale scale) scale x y value ↔ display.cell? x y = some value := by
  constructor
  · intro fills
    have corner := fills 0 positive 0 positive 0 (by decide)
    rwa [display.getElem?_block inside positive positive (by decide)] at corner
  · intro found column right line down channel within
    rw [display.getElem?_block inside right down within, found]

/-! ## Displays that look the same -/

section

variable {first second : Display}

theorem rgb_inj : first.rgb = second.rgb ↔ first = second := by
  refine ⟨fun same => ext_onGrid fun x y inside => ?_, congrArg rgb⟩
  have within : 0 < 3 := by decide
  rw [← first.getElem?_rgb inside within, same, second.getElem?_rgb inside within]

theorem upscale_inj {scale : Nat} (positive : 0 < scale) :
    first.upscale scale = second.upscale scale ↔ first = second := by
  refine ⟨fun same => ext_onGrid fun x y inside => ?_, congrArg (upscale · scale)⟩
  obtain ⟨value, found⟩ := first.exists_cell? inside
  have fills := (first.fills_upscale_iff positive inside value).mpr found
  rw [same, second.fills_upscale_iff positive inside] at fills
  rw [found, fills]

/-- The text tells drawn cells from all others only, so it determines a display among binary
ones. -/
theorem IsBinary.text_inj (binary : first.IsBinary) (other : second.IsBinary) :
    first.text = second.text ↔ first = second := by
  refine ⟨fun same => ext_onGrid fun x y inside => ?_, congrArg text⟩
  have marked : some (first.mark x y) = some (second.mark x y) := by
    rw [← first.getElem?_text inside, same, second.getElem?_text inside]
  have drawn : first.isDrawn x y = second.isDrawn x y := by
    rw [Bool.eq_iff_iff, ← mark_eq_hash_iff, ← mark_eq_hash_iff, Option.some.inj marked]
  rw [binary.cell?_eq inside, other.cell?_eq inside, drawn]

end

/-- **Text and bitmap show the same picture.** For a display whose cells are cleared or drawn, the
text has a line for each row, with a character for each cell of the row and a line end. At every
scale the character of a cell is a hash exactly if all bytes of its block of pixels are zero, and a
point exactly if they are all full; the bitmap is made exactly if a buffer can hold it. So for two
such displays the texts, the channel bytes and the bitmaps are equal in the same cases. -/
theorem text_shows_upscale {display : Display} (binary : display.IsBinary) (scale : Nat)
    (positive : 0 < scale) :
    let characters := display.text.toList
    let bitmap := display.upscale scale
    (∃ lines : List (List Char), characters = lines.flatMap (· ++ ['\n']) ∧ lines.length = 32 ∧
      ∀ line ∈ lines, line.length = 64 ∧ '\n' ∉ line) ∧
    (∀ x < 64, ∀ y < 32,
      (characters[y * 65 + x]? = some '#' ↔ Bitmap.Fills bitmap scale x y 0x00) ∧
      (characters[y * 65 + x]? = some '.' ↔ Bitmap.Fills bitmap scale x y 0xFF)) ∧
    (display.upscale? scale =
      if Bitmap.enlargedSize scale ≤ Bitmap.sizeLimit then some bitmap else none) ∧
    ∀ other : Display, other.IsBinary →
      (display.text = other.text ↔ display.rgb = other.rgb) ∧
      (display.rgb = other.rgb ↔ display.upscale scale = other.upscale scale) := by
  intro characters bitmap
  refine ⟨⟨(List.range displayHeight).map display.marks, display.toList_text, ?_, ?_⟩, ?_,
    display.upscale?_eq scale, ?_⟩
  · rw [List.length_map, List.length_range]
  · intro line member
    obtain ⟨y, -, rfl⟩ := List.mem_map.mp member
    exact ⟨display.length_marks y, display.not_mem_marks y⟩
  · intro x column y row
    have inside : onGrid x y := ⟨column, row⟩
    have character : characters[y * 65 + x]? = some (display.mark x y) :=
      display.getElem?_text inside
    have hash : Bitmap.Fills bitmap scale x y 0x00 ↔ display.isDrawn x y = true :=
      (display.fills_upscale_iff positive inside drawnValue).trans
        (display.cell?_eq_drawnValue_iff x y)
    have point : Bitmap.Fills bitmap scale x y 0xFF ↔ display.isDrawn x y = false := by
      refine (display.fills_upscale_iff positive inside clearValue).trans ?_
      rw [binary.cell?_eq_clearValue_iff, and_iff_right inside]
    rw [character, Option.some.injEq, Option.some.injEq, mark_eq_hash_iff, mark_eq_point_iff]
    exact ⟨hash.symm, point.symm⟩
  · intro other otherBinary
    rw [binary.text_inj otherBinary, rgb_inj, upscale_inj positive]
    exact ⟨Iff.rfl, Iff.rfl⟩

/-- One drawn cell is at the same place in both pictures, and not at the transposed one. -/
theorem text_shows_upscale_of_cell :
    let display := (blank.toggle 20 3).1
    let bitmap := display.upscale 2
    display.IsBinary ∧ blank.IsBinary ∧ 0 < 2 ∧
      display.text.toList[3 * 65 + 20]? = some '#' ∧ Bitmap.Fills bitmap 2 20 3 0x00 ∧
      display.text.toList[20 * 65 + 3]? = some '.' ∧ Bitmap.Fills bitmap 2 3 20 0xFF ∧
      display.text ≠ blank.text ∧ display.rgb ≠ blank.rgb ∧ bitmap ≠ blank.upscale 2 := by
  intro display bitmap
  have binary : display.IsBinary := blank_isBinary.toggle 20 3
  obtain ⟨-, shows, -, same⟩ := text_shows_upscale binary 2 (by decide)
  have drawn : display.text.toList[3 * 65 + 20]? = some '#' :=
    (display.getElem?_text ⟨by decide, by decide⟩).trans (by decide +kernel)
  have clear : display.text.toList[20 * 65 + 3]? = some '.' :=
    (display.getElem?_text ⟨by decide, by decide⟩).trans (by decide +kernel)
  obtain ⟨texts, bitmaps⟩ := same blank blank_isBinary
  have differs : display.rgb ≠ blank.rgb := by
    intro equal
    have marked : blank.text.toList[3 * 65 + 20]? = some '#' := texts.mpr equal ▸ drawn
    rw [show blank.text.toList[3 * 65 + 20]? = _ from blank.getElem?_text ⟨by decide, by decide⟩]
      at marked
    exact absurd marked (by decide +kernel)
  exact ⟨binary, blank_isBinary, by decide, drawn, (shows 20 (by decide) 3 (by decide)).1.mp drawn,
    clear, (shows 3 (by decide) 20 (by decide)).2.mp clear, fun equal => differs (texts.mp equal),
    differs, fun equal => differs (bitmaps.mpr equal)⟩

end Display

end Chip8
