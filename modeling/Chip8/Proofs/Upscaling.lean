import Chip8.Proofs.Display
import Mathlib.Tactic.Ring

/-!
# Enlarged bitmaps

An enlarged bitmap shows each row of pixels as a band of equal lines, and on a line each pixel as a
run of equal ones. So every pixel becomes a square block (`Bitmap.enlarge?_replicates`), and every
cell of a display does (`Display.getElem?_upscale`).
-/

namespace Chip8

namespace Bitmap

/-- A place in one of some blocks lies before the end of the last one. -/
theorem place_lt {size count index offset : Nat} (block : index < count) (within : offset < size) :
    size * index + offset < count * size := by
  calc
    size * index + offset < size * index + size := Nat.add_lt_add_left within _
    _ = (index + 1) * size := by ring
    _ ≤ count * size := Nat.mul_le_mul_right size block

theorem getElem?_pieces {size count index : Nat} {bytes : Array UInt8} (positive : 0 < size)
    (full : bytes.size = count * size) (below : index < count) {offset : Nat}
    (within : offset < size) :
    ((pieces size bytes)[index]?.bind fun piece => piece[offset]?) =
      bytes[size * index + offset]? := by
  have pieces : index < bytes.size / size := by rwa [full, Nat.mul_div_cancel _ positive]
  have inside : size * index + size ≤ bytes.size := by
    rw [full, ← Nat.mul_succ, Nat.mul_comm]
    exact Nat.mul_le_mul_right size below
  rw [Bitmap.pieces, Array.getElem?_map, Array.getElem?_range, if_pos pieces, Option.map_some,
    Option.bind_some, Array.getElem?_extract, if_pos]
  omega

/-! ## Lines and bands -/

section

variable {scale : Nat} {row : Array UInt8} (full : row.size = displayWidth * pixelSize)

theorem size_run (scale : Nat) {pixel : Array UInt8} (member : pixel ∈ pieces pixelSize row) :
    (run scale pixel).size = scale * pixelSize := by
  rw [run, size_flatten_replicate, size_of_mem_pieces pixel member]

theorem getElem?_flatten_replicate {times index offset : Nat} (block : Array UInt8)
    (below : index < times) (within : offset < block.size) :
    (Array.replicate times block).flatten[block.size * index + offset]? = block[offset]? := by
  have uniform : ∀ other ∈ Array.replicate times block, (id other).size = block.size :=
    fun other member => congrArg Array.size (Array.eq_of_mem_replicate member)
  rw [← Array.flatMap_id, getElem?_flatMap uniform index within, Array.getElem?_replicate,
    if_pos below]
  rfl

include full

theorem getElem?_line {x repetition channel : Nat} (column : x < displayWidth)
    (below : repetition < scale) (within : channel < pixelSize) :
    (line scale row)[scale * pixelSize * x + (pixelSize * repetition + channel)]? =
      row[pixelSize * x + channel]? := by
  rw [line, getElem?_flatMap (fun _ => size_run scale) x (place_lt below within),
    ← getElem?_pieces (by decide) full column within]
  cases found : (pieces pixelSize row)[x]? with
  | none => rfl
  | some pixel =>
      have size := size_of_mem_pieces pixel (Array.mem_of_getElem? found)
      have same := getElem?_flatten_replicate pixel below (size ▸ within)
      rwa [size] at same

theorem size_band : (band scale row).size = scale * (displayWidth * scale * pixelSize) := by
  rw [band, size_flatten_replicate, size_line scale full]

theorem getElem?_band {copy place : Nat} (below : copy < scale)
    (within : place < displayWidth * scale * pixelSize) :
    (band scale row)[displayWidth * scale * pixelSize * copy + place]? =
      (line scale row)[place]? := by
  have size := size_line scale full
  have same := getElem?_flatten_replicate (line scale row) below (size ▸ within)
  rwa [size] at same

end

/-! ## Bitmaps -/

/-- A byte of a bitmap lies on a line of a band, in the run of a pixel on that line. -/
theorem place_eq (px py scale channel : Nat) :
    (py * (displayWidth * scale) + px) * pixelSize + channel =
      scale * (displayWidth * scale * pixelSize) * (py / scale) +
        (displayWidth * scale * pixelSize * (py % scale) +
          (scale * pixelSize * (px / scale) + (pixelSize * (px % scale) + channel))) := by
  calc
    _ = ((scale * (py / scale) + py % scale) * (displayWidth * scale) +
        (scale * (px / scale) + px % scale)) * pixelSize + channel := by
      rw [Nat.div_add_mod, Nat.div_add_mod]
    _ = _ := by ring

section

variable {pixels bitmap : Array UInt8} {scale : Nat}
  (full : pixels.size = displayHeight * (displayWidth * pixelSize))
  (made : bands? pixels scale = some bitmap)

theorem eq_flatMap_of_bands? (made : bands? pixels scale = some bitmap) :
    bitmap = (pieces (displayWidth * pixelSize) pixels).flatMap (band scale) :=
  Option.some.inj (made.symm.trans (bands?_eq_some pixels scale))

theorem size_of_mem_pieces_band :
    ∀ row ∈ pieces (displayWidth * pixelSize) pixels,
      (band scale row).size = scale * (displayWidth * scale * pixelSize) :=
  fun row member => size_band (size_of_mem_pieces row member)

include full made

theorem size_of_bands? :
    bitmap.size = displayWidth * scale * (displayHeight * scale) * pixelSize := by
  rw [eq_flatMap_of_bands? made, size_flatMap size_of_mem_pieces_band, pieces, Array.size_map,
    Array.size_range, full, Nat.mul_div_cancel _ (by decide)]
  ring

/-- A pixel of the bitmap has the colour of the one whose block it lies in. -/
theorem getElem?_of_bands? {px py channel : Nat} (column : px < displayWidth * scale)
    (line : py < displayHeight * scale) (within : channel < pixelSize) :
    bitmap[(py * (displayWidth * scale) + px) * pixelSize + channel]? =
      pixels[(py / scale * displayWidth + px / scale) * pixelSize + channel]? := by
  have positive : 0 < scale := by
    refine Nat.pos_of_ne_zero ?_
    rintro rfl
    cases column
  have x : px / scale < displayWidth := Nat.div_lt_of_lt_mul (by rwa [Nat.mul_comm])
  have y : py / scale < displayHeight := Nat.div_lt_of_lt_mul (by rwa [Nat.mul_comm])
  have copy := Nat.mod_lt py positive
  have repetition := Nat.mod_lt px positive
  have onLine : scale * pixelSize * (px / scale) + (pixelSize * (px % scale) + channel) <
      displayWidth * scale * pixelSize := by
    rw [Nat.mul_assoc displayWidth]
    exact place_lt x (place_lt repetition within)
  have source : (py / scale * displayWidth + px / scale) * pixelSize + channel =
      displayWidth * pixelSize * (py / scale) + (pixelSize * (px / scale) + channel) := by ring
  rw [place_eq, source, eq_flatMap_of_bands? made,
    getElem?_flatMap size_of_mem_pieces_band _ (place_lt copy onLine),
    ← getElem?_pieces (by decide) full y (place_lt x within)]
  cases found : (pieces (displayWidth * pixelSize) pixels)[py / scale]? with
  | none => rfl
  | some row =>
      have size := size_of_mem_pieces row (Array.mem_of_getElem? found)
      exact (getElem?_band size copy onLine).trans (getElem?_line size x repetition within)

end

end Bitmap

namespace Display

variable (display : Display)

theorem bands?_rgb (scale : Nat) :
    Bitmap.bands? display.rgb scale = some (display.upscale scale) := (Option.some_get _).symm

theorem upscale?_eq (scale : Nat) :
    display.upscale? scale =
      if Bitmap.enlargedSize scale ≤ Bitmap.sizeLimit then some (display.upscale scale)
      else none := by
  rw [upscale?, Bitmap.enlarge?, bands?_rgb]

theorem size_upscale (scale : Nat) :
    (display.upscale scale).size = displayWidth * scale * (displayHeight * scale) * 3 :=
  Bitmap.size_of_bands? display.size_rgb (display.bands?_rgb scale)

theorem onGrid_of_pixel {scale px py : Nat} (column : px < displayWidth * scale)
    (line : py < displayHeight * scale) : onGrid (px / scale) (py / scale) := by
  constructor
  · apply Nat.div_lt_of_lt_mul
    rwa [Nat.mul_comm]
  · apply Nat.div_lt_of_lt_mul
    rwa [Nat.mul_comm]

/-- A pixel of the bitmap has the colour of the cell whose block it lies in. -/
theorem getElem?_upscale {scale px py channel : Nat} (column : px < displayWidth * scale)
    (line : py < displayHeight * scale) (within : channel < 3) :
    (display.upscale scale)[(py * (displayWidth * scale) + px) * 3 + channel]? =
      display.cell? (px / scale) (py / scale) := by
  have bytes := Bitmap.getElem?_of_bands? display.size_rgb (display.bands?_rgb scale) column line
    within
  rw [bytes, ← getElem?_rgb display (onGrid_of_pixel column line) within]
  congr 1
  ring

end Display

namespace Bitmap

/-- **Enlarged bitmaps replicate pixels.** Whatever the bytes of a picture of the size of the
display are, at every scale each copy in the course of enlarging takes a part that the buffer has.
The bitmap is made exactly if its size is within that of a buffer. It has the size of the scaled
picture, and each channel of a pixel has the value of that channel in the pixel whose block it lies
in. If the picture shows a display, this is the value of the cell there. -/
theorem enlarge?_replicates (pixels : Vector UInt8 (cellCount * 3)) (scale : Nat) :
    let width := displayWidth * scale
    let height := displayHeight * scale
    ∃ bitmap, bands? pixels.toArray scale = some bitmap ∧
      (enlarge? pixels.toArray scale =
        if 64 * 32 * 3 * scale * scale ≤ 2 ^ 63 - 1 then some bitmap else none) ∧
      bitmap.size = width * height * 3 ∧
      (∀ px py channel, px < width → py < height → channel < 3 →
        ∃ value, pixels[(py / scale * displayWidth + px / scale) * 3 + channel]? = some value ∧
          bitmap[(py * width + px) * 3 + channel]? = some value) ∧
      ∀ display : Display, display.rgb = pixels.toArray →
        display.upscale scale = bitmap ∧
          ∀ px py channel, px < width → py < height → channel < 3 →
            bitmap[(py * width + px) * 3 + channel]? =
              display.cell? (px / scale) (py / scale) := by
  intro width height
  have full : pixels.toArray.size = displayHeight * (displayWidth * pixelSize) :=
    pixels.size_toArray
  obtain ⟨bitmap, made⟩ : ∃ bitmap, bands? pixels.toArray scale = some bitmap :=
    ⟨_, bands?_eq_some pixels.toArray scale⟩
  refine ⟨bitmap, made, ?_, size_of_bands? full made, ?_, ?_⟩
  · have limit : enlargedSize scale ≤ sizeLimit ↔ 64 * 32 * 3 * scale * scale ≤ 2 ^ 63 - 1 := by
      have size : enlargedSize scale = 64 * 32 * 3 * scale * scale := by
        rw [enlargedSize]
        ring
      rw [size]
      exact Iff.rfl
    rw [enlarge?, made]
    simp only [limit]
  · intro px py channel column line within
    obtain ⟨x, y⟩ := Display.onGrid_of_pixel column line
    have inside : (py / scale * displayWidth + px / scale) * 3 + channel < cellCount * 3 := by
      simp only [cellCount, displayWidth, displayHeight] at x y ⊢
      omega
    refine ⟨pixels[(py / scale * displayWidth + px / scale) * 3 + channel],
      Vector.getElem?_eq_getElem inside, ?_⟩
    rw [getElem?_of_bands? full made column line within, Vector.getElem?_toArray]
    exact Vector.getElem?_eq_getElem inside
  · intro display shown
    have own := display.bands?_rgb scale
    rw [shown, made, Option.some.injEq] at own
    have same : display.upscale scale = bitmap := own.symm
    refine ⟨same, fun px py channel column line within => ?_⟩
    rw [← same]
    exact display.getElem?_upscale column line within

end Bitmap

end Chip8
