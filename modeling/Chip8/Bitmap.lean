import Chip8.Layout

/-!
# Bitmaps

Images with three colour channels for each pixel, row by row from the top. A bitmap is enlarged band
by band: the pixels of a row are widened to a line, and the other lines of the band are copies of a
part of the buffer. The buffer always has that part (`bands?_eq_some`).
-/

namespace Chip8.Bitmap

/-- Bytes of a pixel, one for each of its colour channels. -/
abbrev pixelSize : Nat := 3

/-- The bytes in successive pieces of one size; a shorter rest is left out. -/
def pieces (size : Nat) (bytes : Array UInt8) : Array (Array UInt8) :=
  (Array.range (bytes.size / size)).map fun index =>
    bytes.extract (size * index) (size * index + size)

/-- Appends a part of a buffer to it, which fails for a part that the buffer does not have. -/
def appendPart? (start stop : Nat) (buffer : Array UInt8) : Option (Array UInt8) :=
  if start ≤ stop ∧ stop ≤ buffer.size then some (buffer ++ buffer.extract start stop) else none

/-- Appends a part of a buffer a number of times. -/
def appendParts? (start stop : Nat) : (times : Nat) → Array UInt8 → Option (Array UInt8)
  | 0, buffer => some buffer
  | times + 1, buffer => (appendPart? start stop buffer).bind (appendParts? start stop times)

/-- Appends the pixels of a row, each of them a number of times. -/
def appendLine (scale : Nat) (buffer row : Array UInt8) : Array UInt8 :=
  (pieces pixelSize row).foldl
    (fun buffer pixel => (Array.replicate scale pixel).foldl (· ++ ·) buffer) buffer

/-- Appends the lines that show a row: the first one pixel by pixel, the others as copies of it. -/
def appendBand? (scale : Nat) (buffer row : Array UInt8) : Option (Array UInt8) :=
  let start := buffer.size
  let stop := start + displayWidth * scale * pixelSize
  appendParts? start stop (scale - 1) (appendLine scale buffer row)

/-- The bands of all rows. -/
def bands? (pixels : Array UInt8) (scale : Nat) : Option (Array UInt8) :=
  (pieces (displayWidth * pixelSize) pixels).foldlM (appendBand? scale) #[]

/-- Bytes of an enlarged bitmap. -/
def enlargedSize (scale : Nat) : Nat :=
  displayWidth * scale * displayHeight * scale * pixelSize

/-- The largest size of a buffer. -/
def sizeLimit : Nat := 0x7FFFFFFFFFFFFFFF

/-- The bitmap in which every pixel is a square block of the given size, if a buffer can hold it. -/
def enlarge? (pixels : Array UInt8) (scale : Nat) : Option (Array UInt8) :=
  if enlargedSize scale ≤ sizeLimit then bands? pixels scale else none

/-! ## Blocks of one size -/

section

variable {α β : Type} {block : α → Array β} {size : Nat} {xs : Array α}

/-- In blocks of one size an element is found by its block and its place in that block. -/
theorem getElem?_flatMap (uniform : ∀ x ∈ xs, (block x).size = size) (index : Nat) {offset : Nat}
    (within : offset < size) :
    (xs.flatMap block)[size * index + offset]? = xs[index]?.bind fun x => (block x)[offset]? := by
  obtain ⟨xs⟩ := xs
  rw [← Array.getElem?_toList, Array.toList_flatMap, List.getElem?_toArray]
  induction xs generalizing index with
  | nil => rfl
  | cons x xs ih =>
      have first : (block x).size = size := uniform x (by simp)
      have rest : ∀ y ∈ xs.toArray, (block y).size = size := by
        intro y member
        apply uniform
        simp_all
      rw [List.flatMap_cons]
      cases index with
      | zero =>
          rw [Nat.mul_zero, Nat.zero_add, List.getElem?_append_left (by simpa [first] using within),
            Array.getElem?_toList]
          rfl
      | succ index =>
          rw [Nat.mul_succ, Nat.add_right_comm, List.getElem?_append_right (by simp [first]),
            Array.length_toList, first, Nat.add_sub_cancel, List.getElem?_cons_succ]
          exact ih index rest

theorem size_flatMap (uniform : ∀ x ∈ xs, (block x).size = size) :
    (xs.flatMap block).size = xs.size * size := by
  obtain ⟨xs⟩ := xs
  have sizes : xs.map (fun x => (block x).size) = List.replicate xs.length size := by
    rw [← List.map_const']
    exact List.map_congr_left fun x member => uniform x (by simpa using member)
  rw [Array.size_flatMap, List.map_toArray, sizes]
  simp

end

theorem size_of_mem_pieces {size : Nat} {bytes : Array UInt8} :
    ∀ piece ∈ pieces size bytes, piece.size = size := by
  intro piece member
  obtain ⟨index, below, rfl⟩ := Array.mem_map.mp member
  have inside : size * index + size ≤ bytes.size := by
    rw [← Nat.mul_succ]
    exact Nat.le_trans (Nat.mul_le_mul_left size (Array.mem_range.mp below))
      (Nat.mul_div_le bytes.size size)
  rw [Array.size_extract, Nat.min_eq_left inside, Nat.add_sub_cancel_left]

/-! ## Lines and bands -/

/-- A pixel a number of times. -/
def run (scale : Nat) (pixel : Array UInt8) : Array UInt8 := (Array.replicate scale pixel).flatten

/-- The pixels of a row, each of them a number of times. -/
def line (scale : Nat) (row : Array UInt8) : Array UInt8 :=
  (pieces pixelSize row).flatMap (run scale)

/-- The lines that show a row. -/
def band (scale : Nat) (row : Array UInt8) : Array UInt8 :=
  (Array.replicate scale (line scale row)).flatten

theorem size_flatten_replicate (times : Nat) (block : Array UInt8) :
    (Array.replicate times block).flatten.size = times * block.size := by
  have uniform : ∀ other ∈ Array.replicate times block, (id other).size = block.size :=
    fun other member => congrArg Array.size (Array.eq_of_mem_replicate member)
  rw [← Array.flatMap_id, size_flatMap uniform, Array.size_replicate]

theorem size_line (scale : Nat) {row : Array UInt8} (full : row.size = displayWidth * pixelSize) :
    (line scale row).size = displayWidth * scale * pixelSize := by
  have uniform : ∀ pixel ∈ pieces pixelSize row, (run scale pixel).size = scale * pixelSize := by
    intro pixel member
    rw [run, size_flatten_replicate, size_of_mem_pieces pixel member]
  rw [line, size_flatMap uniform, pieces, Array.size_map, Array.size_range, full,
    Nat.mul_div_cancel _ (by decide), Nat.mul_assoc]

theorem appendLine_eq (scale : Nat) (buffer row : Array UInt8) :
    appendLine scale buffer row = buffer ++ line scale row := by
  have widened (buffer pixel : Array UInt8) :
      (Array.replicate scale pixel).foldl (· ++ ·) buffer = buffer ++ run scale pixel := by
    have appended := @Array.foldl_append_eq_append _ _ (Array.replicate scale pixel) id buffer
    rwa [Array.map_id] at appended
  simp only [appendLine, widened]
  rw [Array.foldl_append_eq_append, line, Array.flatMap_def]

theorem appendParts?_eq_some {start stop : Nat} (ordered : start ≤ stop) (times : Nat)
    {buffer : Array UInt8} (inside : stop ≤ buffer.size) :
    appendParts? start stop times buffer =
      some (buffer ++ (Array.replicate times (buffer.extract start stop)).flatten) := by
  induction times generalizing buffer with
  | zero => simp [appendParts?]
  | succ times ih =>
      -- The buffer only grows, so the part stays the same.
      have same : (buffer ++ buffer.extract start stop).extract start stop =
          buffer.extract start stop := by
        rw [Array.extract_append, Nat.sub_eq_zero_of_le inside]
        simp
      have grown : stop ≤ (buffer ++ buffer.extract start stop).size := by
        rw [Array.size_append]
        exact Nat.le_add_right_of_le inside
      rw [appendParts?, appendPart?, if_pos ⟨ordered, inside⟩, Option.bind_some, ih grown, same,
        Nat.add_comm, ← Array.replicate_append_replicate, Array.flatten_append]
      simp

/-- The copies are of the first line, which the buffer ends with. -/
theorem appendBand?_eq_some (scale : Nat) (buffer : Array UInt8) {row : Array UInt8}
    (full : row.size = displayWidth * pixelSize) :
    appendBand? scale buffer row = some (buffer ++ band scale row) := by
  have size := size_line scale full
  have widened : (buffer ++ line scale row).extract buffer.size
      (buffer.size + displayWidth * scale * pixelSize) = line scale row := by
    rw [Array.extract_append_right, ← size, Array.extract_size]
  have inside : buffer.size + displayWidth * scale * pixelSize ≤
      (buffer ++ line scale row).size :=
    Nat.le_of_eq (by rw [Array.size_append, size])
  simp only [appendBand?, appendLine_eq]
  rw [appendParts?_eq_some (Nat.le_add_right _ _) _ inside, widened, Array.append_assoc, band]
  cases scale with
  | zero =>
      have empty : line 0 row = #[] := Array.eq_empty_of_size_eq_zero (size.trans (by simp))
      simp [empty]
  | succ scale =>
      rw [Nat.add_sub_cancel, Nat.add_comm, ← Array.replicate_append_replicate,
        Array.flatten_append]
      simp

theorem foldlM_appendBand? (scale : Nat) {rows : List (Array UInt8)}
    (full : ∀ row ∈ rows, row.size = displayWidth * pixelSize) (buffer : Array UInt8) :
    rows.foldlM (appendBand? scale) buffer =
      some (buffer ++ rows.toArray.flatMap (band scale)) := by
  induction rows generalizing buffer with
  | nil => simp
  | cons row rows ih =>
      obtain ⟨first, rest⟩ := List.forall_mem_cons.mp full
      rw [List.foldlM_cons, appendBand?_eq_some scale buffer first]
      refine (ih rest (buffer ++ band scale row)).trans ?_
      rw [Array.append_assoc]
      apply congrArg
      apply Array.toList_inj.mp
      simp

/-- Every copy takes a part that the buffer has. -/
theorem bands?_eq_some (pixels : Array UInt8) (scale : Nat) :
    bands? pixels scale =
      some ((pieces (displayWidth * pixelSize) pixels).flatMap (band scale)) := by
  have full : ∀ row ∈ (pieces (displayWidth * pixelSize) pixels).toList,
      row.size = displayWidth * pixelSize :=
    fun row member => size_of_mem_pieces row (Array.mem_toList_iff.mp member)
  rw [bands?, ← Array.foldlM_toList, foldlM_appendBand? scale full, Array.empty_append,
    Array.toArray_toList]

end Chip8.Bitmap
