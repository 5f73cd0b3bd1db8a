import Chip8.Display

/-!
# Cells and sprites

A toggle inverts one cell. A sprite toggles the cells that it hits, each of them once, so the drawn
cells change by exclusive or (`cell?_drawSprite`), and some cell is erased exactly if one that it
hits was drawn (`drawSprite_snd`). Sprites leave binary displays binary.
-/

namespace Chip8.Display

/-! ## Single cells -/

/-- A cell off the grid has no value. -/
theorem cell?_eq_none {display : Display} {x y : Nat} (outside : ¬ onGrid x y) :
    display.cell? x y = none := dif_neg outside

theorem exists_cell? (display : Display) {x y : Nat} (inside : onGrid x y) :
    ∃ value, display.cell? x y = some value := ⟨_, dif_pos inside⟩

theorem cell?_eq_getElem? (display : Display) {x y : Nat} (inside : onGrid x y) :
    display.cell? x y = display.cells[x + y * displayWidth]? := by
  rw [cell?, dif_pos inside, getElem?_pos display.cells _ (index_lt inside)]
  rfl

theorem onGrid_of_isDrawn {display : Display} {x y : Nat} (drawn : display.isDrawn x y = true) :
    onGrid x y := by
  refine Decidable.byContradiction fun outside => ?_
  rw [isDrawn, cell?_eq_none outside] at drawn
  cases drawn

/-- Displays are equal if all cells on the grid are. -/
theorem ext_onGrid {first second : Display}
    (same : ∀ column row, onGrid column row → first.cell? column row = second.cell? column row) :
    first = second := by
  obtain ⟨firstCells⟩ := first
  obtain ⟨secondCells⟩ := second
  rw [Display.mk.injEq]
  apply Vector.ext
  intro index below
  have inside : onGrid (index % displayWidth) (index / displayWidth) := by
    simp only [cellCount, onGrid, displayWidth, displayHeight] at below ⊢
    omega
  have place : index % displayWidth + index / displayWidth * displayWidth = index := by
    rw [Nat.mul_comm]
    exact Nat.mod_add_div index displayWidth
  have equal := same (index % displayWidth) (index / displayWidth) inside
  rw [cell?_eq_getElem? _ inside, cell?_eq_getElem? _ inside, place] at equal
  simpa only [Vector.getElem?_eq_getElem below, Option.some.injEq] using equal

theorem ext_cell? {first second : Display}
    (same : ∀ column row, first.cell? column row = second.cell? column row) : first = second :=
  ext_onGrid fun column row _ => same column row

/-- Setting a cell on the grid changes no other cell. -/
theorem cell?_setCell (display : Display) {x y : Nat} (inside : onGrid x y) (value : UInt8)
    (column row : Nat) :
    (display.setCell x y value).cell? column row =
      if (column, row) = (x, y) then some value else display.cell? column row := by
  by_cases other : onGrid column row
  · have index : x + y * displayWidth = column + row * displayWidth ↔ (column, row) = (x, y) := by
      rw [Prod.mk.injEq]
      have := inside.1
      have := other.1
      simp only [displayWidth] at *
      omega
    rw [setCell, dif_pos inside, cell?_eq_getElem? _ other, cell?_eq_getElem? _ other]
    simp only [Vector.getElem?_set, index]
  · have apart : (column, row) ≠ (x, y) := by
      rintro ⟨⟩
      exact other inside
    rw [if_neg apart, cell?_eq_none other, cell?_eq_none other]

/-- The value of a cell after a toggle. -/
def inverted (value : UInt8) : UInt8 := if value = drawnValue then clearValue else drawnValue

/-- A toggle inverts one cell and changes no other. -/
theorem cell?_toggle (display : Display) (x y column row : Nat) :
    (display.toggle x y).1.cell? column row =
      if (column, row) = (x, y) then (display.cell? column row).map inverted
      else display.cell? column row := by
  by_cases inside : onGrid x y
  · obtain ⟨value, here⟩ := display.exists_cell? inside
    by_cases same : (column, row) = (x, y)
    · cases same
      simp only [toggle, here, inverted, ↓reduceIte, Option.map_some]
      split <;> rw [cell?_setCell display inside, if_pos rfl]
    · simp only [toggle, here, same, ↓reduceIte]
      split <;> rw [cell?_setCell display inside, if_neg same]
  · have nothing : display.cell? x y = none := cell?_eq_none inside
    by_cases same : (column, row) = (x, y)
    · cases same
      simp only [toggle, nothing, ↓reduceIte, Option.map_none]
    · simp only [toggle, nothing, same, ↓reduceIte]

/-- A toggle erases a cell exactly if it was drawn. -/
theorem toggle_snd (display : Display) (x y : Nat) :
    (display.toggle x y).2 = display.isDrawn x y := by
  unfold toggle isDrawn
  cases display.cell? x y with
  | none => rfl
  | some value => by_cases drawn : value = drawnValue <;> simp [drawn]

/-- Exactly the cells that are not drawn become drawn when they are inverted. -/
theorem isDrawn_map_inverted {value? : Option UInt8} (present : value? ≠ none) :
    (value?.map inverted == some drawnValue) = !(value? == some drawnValue) := by
  cases value? with
  | none => exact absurd rfl present
  | some value =>
      by_cases drawn : value = drawnValue
      · subst drawn
        rfl
      · simp [inverted, drawn]

/-! ## Lists of cells -/

/-- The erasures of a list of toggles are collected on top of a flag. -/
private theorem foldl_toggle (display : Display) (cells : List (Nat × Nat)) (erased : Bool) :
    cells.foldl
      (fun (state : Display × Bool) cell =>
        let toggled := state.1.toggle cell.1 cell.2
        (toggled.1, state.2 || toggled.2))
      (display, erased) =
        ((display.toggleAll cells).1, erased || (display.toggleAll cells).2) := by
  unfold toggleAll
  induction cells generalizing display erased with
  | nil => simp only [List.foldl_nil, Bool.or_false]
  | cons cell cells ih =>
      simp only [List.foldl_cons]
      rw [ih, ih _ (false || _)]
      simp only [Bool.false_or, Bool.or_assoc]

theorem toggleAll_append (display : Display) (first second : List (Nat × Nat)) :
    display.toggleAll (first ++ second) =
      (((display.toggleAll first).1.toggleAll second).1,
        (display.toggleAll first).2 || ((display.toggleAll first).1.toggleAll second).2) := by
  conv => lhs; unfold toggleAll
  rw [List.foldl_append]
  exact foldl_toggle _ second _

theorem toggleAll_cons (display : Display) (cell : Nat × Nat) (cells : List (Nat × Nat)) :
    display.toggleAll (cell :: cells) =
      (((display.toggle cell.1 cell.2).1.toggleAll cells).1,
        display.isDrawn cell.1 cell.2 || ((display.toggle cell.1 cell.2).1.toggleAll cells).2) := by
  rw [← toggle_snd]
  exact toggleAll_append display [cell] cells

/-- Toggling distinct cells inverts each of them once. -/
theorem cell?_toggleAll (display : Display) {cells : List (Nat × Nat)} (distinct : cells.Nodup)
    (column row : Nat) :
    (display.toggleAll cells).1.cell? column row =
      if (column, row) ∈ cells then (display.cell? column row).map inverted
      else display.cell? column row := by
  induction cells generalizing display with
  | nil => rfl
  | cons cell cells ih =>
      obtain ⟨fresh, distinct⟩ := List.nodup_cons.mp distinct
      rw [toggleAll_cons]
      dsimp only
      rw [ih _ distinct, cell?_toggle]
      by_cases same : (column, row) = cell
      · subst same
        simp only [fresh, List.mem_cons, true_or, ↓reduceIte]
      · simp only [same, List.mem_cons, false_or, ↓reduceIte]

/-- Toggling distinct cells erases one exactly if one of them was drawn. -/
theorem toggleAll_snd (display : Display) {cells : List (Nat × Nat)} (distinct : cells.Nodup) :
    (display.toggleAll cells).2 = cells.any fun cell => display.isDrawn cell.1 cell.2 := by
  induction cells generalizing display with
  | nil => rfl
  | cons cell cells ih =>
      obtain ⟨fresh, distinct⟩ := List.nodup_cons.mp distinct
      rw [toggleAll_cons, List.any_cons]
      dsimp only
      rw [ih _ distinct]
      -- The cells that are left are other ones, so the first toggle has not changed them.
      have same : ∀ other ∈ cells, (display.toggle cell.1 cell.2).1.isDrawn other.1 other.2 =
          display.isDrawn other.1 other.2 := by
        intro other member
        have apart : (other.1, other.2) ≠ (cell.1, cell.2) := by
          intro equal
          have equal : other = cell := equal
          exact fresh (equal ▸ member)
        rw [isDrawn, cell?_toggle, if_neg apart, isDrawn]
      congr 1
      rw [Bool.eq_iff_iff, List.any_eq_true, List.any_eq_true]
      exact exists_congr fun other => and_congr_right fun member => by rw [same other member]

/-! ## Sprites -/

/-- The cells that a sprite hits, from the top down. -/
def spriteCells (x : Nat) : (y : Nat) → List UInt8 → List (Nat × Nat)
  | _, [] => []
  | y, row :: rows => litCells x y row ++ spriteCells x (y + 1) rows

/-- A lit pixel of a sprite at the position falls on the cell. -/
abbrev Hits (x y : Nat) (sprite : List UInt8) (column row : Nat) : Prop :=
  x ≤ column ∧ column < x + 8 ∧ y ≤ row ∧ (sprite[row - y]?.any (isLit · (column - x))) = true

theorem drawSprite_eq_toggleAll (display : Display) (x y : Nat) (sprite : List UInt8) :
    display.drawSprite x y sprite = display.toggleAll (spriteCells x y sprite) := by
  induction sprite generalizing display y with
  | nil => rfl
  | cons row rows ih => rw [drawSprite, spriteCells, toggleAll_append, ih, drawRow]

/-- The lit pixels of a row that are placed in columns one by one cover the cell. -/
def Covers (row : UInt8) (place : Nat → Nat) (y column line : Nat) : Prop :=
  line = y ∧ ∃ offset < 8, isLit row offset = true ∧ place offset = column

theorem mem_litCells_iff {x y column line : Nat} {row : UInt8} :
    (column, line) ∈ litCells x y row ↔ Covers row (columnRight x) y column line := by
  simp only [litCells, Covers, List.mem_map, List.mem_filter, List.mem_range, Prod.mk.injEq]
  constructor
  · rintro ⟨offset, ⟨below, lit⟩, here, rfl⟩
    exact ⟨rfl, offset, below, lit, here⟩
  · rintro ⟨rfl, offset, below, lit, here⟩
    exact ⟨offset, ⟨below, lit⟩, here, rfl⟩

/-- The lit pixels of a row are less than a wrap of the columns apart. -/
theorem nodup_litCells (x y : Nat) (row : UInt8) : (litCells x y row).Nodup := by
  refine List.pairwise_map.mpr (List.Pairwise.imp_of_mem ?_ (List.nodup_range.filter _))
  intro first second firstIn secondIn apart same
  have firstBelow := List.mem_range.mp (List.mem_filter.mp firstIn).1
  have secondBelow := List.mem_range.mp (List.mem_filter.mp secondIn).1
  have columns : columnRight x first = columnRight x second := congrArg Prod.fst same
  simp only [columnRight, Numeral.span64] at columns
  omega

section

variable {x : Nat} (near : x + 8 ≤ Numeral.span64)

include near

theorem mem_litCells {y column row : Nat} {byte : UInt8} :
    (column, row) ∈ litCells x y byte ↔
      row = y ∧ x ≤ column ∧ column < x + 8 ∧ isLit byte (column - x) = true := by
  simp only [mem_litCells_iff, Covers, columnRight]
  refine and_congr_right fun _ => ?_
  constructor
  · rintro ⟨offset, below, lit, rfl⟩
    rw [Nat.mod_eq_of_lt (by omega), Nat.add_sub_cancel_left]
    exact ⟨by omega, by omega, lit⟩
  · rintro ⟨left, right, lit⟩
    refine ⟨column - x, by omega, lit, ?_⟩
    rw [Nat.mod_eq_of_lt (by omega)]
    omega

theorem mem_spriteCells {y column row : Nat} {sprite : List UInt8} :
    (column, row) ∈ spriteCells x y sprite ↔ Hits x y sprite column row := by
  induction sprite generalizing y with
  | nil => simp [spriteCells]
  | cons byte rest ih =>
      rw [spriteCells, List.mem_append, mem_litCells near, ih]
      by_cases top : row = y
      · subst top
        have past : ¬ row + 1 ≤ row := by omega
        simp only [Hits, past, Nat.le_refl, Nat.sub_self, List.getElem?_cons_zero, Option.any_some,
          true_and, false_and, and_false, or_false]
      · by_cases below : y + 1 ≤ row
        · have offset : row - y = (row - (y + 1)) + 1 := by omega
          have above : y ≤ row := by omega
          simp only [Hits, top, below, above, offset, List.getElem?_cons_succ, false_and,
            true_and, false_or]
        · have above : ¬ y ≤ row := by omega
          simp only [Hits, top, below, above, false_and, and_false, or_self]

/-- A sprite hits no cell twice. -/
theorem nodup_spriteCells (y : Nat) (sprite : List UInt8) : (spriteCells x y sprite).Nodup := by
  induction sprite generalizing y with
  | nil => exact .nil
  | cons byte rest ih =>
      refine List.nodup_append.mpr ⟨nodup_litCells x y byte, ih (y + 1), ?_⟩
      rintro ⟨column, row⟩ here cell later rfl
      have top := ((mem_litCells near).mp here).1
      have below := ((mem_spriteCells near).mp later).2.2.1
      omega

/-- A sprite inverts the cells that it hits and changes no other. -/
theorem cell?_drawSprite (display : Display) (y : Nat) (sprite : List UInt8) (column row : Nat) :
    (display.drawSprite x y sprite).1.cell? column row =
      if Hits x y sprite column row then (display.cell? column row).map inverted
      else display.cell? column row := by
  rw [drawSprite_eq_toggleAll, cell?_toggleAll display (nodup_spriteCells near y sprite)]
  simp only [mem_spriteCells near]

/-- The drawn cells change by exclusive or with the cells that a sprite hits. -/
theorem isDrawn_drawSprite (display : Display) (y : Nat) (sprite : List UInt8) {column row : Nat}
    (inside : onGrid column row) :
    (display.drawSprite x y sprite).1.isDrawn column row =
      (display.isDrawn column row ^^ decide (Hits x y sprite column row)) := by
  have present : display.cell? column row ≠ none :=
    Option.ne_none_iff_exists'.mpr (display.exists_cell? inside)
  rw [isDrawn, cell?_drawSprite near, isDrawn]
  by_cases hit : Hits x y sprite column row
  · rw [if_pos hit, decide_eq_true hit, Bool.xor_true, isDrawn_map_inverted present]
  · rw [if_neg hit, decide_eq_false hit, Bool.xor_false]

/-- A sprite erases a cell exactly if it hits one that is drawn. -/
theorem drawSprite_snd (display : Display) (y : Nat) (sprite : List UInt8) :
    (display.drawSprite x y sprite).2 = true ↔
      ∃ column row, display.isDrawn column row = true ∧ Hits x y sprite column row := by
  rw [drawSprite_eq_toggleAll, toggleAll_snd display (nodup_spriteCells near y sprite),
    List.any_eq_true, Prod.exists]
  simp only [mem_spriteCells near, and_comm]

end

/-! ## Binary displays -/

/-- Every cell is cleared or drawn. -/
def IsBinary (display : Display) : Prop :=
  ∀ x y value, display.cell? x y = some value → value = clearValue ∨ value = drawnValue

theorem blank_isBinary : blank.IsBinary := by
  intro x y value found
  by_cases inside : onGrid x y
  · rw [cell?, dif_pos inside, Option.some.injEq] at found
    left
    rw [← found]
    exact Vector.getElem_replicate (index_lt inside)
  · rw [cell?_eq_none inside] at found
    cases found

/-- Of a cleared or drawn cell either value tells the other one apart. -/
theorem IsBinary.cell?_eq_clearValue_iff {display : Display} (binary : display.IsBinary)
    (x y : Nat) :
    display.cell? x y = some clearValue ↔ onGrid x y ∧ display.isDrawn x y = false := by
  by_cases inside : onGrid x y
  · obtain ⟨value, found⟩ := display.exists_cell? inside
    rw [and_iff_right inside, isDrawn, found]
    rcases binary x y value found with rfl | rfl <;> decide
  · rw [cell?_eq_none inside]
    exact iff_of_false (Option.some_ne_none _).symm fun cleared => inside cleared.1

theorem cell?_eq_drawnValue_iff (display : Display) (x y : Nat) :
    display.cell? x y = some drawnValue ↔ display.isDrawn x y = true := beq_iff_eq.symm

theorem IsBinary.cell?_eq {display : Display} (binary : display.IsBinary) {x y : Nat}
    (inside : onGrid x y) :
    display.cell? x y = some (if display.isDrawn x y then drawnValue else clearValue) := by
  cases drawn : display.isDrawn x y with
  | false => exact (binary.cell?_eq_clearValue_iff x y).mpr ⟨inside, drawn⟩
  | true => exact (display.cell?_eq_drawnValue_iff x y).mpr drawn

theorem inverted_eq_or_eq (value : UInt8) :
    inverted value = clearValue ∨ inverted value = drawnValue := by
  unfold inverted
  split
  · exact .inl rfl
  · exact .inr rfl

theorem IsBinary.toggle {display : Display} (binary : display.IsBinary) (x y : Nat) :
    (display.toggle x y).1.IsBinary := by
  intro column row value found
  rw [cell?_toggle] at found
  split at found
  · obtain ⟨before, _, rfl⟩ := Option.map_eq_some_iff.mp found
    exact inverted_eq_or_eq before
  · exact binary column row value found

theorem IsBinary.toggleAll {display : Display} (binary : display.IsBinary)
    (cells : List (Nat × Nat)) : (display.toggleAll cells).1.IsBinary := by
  induction cells generalizing display with
  | nil => exact binary
  | cons cell cells ih =>
      rw [toggleAll_cons]
      exact ih (binary.toggle cell.1 cell.2)

theorem IsBinary.drawSprite {display : Display} (binary : display.IsBinary) (x y : Nat)
    (sprite : List UInt8) : (display.drawSprite x y sprite).1.IsBinary := by
  rw [drawSprite_eq_toggleAll]
  exact binary.toggleAll _

/-! ## Colour channels -/

theorem size_rgb (display : Display) : display.rgb.size = cellCount * Bitmap.pixelSize := by
  rw [rgb, Bitmap.size_flatMap fun _ _ => Array.size_replicate, Vector.size_toArray]

/-- The three channel bytes of a cell are its value. -/
theorem getElem?_rgb (display : Display) {x y channel : Nat} (inside : onGrid x y)
    (within : channel < 3) :
    display.rgb[3 * (x + y * displayWidth) + channel]? = display.cell? x y := by
  have uniform (value : UInt8) (_ : value ∈ display.cells.toArray) :
      (Array.replicate Bitmap.pixelSize value).size = 3 := Array.size_replicate
  rw [cell?_eq_getElem? display inside, rgb, Bitmap.getElem?_flatMap uniform _ within,
    Vector.getElem?_toArray]
  simp only [Array.getElem?_replicate, within, ↓reduceIte]
  exact Option.bind_fun_some _

end Chip8.Display
