import Chip8.Proofs.Display

/-!
# Clipping

A sprite row toggles the cells that its lit pixels cover, and pixels outside of the grid are
clipped. The column of a pixel is a sum of 64-bit words. Where this sum is out of range the pixel is
not clipped: checked arithmetic fails, and unchecked arithmetic wraps, so that the pixel covers a
cell at the left edge. All other pixels, however far away, lie as on an unbounded plane
(`Display.drawRow_clips`).
-/

namespace Chip8.Display

/-- The result of drawing on a display: the grid cells in a region are inverted and no other ones,
and what is told is whether one of them was drawn. -/
structure Toggles (before : Display) (drawn : Display × Bool) (region : Nat → Nat → Prop) :
    Prop where
  inverts {column line : Nat} :
    region column line → drawn.1.cell? column line = (before.cell? column line).map inverted
  keeps {column line : Nat} :
    ¬ region column line → drawn.1.cell? column line = before.cell? column line
  erases : drawn.2 = true ↔
    ∃ column line, region column line ∧ before.isDrawn column line = true

namespace Toggles

variable {before : Display} {drawn : Display × Bool} {region other : Nat → Nat → Prop}

/-- Cells off the grid do not matter. -/
theorem congr (toggles : Toggles before drawn region)
    (same : ∀ column line, onGrid column line → (region column line ↔ other column line)) :
    Toggles before drawn other where
  inverts {column line} inOther := by
    by_cases inside : onGrid column line
    · exact toggles.inverts ((same column line inside).mpr inOther)
    · rw [cell?_eq_none inside, cell?_eq_none inside]
      rfl
  keeps {column line} missed := by
    by_cases inside : onGrid column line
    · exact toggles.keeps fun inRegion => missed ((same column line inside).mp inRegion)
    · rw [cell?_eq_none inside, cell?_eq_none inside]
  erases := by
    rw [toggles.erases]
    refine exists_congr fun column => exists_congr fun line => and_congr_left fun cell => ?_
    exact same column line (onGrid_of_isDrawn cell)

theorem unchanged (toggles : Toggles before drawn region)
    (clipped : ∀ column line, onGrid column line → ¬ region column line) :
    drawn = (before, false) := by
  have empty : Toggles before drawn fun _ _ => False :=
    toggles.congr fun column line inside => iff_false_intro (clipped column line inside)
  refine Prod.ext (ext_cell? fun column line => empty.keeps not_false) ?_
  refine Bool.eq_false_iff.mpr fun erased => ?_
  obtain ⟨_, _, inside, _⟩ := empty.erases.mp erased
  exact inside

/-- A cell of the grid shows whether it was in the region. -/
theorem mem_of_ne (toggles : Toggles before drawn region) {column line : Nat}
    (changed : drawn.1.cell? column line ≠ before.cell? column line) : region column line :=
  Classical.not_not.mp fun missed => changed (toggles.keeps missed)

theorem cell?_ne (toggles : Toggles before drawn region) {column line : Nat}
    (inside : onGrid column line) (covered : region column line) :
    drawn.1.cell? column line ≠ before.cell? column line := by
  obtain ⟨value, found⟩ := before.exists_cell? inside
  rw [toggles.inverts covered, found, Option.map_some, Ne, Option.some.injEq, inverted]
  split
  next drawn =>
    rw [drawn]
    decide
  next clear => exact fun same => clear same.symm

end Toggles

variable (display : Display) (x y : UInt64) (row : UInt8)

/-- A row toggles the cells that it covers where columns are sums of words. -/
theorem drawRow_toggles :
    Toggles display (display.drawRow x.toNat y.toNat row)
      (Covers row (columnRight x.toNat) y.toNat) := by
  have distinct := nodup_litCells x.toNat y.toNat row
  refine ⟨fun {column line} covered => ?_, fun {column line} missed => ?_, ?_⟩
  · rw [drawRow, cell?_toggleAll display distinct, if_pos (mem_litCells_iff.mpr covered)]
  · rw [drawRow, cell?_toggleAll display distinct]
    exact if_neg fun member => missed (mem_litCells_iff.mp member)
  · rw [drawRow, toggleAll_snd display distinct, List.any_eq_true, Prod.exists]
    simp only [mem_litCells_iff]

/-- The column of some lit pixel is out of range. -/
def Exceeds : Prop :=
  ∃ offset < 8, isLit row offset = true ∧ Numeral.span64 ≤ x.toNat + offset

variable {x y row}

theorem drawRow?_eq_some (inRange : ¬ Exceeds x row) :
    display.drawRow? x.toNat y.toNat row = some (display.drawRow x.toNat y.toNat row) := by
  refine if_pos (List.all_eq_true.mpr fun offset member => decide_eq_true ?_)
  obtain ⟨inRow, lit⟩ := List.mem_filter.mp member
  exact Nat.lt_of_not_le fun beyond => inRange ⟨offset, List.mem_range.mp inRow, lit, beyond⟩

theorem drawRow?_eq_none_iff :
    display.drawRow? x.toNat y.toNat row = none ↔ Exceeds x row := by
  constructor
  · intro failed
    refine Classical.not_not.mp fun inRange => ?_
    cases failed.symm.trans (drawRow?_eq_some display inRange)
  · rintro ⟨offset, inRow, lit, beyond⟩
    refine if_neg fun all => Nat.not_lt_of_le beyond ?_
    have member := List.mem_filter.mpr ⟨List.mem_range.mpr inRow, lit⟩
    exact of_decide_eq_true (List.all_eq_true.mp all offset member)

/-- A pixel out of range covers a cell to the left of the row. -/
theorem Exceeds.exists_covered (exceeds : Exceeds x row) :
    ∃ column, column < displayWidth ∧ column < x.toNat ∧
      Covers row (columnRight x.toNat) y.toNat column y.toNat := by
  obtain ⟨offset, inRow, lit, beyond⟩ := exceeds
  have word : x.toNat < Numeral.span64 := x.toNat_lt
  have narrow : 8 ≤ displayWidth := by decide
  have wide : displayWidth ≤ Numeral.span64 := by decide
  refine ⟨x.toNat + offset - Numeral.span64, by omega, by omega, rfl, offset, inRow, lit, ?_⟩
  rw [columnRight, Nat.mod_eq_sub_mod beyond, Nat.mod_eq_of_lt (by omega)]

theorem covers_columnRight_iff (inRange : ¬ Exceeds x row) {column line : Nat} :
    Covers row (columnRight x.toNat) y.toNat column line ↔
      Covers row (x.toNat + ·) y.toNat column line := by
  refine and_congr_right fun _ => exists_congr fun offset => and_congr_right fun inRow =>
    and_congr_right fun lit => ?_
  have sum : x.toNat + offset < Numeral.span64 :=
    Nat.lt_of_not_le fun beyond => inRange ⟨offset, inRow, lit, beyond⟩
  rw [columnRight, Nat.mod_eq_of_lt sum]

/-- Unchecked arithmetic clips all pixels exactly if none on a row of the grid is out of range. -/
theorem toggles_iff :
    Toggles display (display.drawRow x.toNat y.toNat row) (Covers row (x.toNat + ·) y.toNat) ↔
      ¬ (y.toNat < displayHeight ∧ Exceeds x row) := by
  have always := drawRow_toggles display x y row
  constructor
  · rintro clips ⟨below, exceeds⟩
    obtain ⟨column, onRow, left, covered⟩ := exceeds.exists_covered
    obtain ⟨-, offset, -, -, here⟩ := clips.mem_of_ne (always.cell?_ne ⟨onRow, below⟩ covered)
    -- No pixel lies to the left of the row on the unbounded plane.
    exact absurd (here ▸ left) (Nat.not_lt.mpr (Nat.le_add_right _ _))
  · intro inRange
    refine always.congr fun column line inside => ?_
    by_cases exceeds : Exceeds x row
    · have above : line ≠ y.toNat := fun here => inRange ⟨here ▸ inside.2, exceeds⟩
      exact iff_of_false (fun covered => above covered.1) (fun covered => above covered.1)
    · exact covers_columnRight_iff exceeds

theorem drawRow_eq_iff (outside : displayWidth ≤ x.toNat ∨ displayHeight ≤ y.toNat) :
    display.drawRow x.toNat y.toNat row = (display, false) ↔
      ¬ (y.toNat < displayHeight ∧ Exceeds x row) := by
  constructor
  · rintro same ⟨below, exceeds⟩
    obtain ⟨column, onRow, -, covered⟩ := exceeds.exists_covered
    exact (drawRow_toggles display x y row).cell?_ne ⟨onRow, below⟩ covered (by rw [same])
  · intro inRange
    refine ((toggles_iff display).mpr inRange).unchanged ?_
    rintro column line ⟨left, above⟩ ⟨rfl, offset, -, -, here⟩
    have here : x.toNat + offset = column := here
    omega

/-- **Rows are clipped.** At a position of 64-bit words from which no lit pixel exceeds the range of
a word, drawing a row does not fail: it toggles exactly the cells that its lit pixels cover, tells
whether one of those was drawn, and does nothing to the right of the grid or below it. Checked
arithmetic fails in the other cases. Unchecked arithmetic always toggles the cells that the lit
pixels cover with columns reduced to the range of a word, which is the same only below the grid. -/
theorem drawRow_clips (display : Display) (x y : UInt64) (row : UInt8) :
    let drawn := display.drawRow x.toNat y.toNat row
    let drawn? := display.drawRow? x.toNat y.toNat row
    let exceeds := ∃ offset < 8, isLit row offset = true ∧ Numeral.span64 ≤ x.toNat + offset
    let wraps := y.toNat < displayHeight ∧ exceeds
    (drawn? = none ↔ exceeds) ∧ (¬ exceeds → drawn? = some drawn) ∧
    (Toggles display drawn (Covers row (x.toNat + ·) y.toNat) ↔ ¬ wraps) ∧
    (displayWidth ≤ x.toNat ∨ displayHeight ≤ y.toNat → (drawn = (display, false) ↔ ¬ wraps)) ∧
    Toggles display drawn (Covers row (columnRight x.toNat) y.toNat) :=
  ⟨drawRow?_eq_none_iff display, drawRow?_eq_some display, toggles_iff display,
    drawRow_eq_iff display, drawRow_toggles display x y row⟩

/-- A full row at the last column exceeds the range: it fails, or covers the left edge. -/
theorem drawRow_at_last_column :
    let x : UInt64 := 0xFFFFFFFFFFFFFFFF
    let y : UInt64 := 0
    let drawn := blank.drawRow x.toNat y.toNat 0xFF
    displayWidth ≤ x.toNat ∧ blank.drawRow? x.toNat y.toNat 0xFF = none ∧
      drawn ≠ (blank, false) ∧ drawn.1.isDrawn 0 0 = true ∧
      ¬ Toggles blank drawn (Covers 0xFF (x.toNat + ·) y.toNat) := by
  intro x y drawn
  have exceeds : Exceeds x 0xFF := ⟨1, by decide, by decide, by decide⟩
  have wraps : y.toNat < displayHeight ∧ Exceeds x 0xFF := ⟨by decide, exceeds⟩
  refine ⟨by decide, (drawRow?_eq_none_iff blank).mpr exceeds, ?_, by decide +kernel, ?_⟩
  · exact fun same => (drawRow_eq_iff blank (.inl (by decide))).mp same wraps
  · exact fun toggles => (toggles_iff blank).mp toggles wraps

end Chip8.Display
