import Chip8.Proofs.Drawing

/-!
# Sprites in any order

To draw is to toggle cells, and toggles commute, for each of them inverts one cell. So the display
after some sprites depends neither on their order nor on the order of their rows. On a display whose
cells are cleared or drawn a toggle undoes itself, and so drawing the same sprites again, in any
order, restores the display (`Display.drawAll_group`).
-/

namespace Chip8

/-- A sprite, with the position of its upper left corner. -/
structure Sprite where
  x : Nat
  y : Nat
  /-- The rows from the top down. -/
  rows : List UInt8
  /-- Columns are counted from the value of a register. -/
  near : x < 256

namespace Sprite

/-- The rows of a sprite as sprites of their own, each at its place. -/
def slices (sprite : Sprite) : List Sprite :=
  sprite.rows.mapIdx fun offset row => ⟨sprite.x, sprite.y + offset, [row], sprite.near⟩

/-- The cells that a sprite hits, those off the grid included. -/
def cells (sprite : Sprite) : List (Nat × Nat) :=
  Display.spriteCells sprite.x sprite.y sprite.rows

theorem flatMap_cells_slices (sprite : Sprite) : sprite.slices.flatMap cells = sprite.cells := by
  obtain ⟨x, y, rows, near⟩ := sprite
  simp only [slices, cells]
  induction rows generalizing y with
  | nil => rfl
  | cons row rows ih =>
      have below := ih (y + 1)
      simp only [Nat.add_assoc, Nat.add_comm 1] at below
      rw [List.mapIdx_cons, List.flatMap_cons, below]
      simp only [cells, Display.spriteCells, List.append_nil, Nat.add_zero]

theorem columns_near (sprite : Sprite) : sprite.x + 8 ≤ Numeral.span64 := by
  have near := sprite.near
  simp only [Numeral.span64]
  omega

end Sprite

namespace Display

/-- Draws a sprite, and tells whether any cell was erased. -/
def draw (display : Display) (sprite : Sprite) : Display × Bool :=
  display.drawSprite sprite.x sprite.y sprite.rows

/-- The display after sprites are drawn one after the other. -/
def drawAll (display : Display) (sprites : List Sprite) : Display :=
  sprites.foldl (fun display sprite => (display.draw sprite).1) display

/-! ## Toggles in any order -/

theorem toggle_comm (display : Display) (first second : Nat × Nat) :
    ((display.toggle first.1 first.2).1.toggle second.1 second.2).1 =
      ((display.toggle second.1 second.2).1.toggle first.1 first.2).1 := by
  apply ext_cell?
  intro column row
  simp only [cell?_toggle]
  -- Where both fall on the cell it is inverted twice, in either order.
  split <;> split <;> rfl

theorem inverted_inverted {value : UInt8} (binary : value = clearValue ∨ value = drawnValue) :
    inverted (inverted value) = value := by
  rcases binary with rfl | rfl <;> rfl

/-- A toggle of a cleared or drawn cell undoes itself. -/
theorem IsBinary.toggle_toggle {display : Display} (binary : display.IsBinary) (x y : Nat) :
    ((display.toggle x y).1.toggle x y).1 = display := by
  apply ext_cell?
  intro column row
  rw [cell?_toggle, cell?_toggle]
  split
  · cases found : display.cell? column row with
    | none => rfl
    | some value =>
        exact congrArg some (inverted_inverted (binary column row value found))
  · rfl

theorem toggleAll_fst (display : Display) (cells : List (Nat × Nat)) :
    (display.toggleAll cells).1 =
      cells.foldl (fun display cell => (display.toggle cell.1 cell.2).1) display := by
  induction cells generalizing display with
  | nil => rfl
  | cons cell cells ih => rw [toggleAll_cons, List.foldl_cons, ih]

theorem toggleAll_perm (display : Display) {first second : List (Nat × Nat)}
    (reordered : first.Perm second) :
    (display.toggleAll first).1 = (display.toggleAll second).1 := by
  rw [toggleAll_fst, toggleAll_fst]
  exact reordered.foldl_eq' (fun one _ other _ display => toggle_comm display one other) display

/-- Toggles are undone from the last to the first. -/
theorem IsBinary.toggleAll_reverse {display : Display} (binary : display.IsBinary)
    (cells : List (Nat × Nat)) :
    ((display.toggleAll cells).1.toggleAll cells.reverse).1 = display := by
  induction cells generalizing display with
  | nil => rfl
  | cons cell cells ih =>
      rw [toggleAll_cons, List.reverse_cons, toggleAll_append, ih (binary.toggle cell.1 cell.2)]
      exact binary.toggle_toggle cell.1 cell.2

/-! ## Sprites in any order -/

theorem drawAll_eq_toggleAll (display : Display) (sprites : List Sprite) :
    display.drawAll sprites = (display.toggleAll (sprites.flatMap Sprite.cells)).1 := by
  unfold drawAll
  induction sprites generalizing display with
  | nil => rfl
  | cons sprite sprites ih =>
      rw [List.foldl_cons, ih, List.flatMap_cons, toggleAll_append, draw, drawSprite_eq_toggleAll]
      rfl

/-- Sprites and slices of sprites that hit the same cells, each as often, draw the same picture. -/
theorem drawAll_congr (display : Display) {first second : List Sprite}
    (reordered : (first.flatMap Sprite.cells).Perm (second.flatMap Sprite.cells)) :
    display.drawAll first = display.drawAll second := by
  rw [drawAll_eq_toggleAll, drawAll_eq_toggleAll]
  exact toggleAll_perm display reordered

theorem drawAll_perm (display : Display) {first second : List Sprite}
    (reordered : first.Perm second) : display.drawAll first = display.drawAll second :=
  drawAll_congr display (reordered.flatMap_right Sprite.cells)

theorem drawAll_slices (display : Display) (sprites : List Sprite) :
    display.drawAll (sprites.flatMap Sprite.slices) = display.drawAll sprites := by
  apply drawAll_congr
  simp only [List.flatMap_assoc, Sprite.flatMap_cells_slices, List.Perm.refl]

theorem IsBinary.drawAll_drawAll {display : Display} (binary : display.IsBinary)
    (sprites : List Sprite) : (display.drawAll sprites).drawAll sprites = display := by
  rw [drawAll_eq_toggleAll, drawAll_eq_toggleAll,
    toggleAll_perm _ (List.reverse_perm (sprites.flatMap Sprite.cells)).symm]
  exact binary.toggleAll_reverse _

/-- A sprite that is drawn again collides with the cells that it has newly drawn. -/
theorem draw_draw_snd (display : Display) (sprite : Sprite) :
    ((display.draw sprite).1.draw sprite).2 = true ↔
      ∃ column row, onGrid column row ∧ display.isDrawn column row = false ∧
        (display.draw sprite).1.isDrawn column row = true := by
  rw [draw, drawSprite_snd sprite.columns_near]
  refine exists_congr fun column => exists_congr fun row => ?_
  constructor
  · rintro ⟨drawn, hit⟩
    have inside := onGrid_of_isDrawn drawn
    have changed := isDrawn_drawSprite sprite.columns_near display sprite.y sprite.rows inside
    rw [decide_eq_true hit, Bool.xor_true, ← draw, drawn] at changed
    exact ⟨inside, by simpa using changed.symm, drawn⟩
  · rintro ⟨inside, clear, drawn⟩
    have changed := isDrawn_drawSprite sprite.columns_near display sprite.y sprite.rows inside
    rw [← draw, drawn, clear, Bool.false_xor, eq_comm, decide_eq_true_eq] at changed
    exact ⟨drawn, changed⟩

end Display

/-- The sprite that an instruction draws: it lies at the index register, and its position is that in
`Vx` and `Vy`. -/
def Core.sprite (core : Core) (x y : Register) (height : Nat) : Sprite where
  x := (core.get x).toNat
  y := (core.get y).toNat
  rows := core.memory.blockAt core.i.toNat height
  near := (core.get x).toNat_lt

/-- A step that draws a sprite puts it on the display, and its collision into the flag register. -/
theorem Machine.step_draw_sprite {machine : Machine} {x y : Register} {height : Fin 16}
    (isAt : machine.IsAt (.draw x y height))
    (readable : machine.core.i.toNat + height.val ≤ memorySize) :
    let drawn := machine.core.display.draw (machine.core.sprite x y height.val)
    machine.step.machine.core.display = drawn.1 ∧
      machine.step.machine.core.get flagRegister = if drawn.2 then 1 else 0 := by
  intro drawn
  rw [(step_draw_eq isAt readable).2]
  exact ⟨rfl, machine.core.advanced.get_flagRegister_drawn x y height.val⟩

namespace Display

/-- **Sprites form a group under drawing.** On a display whose cells are cleared or drawn, sprites
give the same picture in every order, and also if their rows are drawn one by one in any order.
Drawing them a second time, in whatever order, restores the display. A sprite that is drawn twice in
succession collides the second time exactly if the first time it turned a cell of the grid from
cleared to drawn. This is what the drawing instruction does: its step draws the sprite at the index
register, and leaves the collision in the flag register. -/
theorem drawAll_group {display : Display} (binary : display.IsBinary) (sprites : List Sprite) :
    (∀ order : List Sprite, order.Perm sprites →
      display.drawAll order = display.drawAll sprites) ∧
    (∀ rows : List Sprite, rows.Perm (sprites.flatMap Sprite.slices) →
      display.drawAll rows = display.drawAll sprites) ∧
    (∀ order : List Sprite, order.Perm sprites →
      (display.drawAll sprites).drawAll order = display) ∧
    (∀ sprite : Sprite, ((display.draw sprite).1.draw sprite).2 = true ↔
      ∃ column row, display.cell? column row = some clearValue ∧
        (display.draw sprite).1.cell? column row = some drawnValue) ∧
    (∀ (machine : Machine) (x y : Register) (height : Fin 16),
      machine.IsAt (.draw x y height) → machine.core.i.toNat + height.val ≤ memorySize →
      machine.core.display = display →
      let drawn := display.draw (machine.core.sprite x y height.val)
      machine.step.machine.core.display = drawn.1 ∧
        machine.step.machine.core.get flagRegister = if drawn.2 then 1 else 0) := by
  refine ⟨?_, ?_, ?_, ?_, ?_⟩
  · intro order reordered
    exact drawAll_perm display reordered
  · intro rows reordered
    rw [drawAll_perm display reordered, drawAll_slices]
  · intro order reordered
    rw [drawAll_perm _ reordered]
    exact binary.drawAll_drawAll sprites
  · intro sprite
    rw [draw_draw_snd]
    refine exists_congr fun column => exists_congr fun row => ?_
    simp only [binary.cell?_eq_clearValue_iff, isDrawn, beq_iff_eq, and_assoc]
  · rintro machine x y height isAt readable rfl
    exact machine.step_draw_sprite isAt readable

/-- Two sprites that overlap in the lower right corner and are both clipped there. -/
theorem drawAll_group_of_clipped :
    let first : Sprite := ⟨62, 31, [0xFF, 0xFF], by decide⟩
    let second : Sprite := ⟨60, 31, [0xF0], by decide⟩
    blank.IsBinary ∧ blank.drawAll [second, first] = blank.drawAll [first, second] ∧
      (blank.drawAll [first, second]).drawAll [second, first] = blank ∧
      ((blank.draw first).1.draw first).2 = true := by
  intro first second
  obtain ⟨ordered, -, restored, again, -⟩ := drawAll_group blank_isBinary [first, second]
  have swapped : [second, first].Perm [first, second] := List.Perm.swap first second []
  refine ⟨blank_isBinary, ordered _ swapped, restored _ swapped, (again first).mpr ?_⟩
  exact ⟨62, 31, by decide +kernel, by decide +kernel⟩

end Display

end Chip8
