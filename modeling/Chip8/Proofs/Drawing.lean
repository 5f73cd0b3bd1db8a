import Chip8.Proofs.Display
import Chip8.Proofs.Step

/-!
# Drawing

A step that draws a sprite combines it with the display by exclusive or (`Core.isDrawn_drawn`). The
position is read before the flag is written, so it does not matter whether the flag register is one
of the two that hold it.
-/

namespace Chip8

namespace Core

/-- Whether a set bit of a sprite of the given height falls on a cell: the sprite lies at the index
register, and its upper left corner at the position `Vx`, `Vy`. -/
def hits (core : Core) (x y : Register) (height column row : Nat) : Bool :=
  let left := (core.get x).toNat
  let top := (core.get y).toNat
  decide (left ≤ column ∧ column < left + 8) && decide (top ≤ row ∧ row < top + height) &&
    (core.memory.byteAt (core.i.toNat + (row - top))).toNat.testBit (7 - (column - left))

theorem hits_eq_decide (core : Core) (x y : Register) (height column row : Nat) :
    core.hits x y height column row =
      decide (Display.Hits (core.get x).toNat (core.get y).toNat
        (core.memory.blockAt core.i.toNat height) column row) := by
  rw [Bool.eq_iff_iff, decide_eq_true_eq]
  simp only [hits, Display.Hits, Display.isLit, Memory.getElem?_blockAt, Bool.and_eq_true,
    decide_eq_true_eq]
  by_cases within : row - (core.get y).toNat < height
  · simp only [within, ↓reduceIte, Option.any_some]
    constructor
    · rintro ⟨⟨⟨left, right⟩, top, _⟩, lit⟩
      exact ⟨left, right, top, lit⟩
    · rintro ⟨left, right, top, lit⟩
      exact ⟨⟨⟨left, right⟩, top, by omega⟩, lit⟩
  · simp only [within, ↓reduceIte, Option.any_none, Bool.false_eq_true, and_false, iff_false]
    rintro ⟨⟨_, top, bottom⟩, _⟩
    omega

/-- Columns of a sprite do not wrap: a position is at most 255. -/
theorem near_of_register (core : Core) (x : Register) :
    (core.get x).toNat + 8 ≤ Numeral.span64 := by
  have position := (core.get x).toNat_lt
  simp only [Numeral.span64]
  omega

/-- Drawing combines the display with the sprite by exclusive or. -/
theorem isDrawn_drawn (core : Core) (x y : Register) (height : Nat) {column row : Nat}
    (inside : Display.onGrid column row) :
    (core.drawn x y height).display.isDrawn column row =
      (core.display.isDrawn column row ^^ core.hits x y height column row) := by
  rw [hits_eq_decide]
  exact Display.isDrawn_drawSprite (near_of_register core x) core.display _ _ inside

theorem cell?_drawn (core : Core) (x y : Register) (height : Nat) {column row : Nat}
    (missed : core.hits x y height column row = false) :
    (core.drawn x y height).display.cell? column row = core.display.cell? column row := by
  rw [hits_eq_decide, decide_eq_false_iff_not] at missed
  exact (Display.cell?_drawSprite (near_of_register core x) ..).trans (if_neg missed)

/-- A set bit of the sprite falls on a drawn cell of the grid. -/
def Collides (core : Core) (x y : Register) (height : Nat) : Prop :=
  ∃ column row, Display.onGrid column row ∧ core.display.isDrawn column row = true ∧
    core.hits x y height column row = true

theorem collides_iff (core : Core) (x y : Register) (height : Nat) :
    core.Collides x y height ↔
      (core.display.drawSprite (core.get x).toNat (core.get y).toNat
        (core.memory.blockAt core.i.toNat height)).2 = true := by
  rw [Display.drawSprite_snd (near_of_register core x)]
  simp only [Collides, hits_eq_decide, decide_eq_true_eq]
  constructor
  · rintro ⟨column, row, _, drawn, hit⟩
    exact ⟨column, row, drawn, hit⟩
  · rintro ⟨column, row, drawn, hit⟩
    exact ⟨column, row, Display.onGrid_of_isDrawn drawn, drawn, hit⟩

/-- Drawing writes the flag register and no other one. -/
theorem drawn_eq (core : Core) (x y : Register) (height : Nat) :
    core.drawn x y height =
      { core.set flagRegister ((core.drawn x y height).get flagRegister) with
        display := (core.drawn x y height).display } := by
  simp only [drawn, setFlag, set, get, Fin.getElem_fin, Vector.getElem_set_self]

theorem get_flagRegister_drawn (core : Core) (x y : Register) (height : Nat) :
    (core.drawn x y height).get flagRegister =
      if (core.display.drawSprite (core.get x).toNat (core.get y).toNat
        (core.memory.blockAt core.i.toNat height)).2 then 1 else 0 := by
  simp only [drawn, setFlag, set, get, Fin.getElem_fin, Vector.getElem_set_self]

end Core

namespace Machine

theorem step_draw_eq {machine : Machine} {x y : Register} {height : Fin 16}
    (isAt : machine.IsAt (.draw x y height))
    (readable : machine.core.i.toNat + height.val ≤ memorySize) :
    machine.step.result = .ok .draw ∧
      machine.step.machine = machine.withCore (machine.core.advanced.drawn x y height.val) :=
  isAt.step_of_outcome rfl ((Core.outcome_drawSprite ..).trans (if_pos readable))

/-- **Sprites are drawn by exclusive or.** A step that draws a sprite from memory makes a cell drawn
exactly if either it was drawn or a set bit falls on it, and cleared otherwise if all cells were one
of the two. It keeps the value of a cell on which no set bit falls. The flag is one if a set bit
falls on a drawn cell of the grid, and zero otherwise. Apart from the display, the flag register and
the program counter, nothing changes. -/
theorem step_draw {machine : Machine} {x y : Register} {height : Fin 16}
    (isAt : machine.IsAt (.draw x y height))
    (readable : machine.core.i.toNat + height.val ≤ memorySize) :
    let before := machine.core
    let after := machine.step.machine.core
    machine.step.result = .ok .draw ∧
    (∀ column row, Display.onGrid column row →
      after.display.isDrawn column row =
        (before.display.isDrawn column row ^^ before.hits x y height.val column row)) ∧
    (before.display.IsBinary → after.display.IsBinary) ∧
    (∀ column row, before.hits x y height.val column row = false →
      after.display.cell? column row = before.display.cell? column row) ∧
    (before.Collides x y height.val → after.get flagRegister = 1) ∧
    (¬ before.Collides x y height.val → after.get flagRegister = 0) ∧
    machine.step.machine = machine.withCore
      { before.set flagRegister (after.get flagRegister) with
        display := after.display
        pc := before.pc + 2 } := by
  intro before after
  obtain ⟨result, drawn⟩ := step_draw_eq isAt readable
  have same : after = before.advanced.drawn x y height.val := congrArg Machine.core drawn
  refine ⟨result, ?_, ?_, ?_, ?_, ?_, ?_⟩
  · intro column row onGrid
    rw [same]
    exact before.advanced.isDrawn_drawn x y height.val onGrid
  · intro binary
    rw [same]
    exact Display.IsBinary.drawSprite binary _ _ _
  · intro column row missed
    rw [same]
    exact before.advanced.cell?_drawn x y height.val missed
  · intro collides
    rw [same, Core.get_flagRegister_drawn]
    exact if_pos ((before.advanced.collides_iff x y height.val).mp collides)
  · intro apart
    rw [same, Core.get_flagRegister_drawn]
    exact if_neg fun erased => apart ((before.advanced.collides_iff x y height.val).mpr erased)
  · rw [same, drawn]
    exact congrArg machine.withCore (before.advanced.drawn_eq x y height.val)

/-- The sprite is its own instruction, at a position that the flag register holds. -/
theorem step_draw_of_flagRegister :
    let core : Core := { Core.initial with pc := 0, memory := Memory.zero.store 0 [0xDF, 0xF2] }
    let machine : Machine := ⟨core, .start (Vector.replicate 8 0), {}⟩
    machine.IsAt (.draw flagRegister flagRegister 2) ∧ machine.core.i.toNat + 2 ≤ memorySize ∧
      machine.step.machine.core.display.isDrawn 0 0 = true ∧
      machine.step.machine.core.display.isDrawn 2 0 = false := by
  intro core machine
  have isAt : machine.IsAt (.draw flagRegister flagRegister 2) :=
    ⟨rfl, by decide, by decide +kernel⟩
  have readable : machine.core.i.toNat + 2 ≤ memorySize := by decide
  have drawn := (step_draw isAt readable).2.1
  refine ⟨isAt, readable, ?_, ?_⟩
  · rw [drawn 0 0 (by decide)]
    decide +kernel
  · rw [drawn 2 0 (by decide)]
    decide +kernel

end Machine

end Chip8
