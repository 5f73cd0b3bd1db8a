import Chip8.Core

/-!
# Block transfers

The instructions that move blocks of memory at the index register: sprites to the display, decimal
digits and registers to memory, and memory to registers. Each checks its whole block before it
changes anything.
-/

namespace Chip8.Core

/-- The index register moved past a block of registers that ends with `Vx`. -/
def indexPast (core : Core) (x : Register) : UInt16 := core.i + UInt16.ofNat (x.val + 1)

/-- Draws the sprite of the given height at the position `Vx`, `Vy`; the flag tells whether it
erased a cell. -/
def drawSprite (x y : Register) (height : Nat) : Action Core Unit := do
  let core ← Action.state
  let rows ← core.memory.readBlock core.i.toNat height
  let drawn := core.display.drawSprite (core.get x).toNat (core.get y).toNat rows
  Action.replace { core with display := drawn.1 }
  modify fun core => core.setFlag drawn.2

/-- The hundreds, tens and ones of a byte. -/
def decimalDigits (value : UInt8) : List UInt8 := [value / 100, value / 10 % 10, value % 10]

/-- Writes the decimal digits of `Vx` to memory. -/
def storeDecimal (x : Register) : Action Core Unit :=
  Action.update fun core => core.writeBlock core.i.toNat (decimalDigits (core.get x))

/-- Writes `V0` to `Vx` to memory and moves the index register past them. -/
def storeRegisters (x : Register) : Action Core Unit := do
  Action.update fun core => core.writeBlock core.i.toNat (core.firstRegisters x)
  modify fun core => { core with i := core.indexPast x }

/-- Reads `V0` to `Vx` from memory and moves the index register past them. -/
def loadRegisters (x : Register) : Action Core Unit := do
  let core ← Action.state
  let values ← core.memory.readBlock core.i.toNat (x.val + 1)
  modify fun core => core.setFirstRegisters values
  modify fun core => { core with i := core.indexPast x }

end Chip8.Core
