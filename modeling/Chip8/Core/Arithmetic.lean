import Chip8.Core

/-!
# Arithmetic

The arithmetic instructions on registers. All operands are read before anything is written. The
addition writes its sum first and its flag last; the others write their flag first and their result
last, which decides what the flag register holds when it is also the destination.
-/

namespace Chip8.Core

/-- Adds `Vy` to `Vx`; the flag tells whether the sum passes 255. -/
def add (core : Core) (x y : Register) : Core :=
  let first := core.get x
  let second := core.get y
  (core.set x (first + second)).setFlag (255 < first.toNat + second.toNat)

/-- Subtracts `Vy` from `Vx`; the flag tells that nothing is borrowed. -/
def sub (core : Core) (x y : Register) : Core :=
  let first := core.get x
  let second := core.get y
  (core.setFlag (second ≤ first)).set x (first - second)

/-- Subtracts `Vx` from `Vy` into `Vx`; the flag tells that nothing is borrowed. -/
def subReverse (core : Core) (x y : Register) : Core :=
  let first := core.get x
  let second := core.get y
  (core.setFlag (first ≤ second)).set x (second - first)

/-- Halves `Vx`; the flag receives the lowest bit. -/
def shiftRight (core : Core) (x : Register) : Core :=
  let value := core.get x
  (core.setFlag (value &&& 1 == 1)).set x (value >>> 1)

/-- Doubles `Vx`; the flag receives the highest bit. -/
def shiftLeft (core : Core) (x : Register) : Core :=
  let value := core.get x
  (core.setFlag ((value >>> 7) &&& 1 == 1)).set x (value <<< 1)

end Chip8.Core
