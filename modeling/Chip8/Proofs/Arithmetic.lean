import Chip8.Proofs.Words

/-!
# Arithmetic on registers

What the arithmetic instructions leave in the registers, in terms of the numbers that are in their
operands before (`Machine.step_arithmetic`). The operands may be one register, and one or both of
them the flag register: the instructions differ only in whether the flag or the result stays in it.
-/

namespace Chip8

/-! ## Bytes as numbers -/

namespace Byte

variable (first second : UInt8)

theorem toNat_add : ((first + second).toNat : Int) = (first.toNat + second.toNat : Int) % 256 := by
  rw [UInt8.toNat_add]
  omega

theorem toNat_sub : ((first - second).toNat : Int) = (first.toNat - second.toNat : Int) % 256 := by
  have := second.toNat_lt
  rw [UInt8.toNat_sub]
  omega

theorem toNat_half : ((first >>> 1).toNat : Int) = (first.toNat / 2 : Int) % 256 := by
  have := first.toNat_lt
  rw [UInt8.toNat_shiftRight, Nat.shiftRight_eq_div_pow]
  change ((first.toNat / 2 ^ 1 : Nat) : Int) = _
  omega

theorem toNat_double : ((first <<< 1).toNat : Int) = (2 * first.toNat : Int) % 256 := by
  rw [UInt8.toNat_shiftLeft, Nat.shiftLeft_eq]
  change ((first.toNat * 2 ^ 1 % 2 ^ 8 : Nat) : Int) = _
  omega

theorem toNat_mod : (first.toNat : Int) = (first.toNat : Int) % 256 := by
  have := first.toNat_lt
  omega

theorem lowest_bit : (first &&& 1 == 1) = decide (first.toNat % 2 = 1) := by
  rw [Bool.eq_iff_iff, beq_iff_eq, decide_eq_true_eq, ← UInt8.toNat_inj, UInt8.toNat_and,
    UInt8.toNat_one, Nat.and_one_is_mod]

theorem highest_bit : ((first >>> 7) &&& 1 == 1) = decide (128 ≤ first.toNat) := by
  have := first.toNat_lt
  rw [lowest_bit, UInt8.toNat_shiftRight, Nat.shiftRight_eq_div_pow, decide_eq_decide]
  change first.toNat / 2 ^ 7 % 2 = 1 ↔ _
  omega

end Byte

/-! ## Numbers in registers -/

section

variable (x : Register) (result flag : Int) (before : Register → Int)

/-- The numbers after a result goes to `Vx`. -/
def withResult (register : Register) : Int :=
  if register = x then result else before register

/-- The numbers after a result goes to `Vx` and a flag to the flag register; if these are one
register, the flag stays in it. -/
def withResultThenFlag (register : Register) : Int :=
  if register = flagRegister then flag else if register = x then result else before register

/-- The numbers after a flag goes to the flag register and a result to `Vx`; if these are one
register, the result stays in it. -/
def withFlagThenResult (register : Register) : Int :=
  if register = x then result else if register = flagRegister then flag else before register

end

/-- One for a flag that is set, and zero otherwise. -/
def flagNumber (flag : Bool) : Int := if flag then 1 else 0

namespace Core

/-- The numbers in the general registers. -/
def numbers (core : Core) (register : Register) : Int := (core.get register).toNat

theorem get_set (core : Core) (x register : Register) (value : UInt8) :
    (core.set x value).get register = if register = x then value else core.get register := by
  simp only [get, set, Fin.getElem_fin, Vector.getElem_set, Fin.val_inj, eq_comm]

theorem get_setFlag (core : Core) (flag : Bool) (register : Register) :
    (core.setFlag flag).get register =
      if register = flagRegister then if flag then 1 else 0 else core.get register :=
  get_set ..

theorem numbers_mod (core : Core) (register : Register) :
    core.numbers register = core.numbers register % 256 :=
  Byte.toNat_mod _

theorem toNat_flag (flag : Bool) :
    (((if flag then 1 else 0 : UInt8)).toNat : Int) = flagNumber flag % 256 := by
  cases flag <;> rfl

section

variable {core : Core} {x : Register} {value : UInt8} {result : Int} {flag : Bool}
  (reduced : (value.toNat : Int) = result % 256) (register : Register)

include reduced

theorem numbers_set :
    (core.set x value).numbers register = withResult x result core.numbers register % 256 := by
  rw [numbers, get_set, withResult]
  split
  · exact reduced
  · exact core.numbers_mod register

theorem numbers_setFlag_set :
    ((core.set x value).setFlag flag).numbers register =
      withResultThenFlag x result (flagNumber flag) core.numbers register % 256 := by
  rw [numbers, get_setFlag, withResultThenFlag]
  split
  · exact toNat_flag flag
  · exact numbers_set reduced register

theorem numbers_set_setFlag :
    ((core.setFlag flag).set x value).numbers register =
      withFlagThenResult x result (flagNumber flag) core.numbers register % 256 := by
  rw [numbers, get_set, withFlagThenResult]
  split
  · exact reduced
  · exact numbers_set (toNat_flag flag) register

end

end Core

namespace Machine

/-- A step goes well and leaves numbers in the registers, each reduced to a byte. Apart from the
registers it changes only the program counter, which moves past the instruction. -/
structure Leaves (machine : Machine) (numbers : Register → Int) : Prop where
  result : machine.step.result = .ok .ok
  registers : ∀ register, machine.step.machine.core.numbers register = numbers register % 256
  others : machine.step.machine = machine.withCore
    { machine.core with v := machine.step.machine.core.v, pc := machine.core.pc + 2 }

theorem IsAt.leaves {machine : Machine} {instruction : Instruction} {v : Vector UInt8 16}
    {numbers : Register → Int} (isAt : machine.IsAt instruction)
    (effect : machine.advanced.exec instruction =
      machine.advanced.yields .ok { machine.core.advanced with v })
    (values : ∀ register, ({ machine.core with v } : Core).numbers register =
      numbers register % 256) :
    machine.Leaves numbers := by
  have result := isAt.step_result
  have after := isAt.step_machine
  rw [effect] at result after
  refine ⟨result, ?_, ?_⟩
  · intro register
    rw [after]
    exact values register
  · rw [after]
    rfl

/-- **Arithmetic is exact, also on the flag register.** Let `a` and `b` be the numbers in `Vx` and
`Vy` before a step. An addition leaves `a + b` and whether this passes 255; a subtraction leaves
`a - b`, or `b - a` if it is reversed, and whether nothing is borrowed; a shift leaves the half or
the double of `a`, and the bit that is shifted out. Results are reduced to a byte. After an addition
to the flag register the flag stays in it, after the other instructions the result. The addition of
a byte, moves and bitwise operations set no flag. Nothing else changes but the program counter. -/
theorem step_arithmetic (machine : Machine) (x y : Register) (byte : UInt8) :
    let a := (machine.core.get x).toNat
    let b := (machine.core.get y).toNat
    let before := machine.core.numbers
    (machine.Fetches (Word.ofNibbles 0x8 x y 0x4) →
      machine.Leaves (withResultThenFlag x (a + b) (flagNumber (255 < a + b)) before)) ∧
    (machine.Fetches (Word.ofNibbles 0x8 x y 0x5) →
      machine.Leaves (withFlagThenResult x (a - b) (flagNumber (b ≤ a)) before)) ∧
    (machine.Fetches (Word.ofNibbles 0x8 x y 0x7) →
      machine.Leaves (withFlagThenResult x (b - a) (flagNumber (a ≤ b)) before)) ∧
    (machine.Fetches (Word.ofNibbles 0x8 x y 0x6) →
      machine.Leaves (withFlagThenResult x (a / 2) (flagNumber (a % 2 = 1)) before)) ∧
    (machine.Fetches (Word.ofNibbles 0x8 x y 0xE) →
      machine.Leaves (withFlagThenResult x (2 * a) (flagNumber (128 ≤ a)) before)) ∧
    (machine.Fetches (Word.ofByte 0x7 x byte) →
      machine.Leaves (withResult x (a + byte.toNat) before)) ∧
    (machine.Fetches (Word.ofNibbles 0x8 x y 0x0) → machine.Leaves (withResult x b before)) ∧
    (machine.Fetches (Word.ofNibbles 0x8 x y 0x1) →
      machine.Leaves (withResult x (a ||| b : Nat) before)) ∧
    (machine.Fetches (Word.ofNibbles 0x8 x y 0x2) →
      machine.Leaves (withResult x (a &&& b : Nat) before)) ∧
    (machine.Fetches (Word.ofNibbles 0x8 x y 0x3) →
      machine.Leaves (withResult x (a ^^^ b : Nat) before)) := by
  intro a b before
  refine ⟨?_, ?_, ?_, ?_, ?_, ?_, ?_, ?_, ?_, ?_⟩ <;> intro fetches
  · have isAt : machine.IsAt (.add x y) := fetches.isAt_of_encode nofun
    exact isAt.leaves rfl (Core.numbers_setFlag_set (Byte.toNat_add _ _))
  · have isAt : machine.IsAt (.sub x y) := fetches.isAt_of_encode nofun
    exact isAt.leaves rfl (Core.numbers_set_setFlag (Byte.toNat_sub _ _))
  · have isAt : machine.IsAt (.subReverse x y) := fetches.isAt_of_encode nofun
    exact isAt.leaves rfl (Core.numbers_set_setFlag (Byte.toNat_sub _ _))
  · have isAt : machine.IsAt (.shiftRight x) := (Instruction.decode_shift x y).1 ▸ fetches.isAt
    rw [← Byte.lowest_bit]
    exact isAt.leaves rfl (Core.numbers_set_setFlag (Byte.toNat_half _))
  · have isAt : machine.IsAt (.shiftLeft x) := (Instruction.decode_shift x y).2 ▸ fetches.isAt
    rw [← Byte.highest_bit]
    exact isAt.leaves rfl (Core.numbers_set_setFlag (Byte.toNat_double _))
  · have isAt : machine.IsAt (.addByte x byte) := fetches.isAt_of_encode nofun
    exact isAt.leaves rfl (Core.numbers_set (Byte.toNat_add _ _))
  · have isAt : machine.IsAt (.move x y) := fetches.isAt_of_encode nofun
    exact isAt.leaves rfl (Core.numbers_set (Byte.toNat_mod _))
  · have isAt : machine.IsAt (.or x y) := fetches.isAt_of_encode nofun
    rw [← UInt8.toNat_or]
    exact isAt.leaves rfl (Core.numbers_set (Byte.toNat_mod _))
  · have isAt : machine.IsAt (.and x y) := fetches.isAt_of_encode nofun
    rw [← UInt8.toNat_and]
    exact isAt.leaves rfl (Core.numbers_set (Byte.toNat_mod _))
  · have isAt : machine.IsAt (.xor x y) := fetches.isAt_of_encode nofun
    rw [← UInt8.toNat_xor]
    exact isAt.leaves rfl (Core.numbers_set (Byte.toNat_mod _))

/-- The flag register as both operands of an addition, and as the first one of a subtraction. -/
theorem step_arithmetic_of_flagRegister :
    let core : Core := { Core.initial with
      v := Vector.replicate 16 200
      memory := Memory.zero.store programStart [0x8F, 0xF4, 0x8F, 0x15] }
    let adding : Machine := ⟨core, .start (Vector.replicate 8 0), {}⟩
    let subtracting := adding.withCore { core with pc := 0x202, v := core.v.set 1 201 }
    adding.Fetches (Word.ofNibbles 0x8 0xF 0xF 0x4) ∧
      adding.step.machine.core.numbers flagRegister = 1 ∧
      subtracting.Fetches (Word.ofNibbles 0x8 0xF 0x1 0x5) ∧
      subtracting.step.machine.core.numbers flagRegister = 255 := by
  intro core adding subtracting
  have first : adding.Fetches (Word.ofNibbles 0x8 0xF 0xF 0x4) :=
    ⟨rfl, by decide, by decide +kernel⟩
  have second : subtracting.Fetches (Word.ofNibbles 0x8 0xF 0x1 0x5) :=
    ⟨rfl, by decide, by decide +kernel⟩
  have sum := ((step_arithmetic adding flagRegister flagRegister 0).1 first).registers flagRegister
  have difference :=
    ((step_arithmetic subtracting flagRegister 1 0).2.1 second).registers flagRegister
  exact ⟨first, sum.trans (by decide +kernel), second, difference.trans (by decide +kernel)⟩

end Machine

end Chip8
