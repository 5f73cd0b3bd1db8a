import Chip8.Proofs.Words

/-!
# Block transfers

Storing registers to memory and loading them from it undo each other (`Machine.step_transfer`).
Whatever happens in between, a load restores what a store has written if the bytes and the index
register are as they were then; and a store after a load changes no byte. Decimal digits are loaded
in the same way, and give back the number that was converted.
-/

namespace Chip8

theorem Memory.ext_byteAt {first second : Memory}
    (same : ∀ address, first.byteAt address = second.byteAt address) : first = second := by
  obtain ⟨firstBytes⟩ := first
  obtain ⟨secondBytes⟩ := second
  rw [Memory.mk.injEq]
  apply Vector.ext
  intro address inside
  have equal := same address
  simpa only [byteAt, Vector.getElem?_eq_getElem inside, Option.getD_some] using equal

namespace Core

theorem getElem?_firstRegisters (core : Core) (x register : Register) :
    (core.firstRegisters x)[register.val]? =
      if register ≤ x then some (core.get register) else none := by
  have bound : register.val < x.val + 1 ↔ register ≤ x := Nat.lt_succ_iff
  rw [firstRegisters, List.getElem?_take]
  simp only [bound]
  split
  · exact List.getElem?_eq_getElem (by simp)
  · rfl

/-- The digits of a byte, hundreds first, are digits and make it up. -/
theorem decimalDigits_eq (value : UInt8) :
    ∃ hundreds tens ones : UInt8, decimalDigits value = [hundreds, tens, ones] ∧
      hundreds.toNat ≤ 9 ∧ tens.toNat ≤ 9 ∧ ones.toNat ≤ 9 ∧
      100 * hundreds.toNat + 10 * tens.toNat + ones.toNat = value.toNat := by
  have := value.toNat_lt
  refine ⟨_, _, _, rfl, ?_⟩
  simp only [UInt8.toNat_div, UInt8.toNat_mod, UInt8.reduceToNat]
  omega

end Core

namespace Machine

variable {machine : Machine} {x : Register}

/-- A step stores `V0` to `Vx` at the index register and moves that past them; it changes no other
byte, and beyond that only the program counter. -/
structure Stores (machine : Machine) (x : Register) : Prop where
  result : machine.step.result = .ok .ok
  stored : ∀ register ≤ x, machine.step.machine.core.memory.byteAt
    (machine.core.i.toNat + register.val) = machine.core.get register
  outside : ∀ address, address < machine.core.i.toNat ∨ machine.core.i.toNat + x.val < address →
    machine.step.machine.core.memory.byteAt address = machine.core.memory.byteAt address
  index : machine.step.machine.core.i.toNat = machine.core.i.toNat + x.val + 1
  others : machine.step.machine = machine.withCore
    { machine.core with
      memory := machine.step.machine.core.memory
      i := machine.step.machine.core.i
      pc := machine.core.pc + 2 }

/-- A step loads `V0` to `Vx` from the index register and moves that past them; it changes no other
register, and beyond that only the program counter. -/
structure Loads (machine : Machine) (x : Register) : Prop where
  result : machine.step.result = .ok .ok
  loaded : ∀ register ≤ x, machine.step.machine.core.get register =
    machine.core.memory.byteAt (machine.core.i.toNat + register.val)
  kept : ∀ register, x < register →
    machine.step.machine.core.get register = machine.core.get register
  index : machine.step.machine.core.i.toNat = machine.core.i.toNat + x.val + 1
  others : machine.step.machine = machine.withCore
    { machine.core with
      v := machine.step.machine.core.v
      i := machine.step.machine.core.i
      pc := machine.core.pc + 2 }

theorem IsAt.stores (isAt : machine.IsAt (.store x))
    (fits : machine.core.i.toNat + x.val + 1 ≤ memorySize) : machine.Stores x := by
  have size : (machine.core.firstRegisters x).length = x.val + 1 :=
    machine.core.length_firstRegisters x
  obtain ⟨result, after⟩ : machine.step.result = .ok .ok ∧
      machine.step.machine = machine.withCore
        { machine.core with
          memory := machine.core.memory.store machine.core.i.toNat (machine.core.firstRegisters x)
          i := machine.core.indexPast x
          pc := machine.core.pc + 2 } :=
    isAt.step_of_outcome rfl ((Core.outcome_storeRegisters ..).trans (if_pos fits))
  refine ⟨result, ?_, ?_, ?_, ?_⟩
  · intro register first
    rw [after]
    refine Memory.byteAt_store_of_inside _ (by omega) ?_
    rw [Core.getElem?_firstRegisters, if_pos first]
  · intro address outside
    rw [after]
    exact Memory.byteAt_store_of_outside _ (by omega)
  · rw [after]
    exact Core.toNat_indexPast fits
  · rw [after]
    rfl

theorem IsAt.loads (isAt : machine.IsAt (.load x))
    (fits : machine.core.i.toNat + x.val + 1 ≤ memorySize) : machine.Loads x := by
  obtain ⟨result, after⟩ : machine.step.result = .ok .ok ∧
      machine.step.machine = machine.withCore
        { machine.core with
          v := (machine.core.setFirstRegisters
            (machine.core.memory.blockAt machine.core.i.toNat (x.val + 1))).v
          i := machine.core.indexPast x
          pc := machine.core.pc + 2 } :=
    isAt.step_of_outcome rfl ((Core.outcome_loadRegisters ..).trans (if_pos fits))
  have registers (register : Register) : machine.step.machine.core.get register =
      if register ≤ x then machine.core.memory.byteAt (machine.core.i.toNat + register.val)
      else machine.core.get register := by
    have bound : register.val < x.val + 1 ↔ register ≤ x := Nat.lt_succ_iff
    rw [after]
    simp only [withCore, Core.get, Core.setFirstRegisters, Fin.getElem_fin, Vector.getElem_ofFn,
      Memory.getElem?_blockAt, bound]
    split <;> rfl
  refine ⟨result, ?_, ?_, ?_, ?_⟩
  · intro register first
    rw [registers, if_pos first]
  · intro register beyond
    rw [registers, if_neg (Fin.not_le.mpr beyond)]
  · rw [after]
    exact Core.toNat_indexPast fits
  · rw [after]
    rfl

theorem IsAt.step_decimal (isAt : machine.IsAt (.decimal x))
    (fits : machine.core.i.toNat + 3 ≤ memorySize) :
    machine.step.result = .ok .ok ∧ ∀ offset digit,
      (Core.decimalDigits (machine.core.get x))[offset]? = some digit →
      machine.step.machine.core.memory.byteAt (machine.core.i.toNat + offset) = digit := by
  obtain ⟨result, after⟩ :=
    isAt.step_of_outcome rfl ((Core.outcome_storeDecimal ..).trans (if_pos fits))
  refine ⟨result, fun offset digit found => ?_⟩
  rw [after]
  exact Memory.byteAt_store_of_inside _ fits found

/-- A later machine has the index register back that a machine had before a step, and finds the
bytes from there up to an offset as the step has left them. -/
structure ReturnsTo (later machine : Machine) (last : Nat) : Prop where
  index : later.core.i = machine.core.i
  block : ∀ offset ≤ last, later.core.memory.byteAt (machine.core.i.toNat + offset) =
    machine.step.machine.core.memory.byteAt (machine.core.i.toNat + offset)

variable {later : Machine}

/-- What a store has written, a load brings back. -/
theorem Stores.get_load (stores : machine.Stores x) (returns : later.ReturnsTo machine x.val)
    (loads : later.Loads x) (register : Register) (first : register ≤ x) :
    later.step.machine.core.get register = machine.core.get register := by
  rw [loads.loaded register first, returns.index, returns.block register.val first,
    stores.stored register first]

/-- A store of what a load has read changes no byte. -/
theorem Loads.memory_store (loads : machine.Loads x) (returns : later.ReturnsTo machine x.val)
    (registers : ∀ register ≤ x,
      later.core.get register = machine.step.machine.core.get register)
    (stores : later.Stores x) : later.step.machine.core.memory = later.core.memory := by
  have kept : machine.step.machine.core.memory = machine.core.memory :=
    congrArg (·.core.memory) loads.others
  apply Memory.ext_byteAt
  intro address
  by_cases outside : address < later.core.i.toNat ∨ later.core.i.toNat + x.val < address
  · exact stores.outside address outside
  · have index : later.core.i = machine.core.i := returns.index
    have offset : address - machine.core.i.toNat ≤ x.val := by
      rw [index] at outside
      omega
    have place : machine.core.i.toNat + (address - machine.core.i.toNat) = address := by
      rw [index] at outside
      omega
    have first : (⟨address - machine.core.i.toNat, by omega⟩ : Register) ≤ x := offset
    have stored := stores.stored _ first
    have found := returns.block _ offset
    rw [registers _ first, loads.loaded _ first, index] at stored
    rw [kept] at found
    rw [place] at stored found
    rw [stored, found]

/-- **Stores and loads of registers undo each other.** If the block from the index register to an
offset `x` lies in memory, storing `V0` to `Vx` succeeds, and loading them succeeds; both move the
index register past the block, a store changes no register and no byte outside of the block, and a
load changes no byte and no further register. Take any later machine that has the index register
back and finds the block as the step has left it. After a store, its load brings back the registers
as they were at the store. After a load, its store changes no byte as long as `V0` to `Vx` are what
was loaded. And after the decimal digits of a register are written, a load of `V0` to `V2` yields
three digits that make up the number. -/
theorem step_transfer (machine : Machine) (x : Register) :
    let index := machine.core.i.toNat
    (machine.Fetches (Word.ofByte 0xF x 0x55) → index + x.val + 1 ≤ memorySize →
      machine.Stores x ∧ ∀ later : Machine, later.ReturnsTo machine x.val →
        later.Fetches (Word.ofByte 0xF x 0x65) →
        later.Loads x ∧ ∀ register ≤ x,
          later.step.machine.core.get register = machine.core.get register) ∧
    (machine.Fetches (Word.ofByte 0xF x 0x65) → index + x.val + 1 ≤ memorySize →
      machine.Loads x ∧ ∀ later : Machine, later.ReturnsTo machine x.val →
        (∀ register ≤ x, later.core.get register = machine.step.machine.core.get register) →
        later.Fetches (Word.ofByte 0xF x 0x55) →
        later.Stores x ∧ later.step.machine.core.memory = later.core.memory) ∧
    (machine.Fetches (Word.ofByte 0xF x 0x33) → index + 3 ≤ memorySize →
      machine.step.result = .ok .ok ∧ ∀ later : Machine, later.ReturnsTo machine 2 →
        later.Fetches (Word.ofByte 0xF (2 : Register) 0x65) →
        let digit register := (later.step.machine.core.get register).toNat
        later.Loads 2 ∧ digit 0 ≤ 9 ∧ digit 1 ≤ 9 ∧ digit 2 ≤ 9 ∧
          100 * digit 0 + 10 * digit 1 + digit 2 = (machine.core.get x).toNat) := by
  intro index
  refine ⟨?_, ?_, ?_⟩
  · intro fetches fits
    have isAt : machine.IsAt (.store x) := fetches.isAt_of_encode nofun
    have stores := isAt.stores fits
    refine ⟨stores, fun later returns laterFetches => ?_⟩
    have laterIsAt : later.IsAt (.load x) := laterFetches.isAt_of_encode nofun
    have loads := laterIsAt.loads (by rw [returns.index]; exact fits)
    exact ⟨loads, stores.get_load returns loads⟩
  · intro fetches fits
    have isAt : machine.IsAt (.load x) := fetches.isAt_of_encode nofun
    have loads := isAt.loads fits
    refine ⟨loads, fun later returns registers laterFetches => ?_⟩
    have laterIsAt : later.IsAt (.store x) := laterFetches.isAt_of_encode nofun
    have stores := laterIsAt.stores (by rw [returns.index]; exact fits)
    exact ⟨stores, loads.memory_store returns registers stores⟩
  · intro fetches fits
    have isAt : machine.IsAt (.decimal x) := fetches.isAt_of_encode nofun
    obtain ⟨result, written⟩ := isAt.step_decimal fits
    refine ⟨result, fun later returns laterFetches => ?_⟩
    have encoded : later.Fetches (Instruction.load 2).encode := laterFetches
    have laterIsAt : later.IsAt (.load 2) := encoded.isAt_of_encode nofun
    have block : later.core.i.toNat + (2 : Register).val + 1 ≤ memorySize := by
      rw [returns.index]
      omega
    have loads := laterIsAt.loads block
    have read (register : Register) (digit : UInt8) (first : register ≤ 2)
        (found : (Core.decimalDigits (machine.core.get x))[register.val]? = some digit) :
        later.step.machine.core.get register = digit := by
      rw [loads.loaded register first, returns.index, returns.block register.val first,
        written _ _ found]
    obtain ⟨hundreds, tens, ones, digits, small⟩ := Core.decimalDigits_eq (machine.core.get x)
    rw [digits] at read
    refine ⟨loads, ?_⟩
    simp only [read 0 hundreds (by decide) rfl, read 1 tens (by decide) rfl,
      read 2 ones (by decide) rfl]
    exact small

/-- Registers that are stored up to the end of memory, lost, and loaded from there again. -/
theorem step_transfer_at_end :
    let core : Core := { Core.initial with
      v := Vector.replicate 16 7
      i := 0xFFD
      memory := Memory.zero.store programStart [0xF1, 0x55, 0xF1, 0x65] }
    let machine : Machine := ⟨core, .start (Vector.replicate 8 0), {}⟩
    let later := machine.withCore
      { Core.initial with pc := 0x202, i := 0xFFD, memory := machine.step.machine.core.memory }
    machine.Fetches (Word.ofByte 0xF (1 : Register) 0x55) ∧
      machine.core.i.toNat + (1 : Register).val + 1 ≤ memorySize ∧
      later.Fetches (Word.ofByte 0xF (1 : Register) 0x65) ∧
      later.step.machine.core.get 1 = 7 ∧ later.step.machine.core.get 2 = 0 ∧
      later.step.machine.core.i.toNat = 0xFFF := by
  intro core machine later
  have first : machine.Fetches (Word.ofByte 0xF (1 : Register) 0x55) :=
    ⟨rfl, by decide, by decide +kernel⟩
  have fits : machine.core.i.toNat + (1 : Register).val + 1 ≤ memorySize := by decide
  obtain ⟨-, brought⟩ := (step_transfer machine 1).1 first fits
  have second : later.Fetches (Word.ofByte 0xF (1 : Register) 0x65) :=
    ⟨rfl, by decide, by decide +kernel⟩
  obtain ⟨loads, back⟩ := brought later ⟨rfl, fun _ _ => rfl⟩ second
  refine ⟨first, fits, second, back 1 (by decide), ?_, loads.index⟩
  exact loads.kept 2 (by decide)

end Machine

end Chip8
