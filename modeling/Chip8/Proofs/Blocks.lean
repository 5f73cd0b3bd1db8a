import Chip8.Proofs.Console

/-!
# Blocks and their bytes

A block access is as good as the accesses to its bytes one by one. It succeeds exactly if all of
them do, with the same effect and the same values. If it fails it changes nothing and names an
address outside of memory (`Console.blocks_agree_with_bytes`). The check adds address and length in
64-bit words and stops at the largest of them; this never makes a difference.
-/

namespace Chip8

namespace Memory

/-- Where the check of a block passes, the sum that it compares is not cut off. -/
theorem blockEnd_eq_of_le {address length : Nat} (fits : blockEnd address length ≤ memorySize) :
    blockEnd address length = address + length := by
  have limit : memorySize < Numeral.wordLimit := by decide
  unfold blockEnd at fits ⊢
  omega

/-- A block that can be read consists of the bytes that are read one by one. -/
theorem read_of_readBlock {memory : Memory} {address length : Nat} {bytes : List UInt8}
    (taken : memory.readBlock address length = .ok bytes) :
    bytes.length = length ∧ ∀ offset (below : offset < bytes.length),
      memory.read (address + offset) = .ok bytes[offset] := by
  rw [readBlock_eq] at taken
  split at taken
  next fits =>
    cases taken
    have size : (memory.blockAt address length).length = length := by
      rw [blockAt, List.length_map, List.length_range]
    refine ⟨size, fun offset below => ?_⟩
    rw [size] at below
    have inside : address + offset < memorySize := by omega
    simp only [read_eq, inside, ↓reduceIte, blockAt, List.getElem_map, List.getElem_range]
  next => cases taken

theorem write_eq (memory : Memory) (address : Nat) (byte : UInt8) :
    memory.write address byte =
      if address < memorySize then .ok (memory.store address [byte])
      else .error (.memoryOutOfBounds address) := by
  unfold write
  split
  next inside =>
    have same : memory.bytes.set address byte = memory.bytes.setIfInBounds address byte := by
      apply Vector.ext
      intro index below
      rw [Vector.getElem_set, Vector.getElem_setIfInBounds]
    rw [same]
    rfl
  next => rfl

end Memory

namespace Console

variable {σ : Type} (beeper : Beeper σ)

/-- The requests that write the bytes of a block one by one. -/
def byteWrites (address : Nat) (block : List UInt8) : List Request :=
  block.mapIdx fun offset byte => .write (address + offset) byte

def withMemory (console : Console σ) (memory : Memory) : Console σ :=
  console.withMachine (console.machine.withCore { console.machine.core with memory })

theorem serve_write (console : Console σ) {address : Nat} (inside : address < memorySize)
    (byte : UInt8) :
    console.serve beeper (.write address byte) =
      (.done (.ok ()), console.withMemory (console.machine.core.memory.store address [byte])) := by
  simp only [serve, Memory.write_eq, inside, ↓reduceIte]
  rfl

theorem serve_writeBlock (console : Console σ) (address : Nat) (block : List UInt8) :
    console.serve beeper (.writeBlock address block) =
      if address + block.length ≤ memorySize then
        (.done (.ok ()), console.withMemory (console.machine.core.memory.store address block))
      else (.done (.error (Memory.blockFault address block.length)), console) := by
  simp only [serve, Machine.writeBlock_eq_map, Memory.writeBlock_eq]
  split <;> rfl

theorem byteWrites_cons (address : Nat) (byte : UInt8) (block : List UInt8) :
    byteWrites address (byte :: block) = .write address byte :: byteWrites (address + 1) block := by
  simp only [byteWrites, List.mapIdx_cons, Nat.add_zero, Nat.add_assoc, Nat.add_comm 1]

/-- Writing the bytes one by one succeeds for each of them, and stores the block. -/
theorem serve_byteWrites (console : Console σ) {address : Nat} {block : List UInt8}
    (fits : address + block.length ≤ memorySize) :
    console.answers beeper (byteWrites address block) =
        List.replicate block.length (.done (.ok ())) ∧
      console.run beeper (byteWrites address block) =
        console.withMemory (console.machine.core.memory.store address block) := by
  induction block generalizing console address with
  | nil => exact ⟨rfl, rfl⟩
  | cons byte block ih =>
      rw [List.length_cons] at fits
      have inside : address < memorySize := by omega
      have rest : address + 1 + block.length ≤ memorySize := by omega
      rw [byteWrites_cons, run_cons, answers, console.serve_write beeper inside byte]
      obtain ⟨answered, stored⟩ :=
        ih (console.withMemory (console.machine.core.memory.store address [byte])) rest
      refine ⟨?_, stored⟩
      rw [List.length_cons, List.replicate_succ, answered]

/-- **Blocks agree with their bytes.** For every address and length, writing a block and reading
one succeed exactly if it ends in memory, by the exact sum, to which the sum that is checked is then
equal. A block that is written leaves what the writes of its bytes leave, all of which succeed, and
is read back. A block that is read consists of what the reads of its bytes yield. A failed write
changes nothing, and a failed access reports an address outside of memory and not before the block,
and one of the block if that is not empty. -/
theorem blocks_agree_with_bytes (console : Console σ) (address length : Nat)
    (block : List UInt8) :
    let memory := console.machine.core.memory
    let read := memory.readBlock address length
    let written := console.serve beeper (.writeBlock address block)
    (written.1 = .done (.ok ()) ↔ address + block.length ≤ memorySize) ∧
    ((∃ bytes, read = .ok bytes) ↔ address + length ≤ memorySize) ∧
    (∀ size, Memory.blockEnd address size ≤ memorySize →
      Memory.blockEnd address size = address + size) ∧
    (address + block.length ≤ memorySize →
      console.answers beeper (byteWrites address block) =
          List.replicate block.length (.done (.ok ())) ∧
        written.2 = console.run beeper (byteWrites address block) ∧
        written.2.machine.core.memory.readBlock address block.length = .ok block) ∧
    (∀ bytes, read = .ok bytes → bytes.length = length ∧
      ∀ offset (below : offset < bytes.length),
        memory.read (address + offset) = .ok bytes[offset]) ∧
    (memorySize < address + block.length → written.2 = console ∧ ∃ reported,
      written.1 = .done (.error (.memoryOutOfBounds reported)) ∧
        Memory.IsReported address block.length reported) ∧
    (memorySize < address + length → ∃ reported,
      read = .error (.memoryOutOfBounds reported) ∧
        Memory.IsReported address length reported) := by
  intro memory read written
  have readEq : read = _ := memory.readBlock_eq address length
  have writtenEq : written = _ := console.serve_writeBlock beeper address block
  refine ⟨?_, ?_, fun _ => Memory.blockEnd_eq_of_le, ?_, fun _ => Memory.read_of_readBlock, ?_, ?_⟩
  · rw [writtenEq]
    split
    next fits => exact iff_of_true rfl fits
    next past => exact iff_of_false nofun past
  · rw [readEq]
    split
    next fits => exact iff_of_true ⟨_, rfl⟩ fits
    next past => exact iff_of_false nofun past
  · intro fits
    obtain ⟨answered, stored⟩ := console.serve_byteWrites beeper fits
    rw [writtenEq, if_pos fits]
    refine ⟨answered, stored.symm, ?_⟩
    rw [Memory.readBlock_eq, if_pos fits]
    exact congrArg Except.ok (memory.blockAt_store fits)
  · intro outside
    obtain ⟨reported, fault, isReported⟩ := Memory.exists_isReported outside
    rw [writtenEq, if_neg (Nat.not_le_of_lt outside), fault]
    exact ⟨rfl, reported, rfl, isReported⟩
  · intro outside
    obtain ⟨reported, fault, isReported⟩ := Memory.exists_isReported outside
    rw [readEq, if_neg (Nat.not_le_of_lt outside), fault]
    exact ⟨reported, rfl, isReported⟩

end Console

end Chip8
