import Chip8.Memory

/-!
# Blocks of memory

A block access succeeds exactly if the whole block lies in memory. The address that a fault reports
is one outside of memory. A block that is stored gives its bytes to the addresses that it covers and
leaves the others alone.
-/

namespace Chip8.Memory

/-- The bytes of a block, as far as it lies in memory, and zeros behind. -/
def blockAt (memory : Memory) (address length : Nat) : List UInt8 :=
  (List.range length).map fun offset => memory.byteAt (address + offset)

theorem getElem?_blockAt (memory : Memory) (address length offset : Nat) :
    (memory.blockAt address length)[offset]? =
      if offset < length then some (memory.byteAt (address + offset)) else none := by
  rw [blockAt, List.getElem?_map]
  split
  next below => rw [List.getElem?_range below, Option.map_some]
  next past => rw [List.getElem?_eq_none (by rw [List.length_range]; omega), Option.map_none]

theorem read_eq (memory : Memory) (address : Nat) :
    memory.read address =
      if address < memorySize then .ok (memory.byteAt address)
      else .error (.memoryOutOfBounds address) := by
  unfold read byteAt
  split
  next inside => simp only [inside, getElem?_pos, Option.getD_some]
  next => rfl

/-- The saturated sum of the bound check decides the same as the exact one. -/
theorem blockEnd_le_iff (address length : Nat) :
    blockEnd address length ≤ memorySize ↔ address + length ≤ memorySize := by
  have limit : memorySize < Numeral.wordLimit := by decide
  unfold blockEnd
  omega

theorem readBlock_eq (memory : Memory) (address length : Nat) :
    memory.readBlock address length =
      if address + length ≤ memorySize then .ok (memory.blockAt address length)
      else .error (blockFault address length) := by
  simp only [readBlock, blockEnd_le_iff, blockAt]

theorem writeBlock_eq (memory : Memory) (address : Nat) (block : List UInt8) :
    memory.writeBlock address block =
      if address + block.length ≤ memorySize then .ok (memory.store address block)
      else .error (blockFault address block.length) := by
  simp only [writeBlock, blockEnd_le_iff]

/-- The address is one that a failed access to a block reports: it lies outside of memory and not
before the block, and in the block if that has any bytes. -/
def IsReported (address length reported : Nat) : Prop :=
  memorySize ≤ reported ∧ address ≤ reported ∧ (0 < length → reported < address + length)

theorem exists_isReported {address length : Nat} (outside : memorySize < address + length) :
    ∃ reported, blockFault address length = .memoryOutOfBounds reported ∧
      IsReported address length reported := by
  have limit : memorySize < Numeral.wordLimit := by decide
  refine ⟨_, rfl, ?_, Nat.le_max_right .., ?_⟩
  · unfold blockEnd
    omega
  · intro filled
    unfold blockEnd
    omega

theorem byteAt_zero (address : Nat) : zero.byteAt address = 0 := by
  rw [byteAt, zero, Vector.getElem?_replicate]
  split <;> rfl

/-- Storing a block changes the bytes of memory that it covers and no others. -/
theorem byteAt_store (memory : Memory) (start : Nat) (block : List UInt8) (address : Nat) :
    (memory.store start block).byteAt address =
      if start ≤ address ∧ address < memorySize then
        block[address - start]?.getD (memory.byteAt address)
      else memory.byteAt address := by
  induction block generalizing memory start with
  | nil => simp only [store, List.getElem?_nil, Option.getD_none, ite_self]
  | cons byte rest ih =>
      have first : byteAt ⟨memory.bytes.setIfInBounds start byte⟩ address =
          if start = address ∧ address < memorySize then byte else memory.byteAt address := by
        rw [byteAt, Vector.getElem?_setIfInBounds, byteAt]
        by_cases here : start = address
        · by_cases inside : address < memorySize <;> simp [here, inside]
        · simp [here]
      rw [store, ih, first]
      by_cases here : start = address
      · subst here
        have past : ¬ start + 1 ≤ start := Nat.not_succ_le_self start
        simp only [past, Nat.le_refl, Nat.sub_self, List.getElem?_cons_zero, Option.getD_some,
          true_and, false_and, ↓reduceIte]
      · by_cases after : start + 1 ≤ address
        · have offset : address - start = (address - (start + 1)) + 1 := by omega
          have later : start ≤ address := by omega
          simp only [here, after, later, offset, List.getElem?_cons_succ, true_and, false_and,
            ↓reduceIte]
        · have before : ¬ start ≤ address := by omega
          simp only [here, after, before, false_and, ↓reduceIte]

theorem byteAt_store_of_outside (memory : Memory) {start : Nat} {block : List UInt8} {address : Nat}
    (outside : address < start ∨ start + block.length ≤ address) :
    (memory.store start block).byteAt address = memory.byteAt address := by
  rw [byteAt_store]
  split
  next covered =>
    have past : block.length ≤ address - start := by omega
    rw [List.getElem?_eq_none past, Option.getD_none]
  next => rfl

theorem byteAt_store_of_inside (memory : Memory) {start : Nat} {block : List UInt8} {offset : Nat}
    {byte : UInt8} (fits : start + block.length ≤ memorySize) (found : block[offset]? = some byte) :
    (memory.store start block).byteAt (start + offset) = byte := by
  have below : offset < block.length := (List.getElem?_eq_some_iff.mp found).1
  rw [byteAt_store, if_pos ⟨Nat.le_add_right start offset, by omega⟩, Nat.add_sub_cancel_left,
    found, Option.getD_some]

/-- A stored block is read back. -/
theorem blockAt_store (memory : Memory) {start : Nat} {block : List UInt8}
    (fits : start + block.length ≤ memorySize) :
    (memory.store start block).blockAt start block.length = block := by
  apply List.ext_getElem?
  intro offset
  rw [getElem?_blockAt]
  split
  next below =>
    have found := List.getElem?_eq_getElem below
    rw [byteAt_store_of_inside memory fits found, found]
  next past => rw [List.getElem?_eq_none (Nat.le_of_not_lt past)]

end Chip8.Memory
