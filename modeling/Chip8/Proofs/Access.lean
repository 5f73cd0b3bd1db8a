import Chip8.Proofs.Step

/-!
# Memory faults

An instruction that accesses memory checks the end of its block at once. This is as good as a check
of each byte that it reads or writes, but for a sprite without rows: there is no byte to check, and
still the instruction fails if the index register is beyond the end of memory
(`Machine.step_memoryOutOfBounds`).
-/

namespace Chip8

namespace Instruction

/-- The instruction has to read or write the byte at an address, with the index register at
`index`. -/
def Accesses (index address : Nat) : Instruction → Prop
  | .draw _ _ height => index ≤ address ∧ address < index + height.val
  | .decimal _ => index ≤ address ∧ address ≤ index + 2
  | .store x | .load x => index ≤ address ∧ address ≤ index + x.val
  | _ => False

/-- The instruction draws a sprite without rows. -/
def IsEmptySprite : Instruction → Prop
  | .draw _ _ height => height.val = 0
  | _ => False

variable {instruction : Instruction} {index address : Nat}

theorem accesses_iff :
    instruction.Accesses index address ↔
      ∃ length, instruction.extent? = some length ∧ index ≤ address ∧ address < index + length := by
  cases instruction <;> simp [Accesses, extent?] <;> omega

theorem isEmptySprite_iff : instruction.IsEmptySprite ↔ instruction.extent? = some 0 := by
  cases instruction <;> simp [IsEmptySprite, extent?]

theorem extent?_le {length : Nat} (extent : instruction.extent? = some length) : length ≤ 16 := by
  cases instruction <;> simp [extent?] at extent <;> omega

/-- The last byte of a block is reported, or its first address if it has no bytes. -/
theorem fault?_eq_memoryOutOfBounds_iff {core : Core} :
    instruction.fault? core = some (.memoryOutOfBounds address) ↔
      ∃ length, instruction.extent? = some length ∧ memorySize < core.i.toNat + length ∧
        address = max (core.i.toNat + length - 1) core.i.toNat := by
  have reported : ∀ length, instruction.extent? = some length →
      Memory.blockFault core.i.toNat length =
        .memoryOutOfBounds (max (core.i.toNat + length - 1) core.i.toNat) := by
    intro length extent
    have short := extent?_le extent
    have word := core.i.toNat_lt
    have limit : 2 ^ 16 + 16 ≤ Numeral.wordLimit := by decide
    rw [Memory.blockFault, Memory.blockEnd, Nat.min_eq_left (by omega)]
  cases instruction with
  | ret | call => simp [fault?, extent?]
  | _ =>
      simp only [fault?, Option.bind_eq_some_iff, Option.ite_none_left_eq_some,
        Option.some.injEq, Nat.not_le]
      refine exists_congr fun length => and_congr_right fun extent => and_congr_right fun _ => ?_
      rw [reported length extent, Fault.memoryOutOfBounds.injEq, eq_comm]

end Instruction

namespace Machine

variable {machine : Machine} {word : UInt16} {next : Core}

theorem canFetch_of_fetch (fetched : machine.core.fetch = .ok (word, next)) :
    machine.core.CanFetch ∧ machine.core.instruction = Instruction.decode word := by
  rw [Core.fetch_eq] at fetched
  split at fetched
  next inside =>
    cases fetched
    exact ⟨inside, rfl⟩
  next => cases fetched

theorem fetch_of_word (inside : machine.core.CanFetch) (read : machine.core.word = word) :
    machine.core.fetch = .ok (word, machine.core.advanced) := by
  rw [Core.fetch_eq, if_pos inside, read]

/-- A step that fetches reports a memory fault exactly if the block of its instruction does not lie
in memory. -/
theorem step_memoryOutOfBounds_iff (running : machine.core.keyWait = none)
    (fetched : machine.core.fetch = .ok (word, next)) {address : Nat} :
    machine.step.result = .error (.memoryOutOfBounds address) ↔
      ∃ length, (Instruction.decode word).extent? = some length ∧
        memorySize < machine.core.i.toNat + length ∧
        address = max (machine.core.i.toNat + length - 1) machine.core.i.toNat := by
  obtain ⟨inside, decoded⟩ := canFetch_of_fetch fetched
  rw [step_result_eq_error_iff running inside, decoded]
  exact Instruction.fault?_eq_memoryOutOfBounds_iff

/-- **Memory faults are exact but for empty sprites.** A step that fetches an instruction reports a
memory fault exactly if a byte that the instruction has to read or write lies outside of memory, and
then names such a byte, unless the instruction draws a sprite without rows and the index register is
beyond the end of memory. In that case no byte is accessed, and still a fault is reported, at the
address in the index register. -/
theorem step_memoryOutOfBounds (running : machine.core.keyWait = none)
    (fetched : machine.core.fetch = .ok (word, next)) :
    let instruction := Instruction.decode word
    let index := machine.core.i.toNat
    let Reports address := machine.step.result = .error (.memoryOutOfBounds address)
    let Misses address := memorySize ≤ address ∧ instruction.Accesses index address
    let strays := instruction.IsEmptySprite ∧ memorySize < index
    ((((∃ address, Reports address) ↔ ∃ address, Misses address) ∧
      ∀ address, Reports address → Misses address) ↔ ¬ strays) ∧
    (strays → (∀ address, Reports address ↔ address = index) ∧
      ∀ address, ¬ instruction.Accesses index address) := by
  intro instruction index Reports Misses strays
  have reports (address : Nat) : Reports address ↔
      ∃ length, instruction.extent? = some length ∧ memorySize < index + length ∧
        address = max (index + length - 1) index := step_memoryOutOfBounds_iff running fetched
  have misses (address : Nat) : Misses address ↔ memorySize ≤ address ∧
      ∃ length, instruction.extent? = some length ∧ index ≤ address ∧ address < index + length :=
    and_congr_right fun _ => Instruction.accesses_iff
  have accesses (address : Nat) : instruction.Accesses index address ↔ _ :=
    Instruction.accesses_iff
  have empty : instruction.IsEmptySprite ↔ _ := Instruction.isEmptySprite_iff
  cases extent : instruction.extent? with
  | none => simp [reports, misses, strays, empty, extent]
  | some length =>
      simp only [extent, Option.some.injEq, exists_eq_left'] at reports misses accesses empty
      by_cases stray : strays
      · -- The check fails for the empty block, and names its first address for want of a last byte.
        obtain ⟨rfl, beyond⟩ : length = 0 ∧ memorySize < index := ⟨empty.mp stray.1, stray.2⟩
        have reported (address : Nat) : Reports address ↔ address = index := by
          rw [reports]
          omega
        have unread (address : Nat) : ¬ instruction.Accesses index address := by
          rw [accesses]
          omega
        refine ⟨iff_of_false ?_ (not_not_intro stray), fun _ => ⟨reported, unread⟩⟩
        rintro ⟨-, missed⟩
        exact unread index (missed index ((reported index).mpr rfl)).2
      · have nonempty : memorySize < index + length → 0 < length := by
          intro beyond
          refine Nat.pos_of_ne_zero fun zero => stray ⟨empty.mpr zero, ?_⟩
          omega
        refine ⟨iff_of_true ⟨⟨?_, ?_⟩, ?_⟩ stray, fun strays => absurd strays stray⟩
        · rintro ⟨address, reported⟩
          refine ⟨address, (misses address).mpr ?_⟩
          have beyond := (reports address).mp reported
          have positive := nonempty beyond.1
          omega
        · rintro ⟨address, missed⟩
          have outside := (misses address).mp missed
          exact ⟨_, (reports _).mpr ⟨by omega, rfl⟩⟩
        · intro address reported
          have beyond := (reports address).mp reported
          have positive := nonempty beyond.1
          rw [misses]
          omega

/-- A sprite of which the last row lies outside of memory. -/
theorem step_memoryOutOfBounds_at_last_row :
    let core : Core :=
      { Core.initial with i := 0xFFD, memory := Memory.zero.store programStart [0xD1, 0x23] }
    let machine : Machine := ⟨core, .start (Vector.replicate 8 0), {}⟩
    machine.core.keyWait = none ∧ machine.core.fetch = .ok (0xD123, { core with pc := 0x202 }) ∧
      ∃ address, machine.step.result = .error (.memoryOutOfBounds address) ∧
        memorySize ≤ address ∧ (Instruction.decode 0xD123).Accesses 0xFFD address := by
  intro core machine
  have fetched : machine.core.fetch = .ok (0xD123, { core with pc := 0x202 }) :=
    fetch_of_word (by decide) (by decide +kernel)
  obtain ⟨exact, -⟩ := step_memoryOutOfBounds rfl fetched
  have filled : ¬ ((Instruction.decode 0xD123).IsEmptySprite ∧ memorySize < core.i.toNat) :=
    fun strays => absurd strays.2 (by decide)
  obtain ⟨faults, named⟩ := exact.mpr filled
  have missed : memorySize ≤ 0xFFF ∧ (Instruction.decode 0xD123).Accesses core.i.toNat 0xFFF :=
    ⟨Nat.le_refl _, by decide, by decide⟩
  obtain ⟨address, reported⟩ := faults.mpr ⟨0xFFF, missed⟩
  exact ⟨rfl, fetched, address, reported, named address reported⟩

/-- A sprite without rows reads nothing, and fails with the index register beyond memory. -/
theorem step_empty_sprite_fails :
    let core : Core :=
      { Core.initial with i := 0x1000, memory := Memory.zero.store programStart [0xD1, 0x20] }
    let machine : Machine := ⟨core, .start (Vector.replicate 8 0), {}⟩
    machine.core.keyWait = none ∧ machine.core.fetch = .ok (0xD120, { core with pc := 0x202 }) ∧
      machine.step.result = .error (.memoryOutOfBounds 0x1000) ∧
      ∀ address, ¬ (Instruction.decode 0xD120).Accesses 0x1000 address := by
  intro core machine
  have fetched : machine.core.fetch = .ok (0xD120, { core with pc := 0x202 }) :=
    fetch_of_word (by decide) (by decide +kernel)
  have failed : machine.step.result = .error (.memoryOutOfBounds 0x1000) := by
    rw [step_memoryOutOfBounds_iff rfl fetched]
    exact ⟨0, rfl, by decide, rfl⟩
  refine ⟨rfl, fetched, failed, ?_⟩
  rintro address ⟨above, below⟩
  exact absurd below (Nat.not_lt_of_le above)

end Machine

end Chip8
