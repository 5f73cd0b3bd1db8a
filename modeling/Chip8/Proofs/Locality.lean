import Chip8.Proofs.Flow
import Chip8.Proofs.Footprint

/-!
# Which memory a step addresses

A step looks at the two bytes at the program counter and at most at the sixteen bytes at the index
register. Two machines that differ only in other bytes of memory step alike, and keep these bytes
(`Machine.step_local`).
-/

namespace Chip8

/-- The bytes at the program counter, and the sixteen bytes at the index register. -/
def Core.Addresses (core : Core) (address : Nat) : Prop :=
  address = core.pc.toNat ∨ address = core.pc.toNat + 1 ∨
    (core.i.toNat ≤ address ∧ address ≤ core.i.toNat + 15)

namespace Memory

theorem blockAt_congr {first second : Memory} {start length : Nat}
    (same : ∀ offset < length, first.byteAt (start + offset) = second.byteAt (start + offset)) :
    first.blockAt start length = second.blockAt start length := by
  apply List.map_congr_left
  intro offset member
  exact same offset (List.mem_range.mp member)

theorem byteAt_store_congr {first second : Memory} {address : Nat}
    (same : first.byteAt address = second.byteAt address) (start : Nat) (block : List UInt8) :
    (first.store start block).byteAt address = (second.store start block).byteAt address := by
  rw [byteAt_store, byteAt_store, same]

end Memory

namespace Machine

def withMemory (machine : Machine) (memory : Memory) : Machine :=
  machine.withCore { machine.core with memory }

theorem withMemory_frame (machine : Machine) (memory : Memory) {part : Part}
    (other : part ∉ [Part.memory]) : part.Agree (machine.withMemory memory) machine := by
  cases part with
  | memory => simp at other
  | _ => rfl

/-- An instruction that does not read memory does the same whatever is in it. -/
theorem exec_withMemory_of_unread (machine : Machine) (memory : Memory) {instruction : Instruction}
    (unread : .memory ∉ instruction.reads) :
    (machine.withMemory memory).exec instruction =
      ((machine.exec instruction).1, (machine.exec instruction).2.withMemory memory) := by
  have reads : AgreeOn instruction.reads (machine.withMemory memory) machine := by
    intro part read
    apply withMemory_frame
    rw [List.mem_singleton]
    rintro rfl
    exact unread read
  have unwritten : .memory ∉ instruction.writes := by
    cases instruction with
    | decimal | store => simp [Instruction.reads] at unread
    | _ => simp [Instruction.writes]
  refine Prod.ext (exec_fst_congr reads) (eq_of_agree fun part => ?_)
  by_cases isMemory : part ∈ [Part.memory]
  · obtain rfl := List.mem_singleton.mp isMemory
    exact exec_frame (machine.withMemory memory) instruction .memory unwritten
  · have same := agree_off_of_writes (fun _ => withMemory_frame machine memory)
      (exec_congr reads) (exec_frame _ instruction) (exec_frame _ instruction) part isMemory
    exact Part.agree_trans same (Part.agree_symm (withMemory_frame _ memory isMemory))

theorem exec_withMemory (machine : Machine) {memory : Memory} (instruction : Instruction)
    (window : ∀ address, machine.core.i.toNat ≤ address → address ≤ machine.core.i.toNat + 15 →
      memory.byteAt address = machine.core.memory.byteAt address) :
    ((machine.withMemory memory).exec instruction).1 = (machine.exec instruction).1 ∧
      ∃ after, ((machine.withMemory memory).exec instruction).2 =
          (machine.exec instruction).2.withMemory after ∧
        ∀ address, memory.byteAt address = machine.core.memory.byteAt address →
          after.byteAt address = (machine.exec instruction).2.core.memory.byteAt address := by
  have block : ∀ length ≤ 16, memory.blockAt machine.core.i.toNat length =
      machine.core.memory.blockAt machine.core.i.toNat length := by
    intro length short
    apply Memory.blockAt_congr
    intro offset below
    apply window <;> omega
  have result : ((machine.withMemory memory).exec instruction).1 =
      (machine.exec instruction).1 := by
    rw [exec_fst, exec_fst]
    cases instruction <;> rfl
  -- Without a write the other memory stays what it is.
  have keeps : .memory ∉ instruction.writes →
      ((machine.withMemory memory).exec instruction).2 =
        (machine.exec instruction).2.withMemory memory →
      ∃ after, ((machine.withMemory memory).exec instruction).2 =
          (machine.exec instruction).2.withMemory after ∧
        ∀ address, memory.byteAt address = machine.core.memory.byteAt address →
          after.byteAt address = (machine.exec instruction).2.core.memory.byteAt address := by
    intro unwritten same
    have kept : (machine.exec instruction).2.core.memory = machine.core.memory :=
      exec_frame machine instruction .memory unwritten
    exact ⟨memory, same, fun address alike => kept ▸ alike⟩
  refine ⟨result, ?_⟩
  cases instruction with
  | draw x y height =>
      refine keeps (by simp [Instruction.writes]) ?_
      simp only [exec, attempts_snd, Core.outcome_drawSprite, withMemory, withCore]
      split
      · simp only [Core.drawn, block height.val (by omega)]
        rfl
      · rfl
  | load x =>
      refine keeps (by simp [Instruction.writes]) ?_
      simp only [exec, attempts_snd, Core.outcome_loadRegisters, withMemory, withCore]
      split
      · simp only [block (x.val + 1) (by omega)]
        rfl
      · rfl
  | decimal x =>
      simp only [exec, attempts_snd, Core.outcome_storeDecimal, withMemory, withCore]
      split
      · exact ⟨_, rfl, fun address same => Memory.byteAt_store_congr same _ _⟩
      · exact ⟨memory, rfl, fun address same => same⟩
  | store x =>
      simp only [exec, attempts_snd, Core.outcome_storeRegisters, withMemory, withCore]
      split
      · exact ⟨_, rfl, fun address same => Memory.byteAt_store_congr same _ _⟩
      · exact ⟨memory, rfl, fun address same => same⟩
  | _ =>
      refine keeps (by simp [Instruction.writes]) ?_
      rw [exec_withMemory_of_unread machine memory (by simp [Instruction.reads])]

/-- Where two memories agree before a step, they agree after it. -/
theorem step_withMemory {machine : Machine} {memory : Memory}
    (window : ∀ address, machine.core.Addresses address →
      memory.byteAt address = machine.core.memory.byteAt address) :
    (machine.withMemory memory).step.result = machine.step.result ∧
      ∃ after, (machine.withMemory memory).step.machine = machine.step.machine.withMemory after ∧
        ∀ address, memory.byteAt address = machine.core.memory.byteAt address →
          after.byteAt address = machine.step.machine.core.memory.byteAt address := by
  cases wait : machine.core.keyWait with
  | some x =>
      have otherWait : (machine.withMemory memory).core.keyWait = some x := wait
      have keys : (machine.withMemory memory).core.keys = machine.core.keys := rfl
      rw [step_of_awaiting wait, step_of_awaiting otherWait, resume, resume, keys]
      cases machine.core.keys.first? <;> exact ⟨rfl, memory, rfl, fun address same => same⟩
  | none =>
      have otherRunning : (machine.withMemory memory).core.keyWait = none := wait
      by_cases inside : machine.core.CanFetch
      · have otherInside : (machine.withMemory memory).core.CanFetch := inside
        have instruction : (machine.withMemory memory).core.instruction =
            machine.core.instruction := by
          have high := window _ (.inl rfl)
          have low := window _ (.inr (.inl rfl))
          simp only [Core.instruction, Core.word, withMemory, withCore, high, low]
        rw [step_result wait inside, step_machine wait inside, step_result otherRunning otherInside,
          step_machine otherRunning otherInside, instruction]
        refine exec_withMemory machine.advanced machine.core.instruction ?_
        intro address first last
        exact window address (.inr (.inr ⟨first, last⟩))
      · have otherOutside : ¬ (machine.withMemory memory).core.CanFetch := inside
        rw [step_of_not_canFetch wait inside, step_of_not_canFetch otherRunning otherOutside]
        exact ⟨rfl, memory, rfl, fun address same => same⟩

theorem eq_withMemory {first second : Machine}
    (others : ∀ part : Part, part ≠ .memory → part.Agree first second) :
    second = first.withMemory second.core.memory := by
  refine eq_of_agree fun part => ?_
  by_cases isMemory : part = .memory
  · subst isMemory
    rfl
  · have framed := withMemory_frame first second.core.memory (mt List.mem_singleton.mp isMemory)
    exact Part.agree_symm (Part.agree_trans framed (others part isMemory))

/-- The bytes that a step changes are those to which it stores decimal digits or registers. -/
theorem step_memory_cases {machine : Machine} {address : Nat}
    (changed : machine.step.machine.core.memory.byteAt address ≠
      machine.core.memory.byteAt address) :
    machine.core.i.toNat ≤ address ∧ ∃ x,
      (machine.IsAt (.decimal x) ∧ address ≤ machine.core.i.toNat + 2) ∨
      (machine.IsAt (.store x) ∧ address ≤ machine.core.i.toNat + x.val) := by
  rcases machine.step_machine_cases with
    same | ⟨x, key, _, resumed⟩ | ⟨running, inside, executed⟩
  · rw [same] at changed
    exact absurd rfl changed
  · rw [resumed] at changed
    exact absurd rfl changed
  · rw [executed] at changed
    have written : (machine.advanced.exec machine.core.instruction).2.core.memory.byteAt address ≠
        machine.advanced.core.memory.byteAt address := changed
    obtain ⟨first, x, covered⟩ := exec_memory_cases written
    refine ⟨first, x, covered.imp ?_ ?_⟩
    · rintro ⟨decoded, last⟩
      exact ⟨⟨running, inside, decoded⟩, last⟩
    · rintro ⟨decoded, last⟩
      exact ⟨⟨running, inside, decoded⟩, last⟩

/-- **A step depends only on the memory that it addresses.** Two machines that agree on everything
but memory, and on the bytes at the program counter and the sixteen bytes at the index register,
report the same result, and again agree on everything but memory and on these bytes. The other bytes
of both machines stay as they are. In fact a step changes bytes only if it stores decimal digits,
from `I` to `I + 2`, or registers up to `Vx`, from `I` to `I + x`. -/
theorem step_local {first second : Machine}
    (others : ∀ part : Part, part ≠ .memory → part.Agree first second)
    (window : ∀ address, first.core.Addresses address →
      first.core.memory.byteAt address = second.core.memory.byteAt address) :
    let after := first.step.machine
    let other := second.step.machine
    first.step.result = second.step.result ∧
    (∀ part : Part, part ≠ .memory → part.Agree after other) ∧
    (∀ address, first.core.memory.byteAt address = second.core.memory.byteAt address →
      after.core.memory.byteAt address = other.core.memory.byteAt address) ∧
    (∀ address, ¬ first.core.Addresses address →
      after.core.memory.byteAt address = first.core.memory.byteAt address ∧
      other.core.memory.byteAt address = second.core.memory.byteAt address) ∧
    (∀ address, after.core.memory.byteAt address ≠ first.core.memory.byteAt address →
      first.core.i.toNat ≤ address ∧ ∃ x,
        (first.IsAt (.decimal x) ∧ address ≤ first.core.i.toNat + 2) ∨
        (first.IsAt (.store x) ∧ address ≤ first.core.i.toNat + x.val)) := by
  intro after other
  have same := eq_withMemory others
  obtain ⟨result, memory, machine, alike⟩ :=
    step_withMemory fun address addressed => (window address addressed).symm
  rw [← same] at result machine
  refine ⟨result.symm, ?_, ?_, ?_, fun address => step_memory_cases⟩
  · intro part notMemory
    simp only [after, other, machine]
    exact Part.agree_symm (withMemory_frame _ _ (mt List.mem_singleton.mp notMemory))
  · intro address agree
    simp only [after, other, machine]
    exact (alike address agree.symm).symm
  · intro address outside
    have index : second.core.i = first.core.i := (others .index (by decide)).symm
    constructor
    · refine Decidable.byContradiction fun changed => outside (.inr (.inr ?_))
      exact step_memory changed
    · refine Decidable.byContradiction fun changed => outside (.inr (.inr ?_))
      exact index ▸ step_memory changed

/-- Registers that are stored over the storing instruction, in two machines that differ further on
in memory. -/
theorem step_local_over_code :
    let core : Core :=
      { Core.initial with i := 0x1FF, memory := Memory.zero.store 0x200 [0xF2, 0x55] }
    let first : Machine := ⟨core, .start (Vector.replicate 8 0), {}⟩
    let second := first.withMemory (core.memory.store 0x300 [7])
    (∀ part : Part, part ≠ .memory → part.Agree first second) ∧
    (∀ address, first.core.Addresses address →
      first.core.memory.byteAt address = second.core.memory.byteAt address) ∧
    first.step.result = second.step.result ∧
    first.step.machine.core.memory.byteAt 0x300 = 0 ∧
    second.step.machine.core.memory.byteAt 0x300 = 7 := by
  intro core first second
  have others : ∀ part : Part, part ≠ .memory → part.Agree first second := by
    intro part notMemory
    exact Part.agree_symm (withMemory_frame _ _ (mt List.mem_singleton.mp notMemory))
  have below : ∀ address, core.Addresses address → address < 0x300 := by
    have counter : core.pc.toNat = 0x200 := rfl
    have index : core.i.toNat = 0x1FF := rfl
    unfold Core.Addresses
    omega
  have window : ∀ address, first.core.Addresses address →
      first.core.memory.byteAt address = second.core.memory.byteAt address := by
    intro address addressed
    exact (Memory.byteAt_store_of_outside core.memory (.inl (below address addressed))).symm
  obtain ⟨result, _, _, outside, _⟩ := step_local others window
  have far : ¬ first.core.Addresses 0x300 := fun near => Nat.lt_irrefl _ (below 0x300 near)
  refine ⟨others, window, result, ?_, ?_⟩
  · rw [(outside 0x300 far).1]
    decide +kernel
  · rw [(outside 0x300 far).2]
    decide +kernel

end Machine

end Chip8
