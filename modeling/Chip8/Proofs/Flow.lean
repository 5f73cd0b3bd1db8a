import Chip8.Proofs.Control
import Chip8.Proofs.Waiting

/-!
# What a flow tells

The flow of a successful step tells a host which parts of the machine can have changed, and where
execution goes on (`Machine.step_flow`).
-/

namespace Chip8

/-! ## Skips -/

namespace Core

/-- The key that a register value names is held; a value of sixteen or more names none. -/
def Holds (core : Core) (index : UInt8) : Prop :=
  ∃ key : Key, key.val = index.toNat ∧ core.keys.bits.getLsbD key.val = true

theorem isPressed_iff_holds {core : Core} {index : UInt8} :
    core.isPressed index = true ↔ core.Holds index := by
  simp only [isPressed, Keypad.isPressed_iff, Holds, Keypad.isPressed_eq]

/-- The word is one of `3xkk`, `4xkk`, `5xyk`, `9xyk`, `Ex9E` and `ExA1`, and its condition
holds. -/
def SkipHolds (core : Core) (word : UInt16) : Prop :=
  let x := core.get (Word.x word)
  let y := core.get (Word.y word)
  let byte := Word.byte word
  match (Word.group word).val with
  | 0x3 => x = byte
  | 0x4 => x ≠ byte
  | 0x5 => x = y
  | 0x9 => x ≠ y
  | 0xE => (byte = 0x9E ∧ core.Holds x) ∨ (byte = 0xA1 ∧ ¬ core.Holds x)
  | _ => False

end Core

namespace Instruction

theorem skips_decodeArithmetic (core : Core) (word : UInt16) :
    (decodeArithmetic word).skips core = false := by
  unfold decodeArithmetic
  dsimp only
  split <;> rfl

theorem skips_decodeTimerMemory (core : Core) (word : UInt16) :
    (decodeTimerMemory word).skips core = false := by
  unfold decodeTimerMemory
  dsimp only
  split <;> rfl

theorem skips_decodeKeypad {core : Core} {word : UInt16} :
    (decodeKeypad word).skips core = true ↔
      (Word.byte word = 0x9E ∧ core.Holds (core.get (Word.x word))) ∨
      (Word.byte word = 0xA1 ∧ ¬ core.Holds (core.get (Word.x word))) := by
  unfold decodeKeypad
  split
  next byte =>
    have byte : Word.byte word = 0x9E := UInt8.toNat_inj.mp byte
    simp [skips, byte, Core.isPressed_iff_holds]
  next byte =>
    have byte : Word.byte word = 0xA1 := UInt8.toNat_inj.mp byte
    simp [skips, byte, ← Core.isPressed_iff_holds]
  next first second =>
    have first : Word.byte word ≠ 0x9E := fun byte => first (congrArg UInt8.toNat byte)
    have second : Word.byte word ≠ 0xA1 := fun byte => second (congrArg UInt8.toNat byte)
    simp [skips, first, second]

/-- Exactly the words of skips whose condition holds decode to instructions that skip. -/
theorem skips_decode {core : Core} {word : UInt16} :
    (decode word).skips core = true ↔ core.SkipHolds word := by
  unfold decode Core.SkipHolds
  dsimp only
  split
  case h_1 group =>
    simp only [group, iff_false]
    split
    · simp [skips]
    · split <;> simp [skips]
  case h_9 group => simp [group, skips_decodeArithmetic]
  case h_15 group =>
    simp only [group]
    exact skips_decodeKeypad
  case h_16 =>
    rw [skips_decodeTimerMemory]
    split <;> simp_all
  -- The remaining groups have one instruction each.
  all_goals
    rename_i group
    simp [group, skips]

/-- A skip looks at registers and keys alone. -/
theorem skips_advanced (core : Core) (instruction : Instruction) :
    instruction.skips core.advanced = instruction.skips core := by
  cases instruction <;> rfl

theorem flow_of_skips {core : Core} {instruction : Instruction}
    (skips : instruction.skips core = true) : instruction.flow core = .ok := by
  cases instruction with
  | skipIfByte | skipUnlessByte | skipIfEqual | skipUnlessEqual | skipIfPressed
  | skipUnlessPressed => rfl
  | _ => cases skips

theorem target_of_flow_ne_jump {core : Core} {instruction : Instruction}
    (other : instruction.flow core ≠ .jump) :
    instruction.target core = core.pc.toNat + if instruction.skips core then 2 else 0 := by
  cases instruction with
  | ret | jump | call | jumpOffset => exact absurd rfl other
  | _ => rfl

end Instruction

/-! ## Parts that a flow reports -/

/-- The flow that reports a change of a part, for the parts that have one. -/
def Part.flow? : Part → Option Flow
  | .display => some .draw
  | .sound => some .sound
  | .stack => some .jump
  | .memory => some .ok
  | _ => none

theorem Instruction.flow_of_mem_writes {core : Core} {instruction : Instruction} {part : Part}
    {flow : Flow} (written : part ∈ instruction.writes) (reports : part.flow? = some flow) :
    instruction.flow core = flow := by
  cases part with
  | display =>
      cases reports
      cases instruction with
      | clearScreen | draw => rfl
      | _ => simp [Instruction.writes] at written
  | sound =>
      cases reports
      cases instruction with
      | setSound => rfl
      | _ => simp [Instruction.writes] at written
  | stack =>
      cases reports
      cases instruction with
      | ret | call => rfl
      | _ => simp [Instruction.writes] at written
  | memory =>
      cases reports
      cases instruction with
      | decimal | store => rfl
      | _ => simp [Instruction.writes] at written
  | _ => cases reports

namespace Machine

variable {machine : Machine} {flow : Flow}

theorem step_reports (part : Part) {reported : Flow} (done : machine.step.result = .ok flow)
    (reports : part.flow? = some reported)
    (changed : ¬ part.Agree machine.step.machine machine) : flow = reported := by
  obtain same | ⟨x, key, _, resumed⟩ | ⟨running, inside, executed⟩ := machine.step_machine_cases
  · rw [same] at changed
    exact absurd (part.agree_refl machine) changed
  · have kept : part.Agree machine.step.machine machine := by
      rw [resumed]
      cases part <;> first | rfl | cases reports
    exact absurd kept changed
  · have written : part ∈ machine.core.instruction.writes := by
      refine Decidable.byContradiction fun untouched => changed ?_
      have advanced : part.Agree machine.advanced machine := by
        cases part <;> first | rfl | cases reports
      rw [executed]
      exact Part.agree_trans (exec_frame _ _ part untouched) advanced
    rw [step_flow_eq running done]
    exact Instruction.flow_of_mem_writes written reports

/-- Without a jump, execution goes on behind the instruction, or behind the next one if that is
skipped. -/
theorem step_pc_of_ne_jump (running : machine.core.keyWait = none)
    (done : machine.step.result = .ok flow) (other : flow ≠ .jump) :
    machine.step.machine.core.pc.toNat =
      machine.core.pc.toNat + 2 +
        if machine.core.instruction.skips machine.core then 2 else 0 := by
  have inside := canFetch_of_ok running done
  rw [step_flow_eq running done] at other
  rw [step_pc running inside, done, ← Instruction.skips_advanced, ← advanced_pc inside]
  exact Instruction.target_of_flow_ne_jump other

theorem step_pc_of_awaiting {x : Register} (awaiting : machine.core.keyWait = some x) :
    machine.step.machine.core.pc = machine.core.pc := by
  rw [step_of_awaiting awaiting, resume]
  cases machine.core.keys.first? <;> rfl

/-- Execution goes on behind the next instruction exactly at the skips whose condition holds. -/
theorem step_skips_iff (done : machine.step.result = .ok flow) :
    (flow ≠ .jump ∧ machine.step.machine.core.pc.toNat = machine.core.pc.toNat + 4) ↔
      machine.core.keyWait = none ∧ machine.core.SkipHolds machine.core.word := by
  rw [← Instruction.skips_decode]
  constructor
  · rintro ⟨other, past⟩
    cases wait : machine.core.keyWait with
    | some x =>
        rw [step_pc_of_awaiting wait] at past
        omega
    | none =>
        refine ⟨rfl, Decidable.byContradiction fun goes => ?_⟩
        have behind := step_pc_of_ne_jump wait done other
        rw [Core.instruction, if_neg goes] at behind
        omega
  · rintro ⟨running, skips⟩
    have skipsAdvanced : machine.core.instruction.skips machine.core.advanced = true :=
      (Instruction.skips_advanced ..).trans skips
    have flowOk : flow = .ok :=
      (step_flow_eq running done).trans (Instruction.flow_of_skips skipsAdvanced)
    have other : flow ≠ .jump := by
      rw [flowOk]
      exact Flow.noConfusion
    refine ⟨other, ?_⟩
    rw [step_pc_of_ne_jump running done other, Core.instruction, if_pos skips]

/-- Instructions write at most sixteen bytes of memory, from the index register on. -/
theorem exec_memory {instruction : Instruction} {address : Nat}
    (changed : (machine.exec instruction).2.core.memory.byteAt address ≠
      machine.core.memory.byteAt address) :
    machine.core.i.toNat ≤ address ∧ address ≤ machine.core.i.toNat + 15 := by
  obtain ⟨first, x, ⟨_, last⟩ | ⟨_, last⟩⟩ := exec_memory_cases changed
  · omega
  · omega

theorem step_memory {address : Nat}
    (changed : machine.step.machine.core.memory.byteAt address ≠
      machine.core.memory.byteAt address) :
    machine.core.i.toNat ≤ address ∧ address ≤ machine.core.i.toNat + 15 := by
  obtain same | ⟨x, key, _, resumed⟩ | ⟨running, inside, executed⟩ := machine.step_machine_cases
  · rw [same] at changed
    exact absurd rfl changed
  · rw [resumed] at changed
    exact absurd rfl changed
  · rw [executed] at changed
    -- The fetch before has moved the program counter only.
    have window : machine.advanced.core.i.toNat ≤ address ∧
        address ≤ machine.advanced.core.i.toNat + 15 := exec_memory changed
    exact window

/-- **Flows are honest.** A successful step that changes the display, the sound timer, the call
stack or the memory tells so by its flow, and it tells that the machine waits for a key exactly if
it does. Without a jump, execution goes on behind the instruction, or exactly at the skips whose
condition holds behind the next one; while the machine waits, it stays where it is. Only the sixteen
bytes at the index register can change. -/
theorem step_flow (done : machine.step.result = .ok flow) :
    let before := machine.core
    let after := machine.step.machine.core
    (after.display ≠ before.display → flow = .draw) ∧
    (after.sound ≠ before.sound → flow = .sound) ∧
    (after.stack ≠ before.stack → flow = .jump) ∧
    (flow = .keyWait ↔ ∃ x, after.keyWait = some x) ∧
    (before.keyWait = none → flow ≠ .jump →
      after.pc.toNat = before.pc.toNat + 2 ∨ after.pc.toNat = before.pc.toNat + 4) ∧
    ((flow ≠ .jump ∧ after.pc.toNat = before.pc.toNat + 4) ↔
      (before.keyWait = none ∧ before.SkipHolds before.word)) ∧
    (∀ x, before.keyWait = some x → after.pc = before.pc) ∧
    (after.memory ≠ before.memory → flow = .ok) ∧
    (∀ address, after.memory.byteAt address ≠ before.memory.byteAt address →
      before.i.toNat ≤ address ∧ address ≤ before.i.toNat + 15) := by
  intro before after
  refine ⟨step_reports .display done rfl, step_reports .sound done rfl,
    step_reports .stack done rfl, ?_, ?_, step_skips_iff done, fun _ => step_pc_of_awaiting,
    step_reports .memory done rfl, fun _ => step_memory⟩
  · rw [step_keyWait_iff done]
    exact Option.isSome_iff_exists
  · intro running other
    have behind := step_pc_of_ne_jump running done other
    split at behind
    · exact .inr behind
    · exact .inl behind

/-- A register value beyond the keypad names no key, even if all keys are held. -/
theorem step_flow_beyond_keypad :
    let core : Core := { Core.initial with
      pc := 0
      v := Core.initial.v.set 0 0x1F
      keys := ⟨0xFFFF⟩
      memory := Memory.zero.store 0 [0xE0, 0xA1] }
    let machine : Machine := ⟨core, .start (Vector.replicate 8 0), {}⟩
    machine.step.result = .ok .ok ∧ machine.step.machine.core.pc.toNat = 4 := by
  intro core machine
  have isAt : machine.IsAt (.skipUnlessPressed 0) := ⟨rfl, by decide, by decide +kernel⟩
  have done : machine.step.result = .ok .ok := isAt.step_result
  have holds : core.SkipHolds core.word := Instruction.skips_decode.mp (by decide +kernel)
  obtain ⟨_, _, _, _, _, skips, _⟩ := step_flow done
  exact ⟨done, (skips.mpr ⟨rfl, holds⟩).2⟩

end Machine

end Chip8
