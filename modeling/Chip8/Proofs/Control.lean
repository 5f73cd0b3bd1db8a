import Chip8.Proofs.Step

/-!
# Control flow

Where execution goes on after an instruction, and what becomes of the call stack. The next address
is a number without bounds, so a program counter that is equal to it has not wrapped
(`Machine.step_pc`).
-/

namespace Chip8

namespace Instruction

/-- Whether an instruction skips the next one. -/
def skips (core : Core) : Instruction → Bool
  | .skipIfByte x byte => core.get x == byte
  | .skipUnlessByte x byte => core.get x != byte
  | .skipIfEqual x y => core.get x == core.get y
  | .skipUnlessEqual x y => core.get x != core.get y
  | .skipIfPressed x => core.isPressed (core.get x)
  | .skipUnlessPressed x => !core.isPressed (core.get x)
  | _ => false

/-- Where execution goes on after an instruction that raises no fault, with the program counter
already past it. -/
def target (core : Core) : Instruction → Nat
  | .ret => (core.stack.head?.getD core.pc).toNat
  | .jump address => address.val
  | .call address => address.val
  | .jumpOffset address => (core.get offsetRegister).toNat + address.val
  | instruction => core.pc.toNat + if instruction.skips core then 2 else 0

/-- The call stack after an instruction, with the program counter already past it. -/
def stackAfter (core : Core) : Instruction → List UInt16
  | .ret => core.stack.tail
  | .call _ => if core.stack.length < stackLimit then core.pc :: core.stack else core.stack
  | _ => core.stack

theorem fault?_call_eq_none_iff {core : Core} {address : AddressOperand} :
    (call address).fault? core = none ↔ core.stack.length < stackLimit := by
  simp [fault?]

theorem fault?_ret_eq_none_iff {core : Core} : ret.fault? core = none ↔ core.stack ≠ [] := by
  simp [fault?]

/-- A call pushes the address behind it, and a return takes an address away. -/
theorem mem_stackAfter {core : Core} {instruction : Instruction} {address : UInt16}
    (member : address ∈ instruction.stackAfter core) :
    address = core.pc ∨ address ∈ core.stack := by
  cases instruction with
  | ret => exact .inr (List.mem_of_mem_tail member)
  | call target =>
      simp only [stackAfter] at member
      split at member
      · exact List.mem_cons.mp member
      · exact .inr member
  | _ => exact .inr member

/-- Calls keep the limit of the stack. -/
theorem length_stackAfter_le {core : Core} (limit : core.stack.length ≤ stackLimit)
    (instruction : Instruction) : (instruction.stackAfter core).length ≤ stackLimit := by
  cases instruction with
  | ret =>
      rw [stackAfter, List.length_tail]
      omega
  | call target =>
      rw [stackAfter]
      split
      next room => exact room
      next => exact limit
  | _ => exact limit

/-- A return takes away only the top of the stack, so a part below stays if the depth allows it. -/
theorem suffix_stackAfter {frame : List UInt16} {core : Core} {instruction : Instruction}
    (below : frame <:+ core.stack) (deep : frame.length ≤ (instruction.stackAfter core).length) :
    frame <:+ instruction.stackAfter core := by
  cases instruction with
  | ret =>
      rw [stackAfter] at deep ⊢
      cases stack : core.stack with
      | nil =>
          rw [stack] at below
          exact below
      | cons address rest =>
          rw [stack] at below deep
          obtain rfl | below := List.suffix_cons_iff.mp below
          · exact absurd deep (Nat.not_succ_le_self rest.length)
          · exact below
  | call target =>
      rw [stackAfter]
      split
      · exact below.trans (List.suffix_cons core.pc core.stack)
      · exact below
  | _ => exact below

end Instruction

namespace Machine

theorem skipIf_pc (core : Core) (condition : Bool) :
    (core.skipIf condition).pc = UInt16.ofNat (core.pc.toNat + if condition then 2 else 0) := by
  cases condition with
  | false => simp [Core.skipIf]
  | true => simp [Core.skipIf]

/-- An instruction that raises no fault moves the program counter to its target. -/
theorem exec_pc {machine : Machine} {instruction : Instruction}
    (sound : instruction.fault? machine.core = none) :
    (machine.exec instruction).2.core.pc = UInt16.ofNat (instruction.target machine.core) := by
  cases instruction with
  | ret =>
      simp only [exec, attempts_snd, withCore, Core.outcome_returnToCaller, Instruction.target]
      cases stack : machine.core.stack with
      | nil => exact absurd stack (Instruction.fault?_ret_eq_none_iff.mp sound)
      | cons address rest => simp
  | jump address => rfl
  | call address =>
      simp only [exec, attempts_snd, withCore, Core.outcome_call,
        Instruction.fault?_call_eq_none_iff.mp sound, ↓reduceIte, Instruction.target]
  | jumpOffset address => rfl
  | skipIfByte | skipUnlessByte | skipIfEqual | skipUnlessEqual | skipIfPressed
  | skipUnlessPressed => exact skipIf_pc machine.core _
  | _ =>
      refine Eq.trans (b := machine.core.pc) (exec_frame machine _ .pc ?_) ?_
      · simp [Instruction.writes]
      · simp [Instruction.target, Instruction.skips]

/-- Only calls and returns change the call stack. -/
theorem exec_stack (machine : Machine) (instruction : Instruction) :
    (machine.exec instruction).2.core.stack = instruction.stackAfter machine.core := by
  cases instruction with
  | ret =>
      simp only [exec, attempts_snd, withCore, Core.outcome_returnToCaller,
        Instruction.stackAfter]
      cases stack : machine.core.stack with
      | nil => exact stack
      | cons address rest => rfl
  | call address =>
      simp only [exec, attempts_snd, withCore, Core.outcome_call, Instruction.stackAfter]
      split <;> rfl
  | _ => exact exec_frame machine _ .stack (by simp [Instruction.writes])

section

variable {machine : Machine}

/-- The fetch does not wrap the program counter. -/
theorem advanced_pc (inside : machine.core.CanFetch) :
    machine.advanced.core.pc.toNat = machine.core.pc.toNat + 2 := by
  have below : machine.core.pc.toNat + 1 < 0xFFF := inside
  change (machine.core.pc + 2).toNat = _
  rw [UInt16.toNat_add, show (2 : UInt16).toNat = 2 from rfl]
  omega

theorem advanced_pc_le (inside : machine.core.CanFetch) :
    machine.advanced.core.pc.toNat ≤ memorySize := by
  rw [advanced_pc inside]
  exact inside

/-- The largest offset jump leads to `0x10FE`, and only returns can lead further. -/
theorem target_le {core : Core} {bound : Nat} (counter : core.pc.toNat ≤ memorySize)
    (stack : ∀ address ∈ core.stack, address.toNat ≤ bound) (least : 0x10FE ≤ bound)
    (instruction : Instruction) : instruction.target core ≤ bound := by
  have below : core.pc.toNat ≤ 0xFFF := counter
  cases instruction with
  | ret =>
      simp only [Instruction.target]
      cases entries : core.stack with
      | nil =>
          change core.pc.toNat ≤ bound
          omega
      | cons address rest =>
          apply stack address
          rw [entries]
          exact .head rest
  | jump address =>
      simp only [Instruction.target]
      omega
  | call address =>
      simp only [Instruction.target]
      omega
  | jumpOffset address =>
      have offset := (core.get offsetRegister).toNat_lt
      simp only [Instruction.target]
      omega
  | _ =>
      simp only [Instruction.target]
      split <;> omega

/-- A step that fetches moves the program counter to the target of the instruction, or past the
instruction if that fails. It does not wrap. -/
theorem step_pc (running : machine.core.keyWait = none) (inside : machine.core.CanFetch) :
    machine.step.machine.core.pc.toNat =
      match machine.step.result with
      | .ok _ => machine.core.instruction.target machine.advanced.core
      | .error _ => machine.core.pc.toNat + 2 := by
  cases result : machine.step.result with
  | ok flow =>
      have sound := (exists_step_result_eq_ok_iff running inside).mp ⟨flow, result⟩
      have fits := target_le (advanced_pc_le inside)
        (fun address _ => Nat.le_of_lt_succ address.toNat_lt) (by decide) machine.core.instruction
      rw [step_machine running inside, exec_pc sound,
        UInt16.toNat_ofNat_of_lt' (Nat.lt_succ_of_le fits)]
  | error fault => rw [step_machine_of_error running inside result, advanced_pc inside]

end

end Machine

end Chip8
