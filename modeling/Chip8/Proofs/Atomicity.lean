import Chip8.Proofs.Console

/-!
# Failing steps

A step that fails changes nothing but the program counter. If the fetch fails, not even that
changes, so the machine is stuck: all later steps fail in the same way, whatever timer ticks and key
events come in between. Otherwise the program counter is past the instruction.
-/

namespace Chip8

namespace Request

/-- Requests by which time passes: steps, timer ticks and key events. -/
def isPassing : Request → Bool
  | .step | .tick | .setKey .. | .clearKeys => true
  | _ => false

end Request

namespace Machine

/-- The machine with the timers and keys of another one. -/
def withTimersAndKeys (machine other : Machine) : Machine :=
  machine.withCore { machine.core with
    delay := other.core.delay
    sound := other.core.sound
    keys := other.core.keys }

/-- The machine does not wait for a key and cannot fetch. -/
def IsStuck (machine : Machine) : Prop :=
  machine.core.keyWait = none ∧ ¬ machine.core.CanFetch

theorem IsStuck.step_eq {machine : Machine} (stuck : machine.IsStuck) :
    machine.step =
      ⟨.error (.memoryOutOfBounds (max machine.core.pc.toNat memorySize)), machine, #[]⟩ :=
  step_of_not_canFetch stuck.1 stuck.2

end Machine

namespace Console

variable {σ : Type} (beeper : Beeper σ)

/-- A step of a stuck machine changes nothing. -/
theorem serve_step_of_isStuck {console : Console σ} (stuck : console.machine.IsStuck) :
    (console.serve beeper .step).2 = console := by
  simp only [serve, stuck.step_eq, withMachine]

/-- The passing of time changes only timers and keys of a stuck machine. -/
theorem serve_of_isPassing {console : Console σ} {request : Request}
    (passing : request.isPassing) (stuck : console.machine.IsStuck) :
    (console.serve beeper request).2.machine =
      console.machine.withTimersAndKeys (console.serve beeper request).2.machine := by
  cases request with
  | step =>
      rw [serve_step_of_isStuck beeper stuck]
      rfl
  | tick =>
      simp only [serve, Machine.tick]
      split <;> rfl
  | setKey key pressed => rfl
  | clearKeys => rfl
  | _ => cases passing

/-- A stuck machine stays stuck while time passes. -/
theorem isStuck_of_isPassing {console : Console σ} {request : Request}
    (passing : request.isPassing) (stuck : console.machine.IsStuck) :
    (console.serve beeper request).2.machine.IsStuck := by
  rw [serve_of_isPassing beeper passing stuck]
  exact stuck

/-- A stuck machine changes only its timers and keys while time passes. -/
theorem run_of_isStuck {console : Console σ} (stuck : console.machine.IsStuck)
    (requests : List Request) (passing : ∀ request ∈ requests, request.isPassing) :
    (console.run beeper requests).machine =
      console.machine.withTimersAndKeys (console.run beeper requests).machine := by
  refine run_keeps beeper
    (fun later => later.machine = console.machine.withTimersAndKeys later.machine)
    (fun request => request.isPassing) ?_ requests console passing rfl
  intro later request pass same
  have laterStuck : later.machine.IsStuck := by
    rw [same]
    exact stuck
  have next := serve_of_isPassing beeper pass laterStuck
  rw [same] at next
  exact next

/-- The steps of a stuck machine leave no trace in a run. -/
theorem run_without_steps {console : Console σ} (stuck : console.machine.IsStuck)
    (requests : List Request) (passing : ∀ request ∈ requests, request.isPassing) :
    console.run beeper requests =
      console.run beeper (requests.filter fun request => !request.isStep) := by
  induction requests generalizing console with
  | nil => rfl
  | cons request requests ih =>
      have passingLater := fun other member => passing other (.tail request member)
      have pass := passing request (.head requests)
      cases request with
      | step =>
          rw [run_cons, serve_step_of_isStuck beeper stuck]
          exact ih stuck passingLater
      | tick => exact ih (isStuck_of_isPassing beeper pass stuck) passingLater
      | setKey key pressed => exact ih (isStuck_of_isPassing beeper pass stuck) passingLater
      | clearKeys => exact ih (isStuck_of_isPassing beeper pass stuck) passingLater
      | _ => cases pass

end Console

namespace Instruction

/-- An instruction raises one of three faults. -/
theorem fault?_cases {core : Core} {instruction : Instruction} {fault : Fault}
    (raised : instruction.fault? core = some fault) :
    (∃ address, memorySize ≤ address ∧ fault = .memoryOutOfBounds address) ∨
      fault = .stackUnderflow core.pc ∨ fault = .stackOverflow core.pc := by
  cases instruction with
  | ret =>
      simp only [fault?, Option.ite_none_right_eq_some, Option.some.injEq] at raised
      exact .inr (.inl raised.2.symm)
  | call address =>
      simp only [fault?, Option.ite_none_left_eq_some, Option.some.injEq] at raised
      exact .inr (.inr raised.2.symm)
  | _ =>
      left
      simp only [fault?, Option.bind_eq_some_iff, Option.ite_none_left_eq_some,
        Option.some.injEq] at raised
      obtain ⟨length, _, outside, rfl⟩ := raised
      obtain ⟨address, reported, beyond, -⟩ :=
        Memory.exists_isReported (Nat.lt_of_not_le outside)
      exact ⟨address, beyond, reported⟩

theorem fault?_eq_stackUnderflow_iff {core : Core} {instruction : Instruction} :
    instruction.fault? core = some (.stackUnderflow core.pc) ↔
      instruction = .ret ∧ core.stack = [] := by
  cases instruction <;> simp [fault?, Option.bind_eq_some_iff, Memory.blockFault]

theorem fault?_eq_stackOverflow_iff {core : Core} {instruction : Instruction} :
    instruction.fault? core = some (.stackOverflow core.pc) ↔
      (∃ target, instruction = .call target) ∧ stackLimit ≤ core.stack.length := by
  cases instruction <;> simp [fault?, Option.bind_eq_some_iff, Memory.blockFault]

end Instruction

namespace Machine

/-- **A failing step has no effect.** A machine that waits for a key does not fail. If the word at
the program counter does not lie in memory, the machine is stuck, and nothing but its timers and
keys changes while time passes. Otherwise a failing step moves past the instruction and changes
nothing else. -/
theorem step_atomic {σ : Type} (beeper : Beeper σ) (bell : σ) (machine : Machine) :
    (∀ fault, machine.step.result = .error fault → machine.core.keyWait = none) ∧
    ((∃ fault, machine.core.fetch = .error fault) ↔ memorySize - 1 ≤ machine.core.pc.toNat) ∧
    (machine.core.keyWait = none → memorySize - 1 ≤ machine.core.pc.toNat →
      ∃ address, ∀ requests : List Request, (∀ request ∈ requests, request.isPassing) →
        let console : Console σ := ⟨machine, bell⟩
        let later := (console.run beeper requests).machine
        later.step.result = .error (.memoryOutOfBounds address) ∧ later.step.machine = later ∧
          later = machine.withTimersAndKeys later ∧
          later = (console.run beeper (requests.filter fun request => !request.isStep)).machine) ∧
    (∀ fault, machine.step.result = .error fault → machine.core.pc.toNat < memorySize - 1 →
      machine.step.machine = machine.withCore { machine.core with pc := machine.core.pc + 2 } ∧
        ((∃ address, memorySize ≤ address ∧ fault = .memoryOutOfBounds address) ∨
          fault = .stackUnderflow (machine.core.pc + 2) ∨
          fault = .stackOverflow (machine.core.pc + 2))) ∧
    (machine.core.keyWait = none → machine.core.pc.toNat < memorySize - 1 →
      (machine.step.result = .error (.stackUnderflow (machine.core.pc + 2)) ↔
        machine.core.instruction = .ret ∧ machine.core.stack = []) ∧
      (machine.step.result = .error (.stackOverflow (machine.core.pc + 2)) ↔
        (∃ target, machine.core.instruction = .call target) ∧
          stackLimit ≤ machine.core.stack.length)) := by
  refine ⟨fun _ => keyWait_eq_none_of_error, ?_, ?_, ?_, ?_⟩
  · rw [Core.fetch_eq]
    split
    next inside =>
      constructor
      · rintro ⟨fault, failed⟩
        cases failed
      · intro outside
        omega
    next outside =>
      constructor
      · intro _
        omega
      · intro _
        exact ⟨_, rfl⟩
  · intro running outside
    have stuck : machine.IsStuck := ⟨running, by omega⟩
    refine ⟨max machine.core.pc.toNat memorySize, ?_⟩
    intro requests passing console later
    have same : later = machine.withTimersAndKeys later :=
      console.run_of_isStuck beeper stuck requests passing
    have laterStuck : later.IsStuck := by
      rw [same]
      exact stuck
    have counter : later.core.pc = machine.core.pc := by
      rw [same]
      rfl
    have without := console.run_without_steps beeper stuck requests passing
    refine ⟨?_, ?_, same, congrArg Console.machine without⟩
    · rw [laterStuck.step_eq, counter]
    · rw [laterStuck.step_eq]
  · intro fault failed below
    have running := keyWait_eq_none_of_error failed
    have inside : machine.core.CanFetch := by omega
    constructor
    · exact step_machine_of_error running inside failed
    · exact Instruction.fault?_cases ((step_result_eq_error_iff running inside).mp failed)
  · intro running below
    have inside : machine.core.CanFetch := by omega
    rw [step_result_eq_error_iff running inside, step_result_eq_error_iff running inside]
    exact ⟨Instruction.fault?_eq_stackUnderflow_iff, Instruction.fault?_eq_stackOverflow_iff⟩

end Machine

end Chip8
