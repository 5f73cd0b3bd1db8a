import Chip8.Proofs.Execution

/-!
# Steps

A step ends or continues a wait, fails to fetch, or executes the instruction at the program
counter. A timer tick counts down both timers, and its tone does not depend on the beeper.
-/

namespace Chip8.Machine

/-- The machine with the program counter past the next instruction. -/
def advanced (machine : Machine) : Machine := machine.withCore machine.core.advanced

theorem perform_result (machine : Machine) (pc word : UInt16) :
    (machine.perform pc word).result = (machine.exec (Instruction.decode word)).1 := by
  unfold perform
  dsimp only
  cases (machine.exec (Instruction.decode word)).1 <;> rfl

theorem perform_machine (machine : Machine) (pc word : UInt16) :
    (machine.perform pc word).machine = (machine.exec (Instruction.decode word)).2 := by
  unfold perform
  dsimp only
  cases (machine.exec (Instruction.decode word)).1 <;> rfl

theorem perform_records (machine : Machine) (pc word : UInt16) :
    let instruction := Instruction.decode word
    (machine.perform pc word).records =
      #[.fetched pc word instruction] ++ machine.remarks instruction ++
        match (machine.perform pc word).result with
        | .ok _ => #[]
        | .error fault => #[.failed pc instruction fault] := by
  intro instruction
  rw [perform_result]
  unfold perform
  dsimp only
  cases (machine.exec (Instruction.decode word)).1 with
  | ok flow => exact Array.append_empty.symm
  | error fault => exact Array.push_eq_append

section

variable {machine : Machine}

theorem step_of_awaiting {x : Register} (awaiting : machine.core.keyWait = some x) :
    machine.step = ⟨.ok (machine.resume x).1, (machine.resume x).2, #[]⟩ := by
  simp only [step, awaiting]

/-- A failed fetch leaves the machine as it was. -/
theorem step_of_not_canFetch (running : machine.core.keyWait = none)
    (outside : ¬ machine.core.CanFetch) :
    machine.step =
      ⟨.error (.memoryOutOfBounds (max machine.core.pc.toNat memorySize)), machine, #[]⟩ := by
  simp only [step, running, Core.outcome_fetchNext, outside, ↓reduceIte]
  rfl

private theorem step_of_canFetch (running : machine.core.keyWait = none)
    (inside : machine.core.CanFetch) :
    machine.step = machine.advanced.perform machine.core.pc machine.core.word := by
  simp only [step, running, Core.outcome_fetchNext, inside, ↓reduceIte]
  rfl

theorem step_result (running : machine.core.keyWait = none) (inside : machine.core.CanFetch) :
    machine.step.result = (machine.advanced.exec machine.core.instruction).1 := by
  rw [step_of_canFetch running inside, perform_result]
  rfl

theorem step_machine (running : machine.core.keyWait = none) (inside : machine.core.CanFetch) :
    machine.step.machine = (machine.advanced.exec machine.core.instruction).2 := by
  rw [step_of_canFetch running inside, perform_machine]
  rfl

theorem step_records (running : machine.core.keyWait = none) (inside : machine.core.CanFetch) :
    machine.step.records =
      #[.fetched machine.core.pc machine.core.word machine.core.instruction] ++
        machine.advanced.remarks machine.core.instruction ++
        match machine.step.result with
        | .ok _ => #[]
        | .error fault => #[.failed machine.core.pc machine.core.instruction fault] := by
  rw [step_of_canFetch running inside]
  exact perform_records machine.advanced machine.core.pc machine.core.word

/-- The result of a step that fetches is the fault of its instruction, if that raises one. -/
theorem step_result_eq (running : machine.core.keyWait = none) (inside : machine.core.CanFetch) :
    machine.step.result =
      match machine.core.instruction.fault? machine.core.advanced with
      | some fault => .error fault
      | none => .ok (machine.core.instruction.flow machine.core.advanced) := by
  rw [step_result running inside]
  exact exec_fst machine.advanced machine.core.instruction

theorem step_result_eq_error_iff {fault : Fault} (running : machine.core.keyWait = none)
    (inside : machine.core.CanFetch) :
    machine.step.result = .error fault ↔
      machine.core.instruction.fault? machine.core.advanced = some fault := by
  rw [step_result_eq running inside]
  cases machine.core.instruction.fault? machine.core.advanced <;> simp

theorem exists_step_result_eq_ok_iff (running : machine.core.keyWait = none)
    (inside : machine.core.CanFetch) :
    (∃ flow, machine.step.result = .ok flow) ↔
      machine.core.instruction.fault? machine.core.advanced = none := by
  rw [step_result_eq running inside]
  cases machine.core.instruction.fault? machine.core.advanced <;> simp

/-- A failing instruction leaves only the fetch behind. -/
theorem step_machine_of_error {fault : Fault} (running : machine.core.keyWait = none)
    (inside : machine.core.CanFetch) (failed : machine.step.result = .error fault) :
    machine.step.machine = machine.advanced := by
  rw [step_result running inside] at failed
  rw [step_machine running inside, exec_snd_of_error failed]

/-- A machine that waits for a key does not fail. -/
theorem keyWait_eq_none_of_error {fault : Fault} (failed : machine.step.result = .error fault) :
    machine.core.keyWait = none := by
  cases wait : machine.core.keyWait with
  | none => rfl
  | some x =>
      rw [step_of_awaiting wait] at failed
      cases failed

/-- A machine that does not wait for a key can fetch if its step succeeds. -/
theorem canFetch_of_ok {flow : Flow} (running : machine.core.keyWait = none)
    (done : machine.step.result = .ok flow) : machine.core.CanFetch := by
  refine Decidable.byContradiction fun outside => ?_
  rw [step_of_not_canFetch running outside] at done
  cases done

/-- A step that fetches and succeeds has the flow of its instruction. -/
theorem step_flow_eq {flow : Flow} (running : machine.core.keyWait = none)
    (done : machine.step.result = .ok flow) :
    flow = machine.core.instruction.flow machine.core.advanced := by
  have inside := canFetch_of_ok running done
  have sound := (exists_step_result_eq_ok_iff running inside).mp ⟨flow, done⟩
  rw [step_result_eq running inside, sound] at done
  cases done
  rfl

end

/-- The next step executes the instruction. -/
structure IsAt (machine : Machine) (instruction : Instruction) : Prop where
  running : machine.core.keyWait = none
  inside : machine.core.CanFetch
  decoded : machine.core.instruction = instruction

namespace IsAt

variable {machine : Machine} {instruction : Instruction} (isAt : machine.IsAt instruction)

include isAt

theorem step_result : machine.step.result = (machine.advanced.exec instruction).1 := by
  rw [Machine.step_result isAt.running isAt.inside, isAt.decoded]

theorem step_machine : machine.step.machine = (machine.advanced.exec instruction).2 := by
  rw [Machine.step_machine isAt.running isAt.inside, isAt.decoded]

/-- A step whose instruction is an action that succeeds leaves the core of that action. -/
theorem step_of_outcome {flow : Flow} {action : Action Core Unit} {next : Core}
    (effect : machine.advanced.exec instruction = machine.advanced.attempts flow action)
    (done : action.outcome machine.core.advanced = (.ok (), next)) :
    machine.step.result = .ok flow ∧ machine.step.machine = machine.withCore next := by
  have outcome : action.outcome machine.advanced.core = (.ok (), next) := done
  rw [isAt.step_result, isAt.step_machine, effect, attempts_fst, attempts_snd, outcome]
  exact ⟨rfl, rfl⟩

theorem exists_error_iff :
    (∃ fault, machine.step.result = .error fault) ↔
      ¬ instruction.fault? machine.core.advanced = none := by
  obtain ⟨running, inside, rfl⟩ := isAt
  simp only [step_result_eq_error_iff running inside, ← Option.ne_none_iff_exists', ne_eq]

end IsAt

/-- A step leaves the machine alone, ends a wait, or executes the instruction at the program
counter. -/
theorem step_machine_cases (machine : Machine) :
    machine.step.machine = machine ∨
    (∃ (x : Register) (key : Key), machine.core.keyWait = some x ∧ machine.step.machine =
      machine.withCore { machine.core.set x (UInt8.ofNat key.val) with keyWait := none }) ∨
    (machine.core.keyWait = none ∧ machine.core.CanFetch ∧
      machine.step.machine = (machine.advanced.exec machine.core.instruction).2) := by
  cases wait : machine.core.keyWait with
  | some x =>
      rw [step_of_awaiting wait]
      simp only [resume]
      cases machine.core.keys.first? with
      | none => exact .inl rfl
      | some key => exact .inr (.inl ⟨x, key, rfl, rfl⟩)
  | none =>
      by_cases inside : machine.core.CanFetch
      · exact .inr (.inr ⟨rfl, inside, step_machine wait inside⟩)
      · rw [step_of_not_canFetch wait inside]
        exact .inl rfl

/-- What every step keeps, every run of steps keeps. -/
theorem continueRun_keeps (kept : Machine → Prop)
    (keeps : ∀ machine, kept machine → kept machine.step.machine) (count : Nat)
    (report : Report Flow) (start : kept report.machine) :
    kept (continueRun count report).machine := by
  induction count generalizing report with
  | zero => exact start
  | succ count ih =>
      have next : kept (advance report).machine := keeps report.machine start
      rw [continueRun]
      split
      · exact next
      · exact ih (advance report) next

/-! ## Loading and ticks -/

theorem writeBlock_eq_map (core : Core) (address : Nat) (block : List UInt8) :
    core.writeBlock address block =
      (core.memory.writeBlock address block).map fun memory => { core with memory } := by
  unfold Core.writeBlock
  cases core.memory.writeBlock address block <;> rfl

theorem loadFont_eq_map (machine : Machine) (glyphs : List UInt8) :
    machine.loadFont glyphs = (machine.core.memory.writeBlock fontStart glyphs).map fun memory =>
      machine.withCore { machine.core with memory } := by
  rw [loadFont, writeBlock_eq_map]
  cases machine.core.memory.writeBlock fontStart glyphs <;> rfl

theorem tick_machine {σ : Type} (machine : Machine) (beeper : Beeper σ) (state : σ) :
    (machine.tick beeper state).machine = machine.withCore machine.core.countDown.2 := by
  rw [tick]
  split <;> rfl

theorem tick_tone {σ : Type} (machine : Machine) (beeper : Beeper σ) (state : σ) :
    (machine.tick beeper state).tone = machine.core.countDown.1 := by
  rw [tick]
  cases machine.core.countDown.1 <;> rfl

/-- The beeper beeps exactly on a tick that finds the sound timer running. -/
theorem tick_beeper {σ : Type} (machine : Machine) (beeper : Beeper σ) (state : σ) :
    (machine.tick beeper state).beeper =
      if machine.core.sound = 0 then state else (beeper.beep state).1 := by
  by_cases silent : machine.core.sound = 0 <;> simp [tick, Core.countDown, silent]

end Chip8.Machine
