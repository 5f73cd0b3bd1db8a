import Chip8.Proofs.Step

/-!
# Footprints

The parts of a machine that an instruction reads, next to those that it writes, and the same for a
step. What a step leaves in the parts that it writes is determined by the parts that it reads
(`Machine.step_congr`), and the other parts stay as they are (`Machine.step_frame`). So a change of
parts that a step does not use can be made before or after the step (`Machine.step_comm`).
-/

namespace Chip8

/-- The parts that determine the outcome of an instruction. A part that may be written only in part,
or not at all, is among them. -/
def Instruction.reads : Instruction → List Part
  | .clearScreen | .jump _ | .loadIndex _ | .unknown _ => []
  | .ret | .call _ => [.pc, .stack]
  | .skipIfByte .. | .skipUnlessByte .. | .skipIfEqual .. | .skipUnlessEqual .. => [.pc, .registers]
  | .skipIfPressed _ | .skipUnlessPressed _ => [.pc, .registers, .keys]
  | .loadByte .. | .addByte .. | .move .. | .or .. | .and .. | .xor .. => [.registers]
  | .add .. | .sub .. | .shiftRight _ | .subReverse .. | .shiftLeft _ => [.registers]
  | .jumpOffset _ | .glyph _ | .setDelay _ | .setSound _ => [.registers]
  | .loadDelay _ => [.registers, .delay]
  | .random .. => [.registers, .random]
  | .addIndex _ => [.registers, .index]
  | .awaitKey _ => [.registers, .keyWait, .keys]
  | .draw .. => [.registers, .index, .memory, .display]
  | .decimal _ | .store _ | .load _ => [.registers, .index, .memory]

namespace Machine

variable {first second : Machine}

def AgreeOn (parts : List Part) (first second : Machine) : Prop :=
  ∀ part ∈ parts, part.Agree first second

@[simp] theorem agreeOn_nil : AgreeOn [] first second := nofun

@[simp] theorem agreeOn_cons {part : Part} {parts : List Part} :
    AgreeOn (part :: parts) first second ↔ part.Agree first second ∧ AgreeOn parts first second :=
  List.forall_mem_cons

theorem eq_of_agree (agree : ∀ part : Part, part.Agree first second) : first = second := by
  obtain ⟨core, random, config⟩ := first
  obtain ⟨other, otherRandom, otherConfig⟩ := second
  have cores : core = other := by
    obtain ⟨pc, v, i, delay, sound, keyWait, keys, memory, stack, display⟩ := core
    obtain rfl : pc = other.pc := agree .pc
    obtain rfl : v = other.v := agree .registers
    obtain rfl : i = other.i := agree .index
    obtain rfl : delay = other.delay := agree .delay
    obtain rfl : sound = other.sound := agree .sound
    obtain rfl : keyWait = other.keyWait := agree .keyWait
    obtain rfl : keys = other.keys := agree .keys
    obtain rfl : memory = other.memory := agree .memory
    obtain rfl : stack = other.stack := agree .stack
    obtain rfl : display = other.display := agree .display
    rfl
  obtain rfl := cores
  obtain rfl : random = otherRandom := agree .random
  obtain rfl : config = otherConfig := agree .config
  rfl

/-- Two machines that differ only in hidden parts still do so after changes that write the same into
some parts and leave the others alone. -/
theorem agree_off_of_writes {writes hidden : List Part} {afterFirst afterSecond : Machine}
    (agree : ∀ part ∉ hidden, part.Agree first second)
    (congr : AgreeOn writes afterFirst afterSecond)
    (frameFirst : ∀ part ∉ writes, part.Agree afterFirst first)
    (frameSecond : ∀ part ∉ writes, part.Agree afterSecond second) :
    ∀ part ∉ hidden, part.Agree afterFirst afterSecond := by
  intro part visible
  by_cases written : part ∈ writes
  · exact congr part written
  · have before := Part.agree_trans (frameFirst part written) (agree part visible)
    exact Part.agree_trans before (Part.agree_symm (frameSecond part written))

/-! ## Instructions -/

theorem skipIf_pc_congr {first second : Core} {condition other : Bool} (pc : first.pc = second.pc)
    (same : condition = other) : (first.skipIf condition).pc = (second.skipIf other).pc := by
  subst same
  cases condition with
  | false => exact pc
  | true => exact congrArg (· + 2) pc

theorem exec_fst_congr {instruction : Instruction}
    (agree : AgreeOn instruction.reads first second) :
    (first.exec instruction).1 = (second.exec instruction).1 := by
  rw [exec_fst, exec_fst]
  cases instruction with
  | ret | call =>
      simp only [Instruction.reads, agreeOn_cons, Part.Agree] at agree
      simp only [Instruction.fault?, Instruction.flow, agree]
  | draw | decimal | store | load =>
      simp only [Instruction.reads, agreeOn_cons, Part.Agree] at agree
      simp only [Instruction.fault?, Instruction.extent?, Instruction.flow, agree]
  | awaitKey =>
      simp only [Instruction.reads, agreeOn_cons, Part.Agree] at agree
      simp only [Instruction.fault?, Instruction.extent?, Option.bind_none, Instruction.flow, agree]
  | _ => rfl

/-- What an instruction leaves in the parts that it writes depends on the parts that it reads. -/
theorem exec_congr {instruction : Instruction} (agree : AgreeOn instruction.reads first second) :
    AgreeOn instruction.writes (first.exec instruction).2 (second.exec instruction).2 := by
  cases instruction with
  | unknown => exact agreeOn_nil
  | clearScreen | jump | loadIndex => exact agreeOn_cons.mpr ⟨rfl, agreeOn_nil⟩
  | skipIfByte | skipUnlessByte | skipIfEqual | skipUnlessEqual | skipIfPressed
  | skipUnlessPressed =>
      simp only [Instruction.reads, agreeOn_cons, Part.Agree] at agree
      refine agreeOn_cons.mpr ⟨skipIf_pc_congr agree.1 ?_, agreeOn_nil⟩
      simp only [Core.isPressed, Core.get, agree]
  | loadByte | addByte | move | or | and | xor | add | sub | shiftRight | subReverse | shiftLeft =>
      have v : first.core.v = second.core.v := agree .registers (.head _)
      refine agreeOn_cons.mpr ⟨?_, agreeOn_nil⟩
      exact congrArg (fun v => ((first.withCore { first.core with v }).exec _).2.core.v) v
  | jumpOffset | glyph | setDelay | setSound | addIndex | loadDelay | random =>
      simp only [Instruction.reads, agreeOn_cons, Part.Agree] at agree
      simp only [Instruction.writes, agreeOn_cons, agreeOn_nil, Part.Agree, exec, yields, withCore,
        Core.set, Core.get, agree, and_self]
  | awaitKey =>
      simp only [Instruction.reads, agreeOn_cons, Part.Agree] at agree
      simp only [Instruction.writes, agreeOn_cons, agreeOn_nil, Part.Agree, exec, agree]
      cases second.core.keys.first? <;>
        simp only [yields, withCore, Core.set, agree, and_self]
  | ret =>
      simp only [Instruction.reads, agreeOn_cons, Part.Agree] at agree
      simp only [Instruction.writes, agreeOn_cons, agreeOn_nil, Part.Agree, exec, attempts_snd,
        withCore, Core.outcome_returnToCaller]
      rw [agree.2.1]
      cases second.core.stack <;> simp only [agree, and_self]
  | call =>
      simp only [Instruction.reads, agreeOn_cons, Part.Agree] at agree
      simp only [Instruction.writes, agreeOn_cons, agreeOn_nil, Part.Agree, exec, attempts_snd,
        withCore, Core.outcome_call]
      rw [agree.2.1]
      split <;> simp only [agree, and_self]
  | draw x y height =>
      simp only [Instruction.reads, agreeOn_cons, Part.Agree] at agree
      simp only [Instruction.writes, agreeOn_cons, agreeOn_nil, Part.Agree, exec, attempts_snd,
        withCore, Core.outcome_drawSprite]
      rw [agree.2.1]
      split
      · simp only [Core.drawn, Core.setFlag, Core.set, Core.get, agree, and_true]
        rfl
      · simp only [agree, and_self]
  | decimal | store | load =>
      simp only [Instruction.reads, agreeOn_cons, Part.Agree] at agree
      simp only [Instruction.writes, agreeOn_cons, agreeOn_nil, Part.Agree, exec, attempts_snd,
        withCore, Core.outcome_storeDecimal, Core.outcome_storeRegisters,
        Core.outcome_loadRegisters]
      rw [agree.2.1]
      split <;> simp only [Core.get, Core.firstRegisters, Core.setFirstRegisters, Core.indexPast,
        agree, and_self]

/-! ## Steps -/

/-- The parts that determine the outcome of a step. -/
def stepReads (machine : Machine) : List Part :=
  match machine.core.keyWait with
  | some _ => [.keyWait, .registers, .keys]
  | none =>
    if machine.core.CanFetch then .keyWait :: .pc :: .memory :: machine.core.instruction.reads
    else [.keyWait, .pc]

def stepWrites (machine : Machine) : List Part :=
  match machine.core.keyWait with
  | some _ => [.keyWait, .registers]
  | none => if machine.core.CanFetch then .pc :: machine.core.instruction.writes else []

theorem mem_stepReads {machine : Machine} {part : Part} (read : part ∈ machine.stepReads) :
    (machine.core.keyWait ≠ none ∧ part ∈ [.keyWait, .registers, .keys]) ∨
      part ∈ [.keyWait, .pc, .memory] ∨
      ∃ instruction, machine.IsAt instruction ∧ part ∈ instruction.reads := by
  unfold stepReads at read
  cases wait : machine.core.keyWait with
  | some x =>
      rw [wait] at read
      exact .inl ⟨nofun, read⟩
  | none =>
      right
      by_cases inside : machine.core.CanFetch
      · simp only [wait, inside, ↓reduceIte] at read
        have split : part ∈ [Part.keyWait, .pc, .memory] ++ machine.core.instruction.reads := read
        rcases List.mem_append.mp split with fetched | used
        · exact .inl fetched
        · exact .inr ⟨_, ⟨wait, inside, rfl⟩, used⟩
      · simp only [wait, inside, ↓reduceIte] at read
        exact .inl (List.mem_append_left [Part.memory] read)

theorem mem_stepWrites {machine : Machine} {part : Part} (written : part ∈ machine.stepWrites) :
    part ∈ [.keyWait, .registers, .pc] ∨
      ∃ instruction, machine.IsAt instruction ∧ part ∈ instruction.writes := by
  unfold stepWrites at written
  cases wait : machine.core.keyWait with
  | some x =>
      rw [wait] at written
      exact .inl (List.mem_append_left [Part.pc] written)
  | none =>
      by_cases inside : machine.core.CanFetch
      · simp only [wait, inside, ↓reduceIte] at written
        rcases List.mem_cons.mp written with rfl | used
        · exact .inl (by decide)
        · exact .inr ⟨_, ⟨wait, inside, rfl⟩, used⟩
      · simp only [wait, inside, ↓reduceIte] at written
        cases written

theorem advanced_frame {machine : Machine} {part : Part} (other : part ≠ .pc) :
    part.Agree machine.advanced machine := by
  cases part with
  | pc => exact absurd rfl other
  | _ => rfl

theorem advanced_congr {parts : List Part} (pc : first.core.pc = second.core.pc)
    (agree : AgreeOn parts first second) : AgreeOn parts first.advanced second.advanced := by
  intro part member
  by_cases isPc : part = .pc
  · subst isPc
    exact congrArg (· + 2) pc
  · have before := Part.agree_trans (advanced_frame isPc) (agree part member)
    exact Part.agree_trans before (Part.agree_symm (advanced_frame isPc))

theorem step_frame {machine : Machine} (part : Part) (untouched : part ∉ machine.stepWrites) :
    part.Agree machine.step.machine machine := by
  unfold stepWrites at untouched
  rcases machine.step_machine_cases with
    same | ⟨x, key, awaiting, resumed⟩ | ⟨running, inside, executed⟩
  · rw [same]
    exact part.agree_refl machine
  · simp only [awaiting, List.mem_cons, not_or] at untouched
    rw [resumed]
    cases part with
    | keyWait => exact absurd rfl untouched.1
    | registers => exact absurd rfl untouched.2.1
    | _ => rfl
  · simp only [running, inside, ↓reduceIte, List.mem_cons, not_or] at untouched
    rw [executed]
    exact Part.agree_trans (exec_frame _ _ part untouched.2) (advanced_frame untouched.1)

/-- Machines that agree on what a step reads both wait, both execute the same instruction, or both
fail to fetch. -/
theorem step_cases_congr (agree : AgreeOn first.stepReads first second) :
    (∃ x, first.core.keyWait = some x ∧ second.core.keyWait = some x ∧
      first.core.v = second.core.v ∧ first.core.keys = second.core.keys) ∨
    (∃ instruction, first.IsAt instruction ∧ second.IsAt instruction ∧
      AgreeOn instruction.reads first.advanced second.advanced ∧
      Part.pc.Agree first.advanced second.advanced) ∨
    (first.core.keyWait = none ∧ second.core.keyWait = none ∧ ¬ first.core.CanFetch ∧
      ¬ second.core.CanFetch ∧ first.core.pc = second.core.pc) := by
  unfold stepReads at agree
  cases wait : first.core.keyWait with
  | some x =>
      simp only [wait, agreeOn_cons, Part.Agree] at agree
      exact .inl ⟨x, rfl, agree.1.symm, agree.2.1, agree.2.2.1⟩
  | none =>
      right
      by_cases inside : first.core.CanFetch
      · simp only [wait, inside, ↓reduceIte, agreeOn_cons, Part.Agree] at agree
        obtain ⟨running, pc, memory, reads⟩ := agree
        have same : second.core.instruction = first.core.instruction := by
          simp only [Core.instruction, Core.word, pc, memory]
        have otherInside : second.core.CanFetch := by rwa [Core.CanFetch, ← pc]
        exact .inl ⟨_, ⟨wait, inside, rfl⟩, ⟨running.symm, otherInside, same⟩,
          advanced_congr pc reads, congrArg (· + 2) pc⟩
      · simp only [wait, inside, ↓reduceIte, agreeOn_cons, Part.Agree] at agree
        have otherOutside : ¬ second.core.CanFetch := by rwa [Core.CanFetch, ← agree.2.1]
        exact .inr ⟨rfl, agree.1.symm, inside, otherOutside, agree.2.1⟩

theorem IsAt.stepWrites_eq {machine : Machine} {instruction : Instruction}
    (isAt : machine.IsAt instruction) : machine.stepWrites = .pc :: instruction.writes := by
  simp only [stepWrites, isAt.running, isAt.inside, isAt.decoded, ↓reduceIte]

theorem stepWrites_congr (agree : AgreeOn first.stepReads first second) :
    first.stepWrites = second.stepWrites := by
  rcases step_cases_congr agree with ⟨x, awaiting, otherAwaiting, _⟩ |
    ⟨instruction, isAt, otherAt, _⟩ | ⟨running, otherRunning, outside, otherOutside, _⟩
  · simp only [stepWrites, awaiting, otherAwaiting]
  · rw [isAt.stepWrites_eq, otherAt.stepWrites_eq]
  · simp only [stepWrites, running, otherRunning, outside, otherOutside, ↓reduceIte]

theorem step_result_congr (agree : AgreeOn first.stepReads first second) :
    first.step.result = second.step.result := by
  rcases step_cases_congr agree with ⟨x, awaiting, otherAwaiting, _, keys⟩ |
    ⟨instruction, isAt, otherAt, reads, _⟩ | ⟨running, otherRunning, outside, otherOutside, pc⟩
  · rw [step_of_awaiting awaiting, step_of_awaiting otherAwaiting]
    simp only [resume, keys]
    cases second.core.keys.first? <;> rfl
  · rw [isAt.step_result, otherAt.step_result, exec_fst_congr reads]
  · rw [step_of_not_canFetch running outside, step_of_not_canFetch otherRunning otherOutside, pc]

/-- What a step leaves in the parts that it writes depends on the parts that it reads. -/
theorem step_congr (agree : AgreeOn first.stepReads first second) :
    AgreeOn first.stepWrites first.step.machine second.step.machine := by
  rcases step_cases_congr agree with ⟨x, awaiting, otherAwaiting, v, keys⟩ |
    ⟨instruction, isAt, otherAt, reads, advancedPc⟩ | ⟨running, _, outside, _, _⟩
  · simp only [stepWrites, awaiting, step_of_awaiting awaiting, step_of_awaiting otherAwaiting,
      resume, keys, agreeOn_cons, Part.Agree]
    cases second.core.keys.first? with
    | none => simp [awaiting, otherAwaiting, v]
    | some key => simp [withCore, Core.set, v]
  · rw [isAt.stepWrites_eq, isAt.step_machine, otherAt.step_machine]
    refine agreeOn_cons.mpr ⟨?_, exec_congr reads⟩
    by_cases jumps : .pc ∈ instruction.writes
    · exact exec_congr reads .pc jumps
    · -- Both program counters are where the fetch has left them.
      have behind := Part.agree_trans (exec_frame first.advanced _ .pc jumps) advancedPc
      exact Part.agree_trans behind (Part.agree_symm (exec_frame second.advanced _ .pc jumps))
  · simp only [stepWrites, running, outside, ↓reduceIte, agreeOn_nil]

/-- Parts that a step does not read stay hidden: machines that differ only there report the same
result, and afterwards still differ only there. -/
theorem step_congr_off {hidden : List Part} (agree : ∀ part ∉ hidden, part.Agree first second)
    (unread : ∀ part ∈ hidden, part ∉ first.stepReads) :
    first.step.result = second.step.result ∧
      ∀ part ∉ hidden, part.Agree first.step.machine second.step.machine := by
  have reads : AgreeOn first.stepReads first second := by
    intro part read
    exact agree part fun member => unread part member read
  refine ⟨step_result_congr reads, ?_⟩
  exact agree_off_of_writes agree (step_congr reads) step_frame
    (fun part untouched => step_frame part (stepWrites_congr reads ▸ untouched))

/-! ## Changes of parts that a step does not use -/

/-- A change of some parts of a machine that looks at these parts only. -/
structure IsLocal (parts : List Part) (change : Machine → Machine) : Prop where
  frame : ∀ machine, ∀ part ∉ parts, part.Agree (change machine) machine
  congr : ∀ first second, AgreeOn parts first second →
    AgreeOn parts (change first) (change second)

/-- A change of parts that a step does not use commutes with the step. -/
theorem step_comm {machine : Machine} {parts : List Part} {change : Machine → Machine}
    (isLocal : IsLocal parts change) (unread : ∀ part ∈ parts, part ∉ machine.stepReads)
    (unwritten : ∀ part ∈ parts, part ∉ machine.stepWrites) :
    (change machine).step.result = machine.step.result ∧
      (change machine).step.machine = change machine.step.machine := by
  have agree : ∀ part ∉ parts, part.Agree machine (change machine) := by
    intro part other
    exact Part.agree_symm (isLocal.frame machine part other)
  obtain ⟨result, visible⟩ := step_congr_off agree unread
  refine ⟨result.symm, eq_of_agree fun part => ?_⟩
  by_cases changed : part ∈ parts
  · have reads : AgreeOn machine.stepReads machine (change machine) := by
      intro read member
      exact agree read fun touched => unread read touched member
    have otherUnwritten : part ∉ (change machine).stepWrites :=
      stepWrites_congr reads ▸ unwritten part changed
    have kept : AgreeOn parts machine machine.step.machine := by
      intro other member
      exact Part.agree_symm (step_frame other (unwritten other member))
    exact Part.agree_trans (step_frame part otherUnwritten) (isLocal.congr _ _ kept part changed)
  · have before := Part.agree_symm (visible part changed)
    exact Part.agree_trans before (Part.agree_symm (isLocal.frame _ part changed))

end Machine

end Chip8
