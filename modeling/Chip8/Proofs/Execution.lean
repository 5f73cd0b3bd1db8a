import Chip8.Machine.Run
import Chip8.Proofs.Memory

/-!
# Execution

What the actions of the core do, in closed form, and what a step is made of. An instruction raises
exactly the fault that `Instruction.fault?` names (`Machine.exec_fst`), and then leaves the machine
as it was (`Machine.exec_snd_of_error`). In any case only the parts of the machine in
`Instruction.writes` change (`Machine.exec_frame`).
-/

namespace Chip8

/-! ## Actions of the core -/

namespace Core

/-- The word at the program counter, high byte first. -/
def word (core : Core) : UInt16 :=
  UInt16.ofNat ((core.memory.byteAt core.pc.toNat).toNat * 256 +
    (core.memory.byteAt (core.pc.toNat + 1)).toNat)

/-- The instruction at the program counter. -/
def instruction (core : Core) : Instruction := Instruction.decode core.word

/-- Both bytes of the word at the program counter lie in memory. -/
abbrev CanFetch (core : Core) : Prop := core.pc.toNat + 1 < memorySize

/-- The core with the program counter past the word. -/
def advanced (core : Core) : Core := { core with pc := core.pc + 2 }

theorem fetch_eq (core : Core) :
    core.fetch =
      if core.CanFetch then .ok (core.word, core.advanced)
      else .error (.memoryOutOfBounds (max core.pc.toNat memorySize)) := by
  simp only [fetch, Memory.read_eq]
  by_cases first : core.pc.toNat < memorySize
  · by_cases second : core.CanFetch
    · simp only [first, second, ↓reduceIte]
      rfl
    · have last : max core.pc.toNat memorySize = core.pc.toNat + 1 := by omega
      simp only [first, second, ↓reduceIte, last]
      rfl
  · have outside : ¬ core.CanFetch := by omega
    have last : max core.pc.toNat memorySize = core.pc.toNat := by omega
    simp only [first, outside, ↓reduceIte, last]
    rfl

/-- A fetch fails exactly if the word does not lie in memory, and then moves nothing. -/
theorem outcome_fetchNext (core : Core) :
    fetchNext.outcome core =
      if core.CanFetch then (.ok core.word, core.advanced)
      else (.error (.memoryOutOfBounds (max core.pc.toNat memorySize)), core) := by
  simp only [fetchNext, Action.outcome_bind, Action.outcome_state, Action.outcome_lift, fetch_eq]
  by_cases inside : core.CanFetch
  · simp only [inside, ↓reduceIte]
    rfl
  · simp only [inside, ↓reduceIte]

/-- A call fails exactly on a full stack, and then pushes nothing. -/
theorem outcome_call (core : Core) (address : AddressOperand) :
    (call address).outcome core =
      if core.stack.length < stackLimit then
        (.ok (), { core with stack := core.pc :: core.stack, pc := UInt16.ofNat address.val })
      else (.error (.stackOverflow core.pc), core) := by
  simp only [call, Action.outcome_bind, Action.outcome_update, Action.outcome_modify, push]
  by_cases room : core.stack.length < stackLimit
  · simp only [room, Nat.not_le_of_lt room, ↓reduceIte]
  · simp only [room, Nat.le_of_not_lt room, ↓reduceIte]

/-- A return fails exactly on an empty stack. -/
theorem outcome_returnToCaller (core : Core) :
    returnToCaller.outcome core =
      match core.stack with
      | [] => (.error (.stackUnderflow core.pc), core)
      | address :: rest => (.ok (), { core with pc := address, stack := rest }) := by
  simp only [returnToCaller, Action.outcome_bind, Action.outcome_state, pop?]
  cases core.stack <;> rfl

/-- The core after drawing a sprite. -/
def drawn (core : Core) (x y : Register) (height : Nat) : Core :=
  let drawn := core.display.drawSprite (core.get x).toNat (core.get y).toNat
    (core.memory.blockAt core.i.toNat height)
  { core with display := drawn.1 }.setFlag drawn.2

theorem outcome_drawSprite (core : Core) (x y : Register) (height : Nat) :
    (drawSprite x y height).outcome core =
      if core.i.toNat + height ≤ memorySize then (.ok (), core.drawn x y height)
      else (.error (Memory.blockFault core.i.toNat height), core) := by
  simp only [drawSprite, Action.outcome_bind, Action.outcome_state, Action.outcome_lift,
    Action.outcome_replace, Action.outcome_modify, Memory.readBlock_eq]
  by_cases inside : core.i.toNat + height ≤ memorySize
  · simp only [inside, ↓reduceIte]
    rfl
  · simp only [inside, ↓reduceIte]

theorem outcome_storeDecimal (core : Core) (x : Register) :
    (storeDecimal x).outcome core =
      if core.i.toNat + 3 ≤ memorySize then
        (.ok (), { core with
          memory := core.memory.store core.i.toNat (decimalDigits (core.get x)) })
      else (.error (Memory.blockFault core.i.toNat 3), core) := by
  have digits : (decimalDigits (core.get x)).length = 3 := rfl
  simp only [storeDecimal, Action.outcome_update, writeBlock, Memory.writeBlock_eq, digits]
  by_cases inside : core.i.toNat + 3 ≤ memorySize
  · simp only [inside, ↓reduceIte]
    rfl
  · simp only [inside, ↓reduceIte]
    rfl

theorem length_firstRegisters (core : Core) (x : Register) :
    (core.firstRegisters x).length = x.val + 1 := by
  simp only [firstRegisters, List.length_take, Vector.length_toList]
  omega

/-- The index register does not wrap at the end of a block that lies in memory. -/
theorem toNat_indexPast {core : Core} {x : Register}
    (fits : core.i.toNat + x.val + 1 ≤ memorySize) :
    (core.indexPast x).toNat = core.i.toNat + x.val + 1 := by
  have length : (UInt16.ofNat (x.val + 1)).toNat = x.val + 1 :=
    UInt16.toNat_ofNat_of_lt (by simp only [UInt16.size]; omega)
  rw [indexPast, UInt16.toNat_add, length]
  simp only [memorySize] at fits
  omega

theorem outcome_storeRegisters (core : Core) (x : Register) :
    (storeRegisters x).outcome core =
      if core.i.toNat + (x.val + 1) ≤ memorySize then
        (.ok (), { core with
          memory := core.memory.store core.i.toNat (core.firstRegisters x)
          i := core.indexPast x })
      else (.error (Memory.blockFault core.i.toNat (x.val + 1)), core) := by
  simp only [storeRegisters, Action.outcome_bind, Action.outcome_update, Action.outcome_modify,
    writeBlock, Memory.writeBlock_eq, length_firstRegisters]
  by_cases inside : core.i.toNat + (x.val + 1) ≤ memorySize
  · simp only [inside, ↓reduceIte, indexPast]
    rfl
  · simp only [inside, ↓reduceIte]
    rfl

theorem outcome_loadRegisters (core : Core) (x : Register) :
    (loadRegisters x).outcome core =
      if core.i.toNat + (x.val + 1) ≤ memorySize then
        (.ok (), { core with
          v := (core.setFirstRegisters (core.memory.blockAt core.i.toNat (x.val + 1))).v
          i := core.indexPast x })
      else (.error (Memory.blockFault core.i.toNat (x.val + 1)), core) := by
  simp only [loadRegisters, Action.outcome_bind, Action.outcome_state, Action.outcome_lift,
    Action.outcome_modify, Memory.readBlock_eq]
  by_cases inside : core.i.toNat + (x.val + 1) ≤ memorySize
  · simp only [inside, ↓reduceIte, setFirstRegisters, indexPast]
  · simp only [inside, ↓reduceIte]

end Core

/-! ## Failing without an effect -/

/-- A failure of the action leaves the state as it was. -/
def Action.IsAtomic {σ α : Type} (action : Action σ α) : Prop :=
  ∀ before fault, (action.outcome before).1 = .error fault → (action.outcome before).2 = before

/-- An action that checks before it changes anything is atomic. -/
theorem Action.isAtomic_of_guard {σ : Type} {action : Action σ Unit} {guard : σ → Prop}
    [DecidablePred guard] {next : σ → σ} {raised : σ → Fault}
    (spec : ∀ before, action.outcome before =
      if guard before then (.ok (), next before) else (.error (raised before), before)) :
    action.IsAtomic := by
  intro before fault failed
  rw [spec] at failed ⊢
  split at failed
  next => cases failed
  next refused => simp only [refused, ↓reduceIte]

namespace Core

theorem returnToCaller_isAtomic : Action.IsAtomic returnToCaller := by
  intro before fault failed
  rw [outcome_returnToCaller] at failed ⊢
  cases stack : before.stack with
  | nil => rfl
  | cons address rest =>
      rw [stack] at failed
      cases failed

theorem call_isAtomic (address : AddressOperand) : Action.IsAtomic (call address) :=
  Action.isAtomic_of_guard fun before => outcome_call before address

theorem drawSprite_isAtomic (x y : Register) (height : Nat) :
    Action.IsAtomic (drawSprite x y height) :=
  Action.isAtomic_of_guard fun before => outcome_drawSprite before x y height

theorem storeDecimal_isAtomic (x : Register) : Action.IsAtomic (storeDecimal x) :=
  Action.isAtomic_of_guard fun before => outcome_storeDecimal before x

theorem storeRegisters_isAtomic (x : Register) : Action.IsAtomic (storeRegisters x) :=
  Action.isAtomic_of_guard fun before => outcome_storeRegisters before x

theorem loadRegisters_isAtomic (x : Register) : Action.IsAtomic (loadRegisters x) :=
  Action.isAtomic_of_guard fun before => outcome_loadRegisters before x

end Core

/-! ## Instructions -/

namespace Instruction

/-- The number of bytes at the index register that an instruction reads or writes. -/
def extent? : Instruction → Option Nat
  | .draw _ _ height => some height.val
  | .decimal _ => some 3
  | .store x => some (x.val + 1)
  | .load x => some (x.val + 1)
  | _ => none

/-- The fault that an instruction raises, with the program counter already past it. -/
def fault? (core : Core) : Instruction → Option Fault
  | .ret => if core.stack = [] then some (.stackUnderflow core.pc) else none
  | .call _ => if core.stack.length < stackLimit then none else some (.stackOverflow core.pc)
  | instruction =>
    instruction.extent?.bind fun length =>
      if core.i.toNat + length ≤ memorySize then none
      else some (Memory.blockFault core.i.toNat length)

/-- The flow of an instruction that raises no fault. -/
def flow (core : Core) : Instruction → Flow
  | .clearScreen | .draw .. => .draw
  | .ret | .jump _ | .call _ | .jumpOffset _ => .jump
  | .setSound _ => .sound
  | .awaitKey _ => if core.keys.first? = none then .keyWait else .ok
  | _ => .ok

end Instruction

namespace Machine

theorem attempts_fst (machine : Machine) (flow : Flow) (action : Action Core Unit) :
    (machine.attempts flow action).1 = (action.outcome machine.core).1.map fun _ => flow := rfl

theorem attempts_snd (machine : Machine) (flow : Flow) (action : Action Core Unit) :
    (machine.attempts flow action).2 = machine.withCore (action.outcome machine.core).2 := rfl

/-- The result of an instruction. -/
theorem exec_fst (machine : Machine) (instruction : Instruction) :
    (machine.exec instruction).1 =
      match instruction.fault? machine.core with
      | some fault => .error fault
      | none => .ok (instruction.flow machine.core) := by
  cases instruction with
  | ret =>
      simp only [exec, attempts_fst, Core.outcome_returnToCaller, Instruction.fault?]
      cases machine.core.stack <;> rfl
  | call address =>
      simp only [exec, attempts_fst, Core.outcome_call, Instruction.fault?]
      split <;> rfl
  | draw x y height =>
      simp only [exec, attempts_fst, Core.outcome_drawSprite, Instruction.fault?,
        Instruction.extent?, Option.bind_some]
      split <;> rfl
  | decimal x =>
      simp only [exec, attempts_fst, Core.outcome_storeDecimal, Instruction.fault?,
        Instruction.extent?, Option.bind_some]
      split <;> rfl
  | store x =>
      simp only [exec, attempts_fst, Core.outcome_storeRegisters, Instruction.fault?,
        Instruction.extent?, Option.bind_some]
      split <;> rfl
  | load x =>
      simp only [exec, attempts_fst, Core.outcome_loadRegisters, Instruction.fault?,
        Instruction.extent?, Option.bind_some]
      split <;> rfl
  | awaitKey x =>
      simp only [exec, Instruction.fault?, Instruction.extent?, Option.bind_none,
        Instruction.flow]
      cases machine.core.keys.first? <;> rfl
  | _ => rfl

theorem attempts_snd_of_error {machine : Machine} {flow : Flow} {action : Action Core Unit}
    {fault : Fault} (atomic : action.IsAtomic)
    (failed : (machine.attempts flow action).1 = .error fault) :
    (machine.attempts flow action).2 = machine := by
  rw [attempts_fst] at failed
  cases result : (action.outcome machine.core).1 with
  | ok value =>
      rw [result] at failed
      cases failed
  | error raised => rw [attempts_snd, atomic _ _ result, withCore]

/-- An instruction that raises a fault leaves the machine as it was. -/
theorem exec_snd_of_error {machine : Machine} {instruction : Instruction} {fault : Fault}
    (failed : (machine.exec instruction).1 = .error fault) :
    (machine.exec instruction).2 = machine := by
  cases instruction with
  | ret => exact attempts_snd_of_error Core.returnToCaller_isAtomic failed
  | call address => exact attempts_snd_of_error (Core.call_isAtomic address) failed
  | draw x y height => exact attempts_snd_of_error (Core.drawSprite_isAtomic x y height) failed
  | decimal x => exact attempts_snd_of_error (Core.storeDecimal_isAtomic x) failed
  | store x => exact attempts_snd_of_error (Core.storeRegisters_isAtomic x) failed
  | load x => exact attempts_snd_of_error (Core.loadRegisters_isAtomic x) failed
  | awaitKey x =>
      rw [exec_fst] at failed
      cases failed
  | _ => cases failed

end Machine

/-! ## What instructions change -/

/-- A part of a machine that instructions change as a whole. -/
inductive Part where
  | pc
  | registers
  | index
  | delay
  | sound
  | keyWait
  | keys
  | memory
  | stack
  | display
  | random
  | config
  deriving DecidableEq

/-- The two machines agree on the part. -/
def Part.Agree (first second : Machine) : Part → Prop
  | .pc => first.core.pc = second.core.pc
  | .registers => first.core.v = second.core.v
  | .index => first.core.i = second.core.i
  | .delay => first.core.delay = second.core.delay
  | .sound => first.core.sound = second.core.sound
  | .keyWait => first.core.keyWait = second.core.keyWait
  | .keys => first.core.keys = second.core.keys
  | .memory => first.core.memory = second.core.memory
  | .stack => first.core.stack = second.core.stack
  | .display => first.core.display = second.core.display
  | .random => first.random = second.random
  | .config => first.config = second.config

theorem Part.agree_refl (machine : Machine) (part : Part) : part.Agree machine machine := by
  cases part <;> rfl

theorem Part.agree_symm {part : Part} {first second : Machine} (agree : part.Agree first second) :
    part.Agree second first := by
  cases part <;> exact Eq.symm agree

theorem Part.agree_trans {part : Part} {first second third : Machine}
    (before : part.Agree first second) (after : part.Agree second third) :
    part.Agree first third := by
  cases part <;> exact Eq.trans before after

/-- The parts that an instruction can change. -/
def Instruction.writes : Instruction → List Part
  | .clearScreen => [.display]
  | .ret | .call _ => [.pc, .stack]
  | .jump _ | .jumpOffset _ => [.pc]
  | .skipIfByte .. | .skipUnlessByte .. | .skipIfEqual .. | .skipUnlessEqual .. => [.pc]
  | .skipIfPressed _ | .skipUnlessPressed _ => [.pc]
  | .loadByte .. | .addByte .. | .move .. | .or .. | .and .. | .xor .. => [.registers]
  | .add .. | .sub .. | .shiftRight _ | .subReverse .. | .shiftLeft _ => [.registers]
  | .loadDelay _ => [.registers]
  | .loadIndex _ | .addIndex _ | .glyph _ => [.index]
  | .random .. => [.registers, .random]
  | .draw .. => [.registers, .display]
  | .awaitKey _ => [.registers, .keyWait]
  | .setDelay _ => [.delay]
  | .setSound _ => [.sound]
  | .decimal _ => [.memory]
  | .store _ => [.index, .memory]
  | .load _ => [.registers, .index]
  | .unknown _ => []

namespace Machine

/-- A skip changes only the program counter. -/
theorem skipIf_frame (machine : Machine) (condition : Bool) (part : Part)
    (untouched : part ∉ [Part.pc]) :
    part.Agree (machine.withCore (machine.core.skipIf condition)) machine := by
  cases condition with
  | false => exact part.agree_refl machine
  | true => cases part <;> first | (simp at untouched; done) | rfl

theorem registers_frame (machine : Machine) (v : Vector UInt8 16) (part : Part)
    (untouched : part ∉ [Part.registers]) :
    part.Agree (machine.withCore { machine.core with v }) machine := by
  cases part <;> first | (simp at untouched; done) | rfl

/-- An instruction changes no part but those it writes. -/
theorem exec_frame (machine : Machine) (instruction : Instruction) (part : Part)
    (untouched : part ∉ instruction.writes) :
    part.Agree (machine.exec instruction).2 machine := by
  cases instruction with
  | skipIfByte | skipUnlessByte | skipIfEqual | skipUnlessEqual | skipIfPressed
  | skipUnlessPressed => exact skipIf_frame machine _ part untouched
  | loadByte | addByte | move | or | and | xor | add | sub | shiftRight | subReverse | shiftLeft
  | loadDelay => exact registers_frame machine _ part untouched
  | ret =>
      simp only [exec, attempts_snd, Core.outcome_returnToCaller]
      cases machine.core.stack <;> cases part <;>
        first | (simp [Instruction.writes] at untouched; done) | rfl
  | call address =>
      simp only [exec, attempts_snd, Core.outcome_call]
      split <;> cases part <;> first | (simp [Instruction.writes] at untouched; done) | rfl
  | draw x y height =>
      simp only [exec, attempts_snd, Core.outcome_drawSprite]
      split <;> cases part <;> first | (simp [Instruction.writes] at untouched; done) | rfl
  | decimal x =>
      simp only [exec, attempts_snd, Core.outcome_storeDecimal]
      split <;> cases part <;> first | (simp [Instruction.writes] at untouched; done) | rfl
  | store x =>
      simp only [exec, attempts_snd, Core.outcome_storeRegisters]
      split <;> cases part <;> first | (simp [Instruction.writes] at untouched; done) | rfl
  | load x =>
      simp only [exec, attempts_snd, Core.outcome_loadRegisters]
      split <;> cases part <;>
        first | (simp [Instruction.writes] at untouched; done) | simp only [Part.Agree, withCore]
  | awaitKey x =>
      simp only [exec]
      split <;> cases part <;> first | (simp [Instruction.writes] at untouched; done) | rfl
  | _ => cases part <;> first | (simp [Instruction.writes] at untouched; done) | rfl

/-- Only decimal digits and stored registers change memory, and only the bytes that they cover. -/
theorem exec_memory_cases {machine : Machine} {instruction : Instruction} {address : Nat}
    (changed : (machine.exec instruction).2.core.memory.byteAt address ≠
      machine.core.memory.byteAt address) :
    machine.core.i.toNat ≤ address ∧ ∃ x,
      (instruction = .decimal x ∧ address ≤ machine.core.i.toNat + 2) ∨
      (instruction = .store x ∧ address ≤ machine.core.i.toNat + x.val) := by
  have covered : ∀ block : List UInt8,
      (machine.core.memory.store machine.core.i.toNat block).byteAt address ≠
        machine.core.memory.byteAt address →
      machine.core.i.toNat ≤ address ∧ address < machine.core.i.toNat + block.length := by
    intro block changed
    refine Decidable.byContradiction fun apart => changed ?_
    apply Memory.byteAt_store_of_outside
    omega
  cases instruction with
  | decimal x =>
      simp only [exec, attempts_snd, withCore, Core.outcome_storeDecimal] at changed
      split at changed
      · obtain ⟨first, last⟩ := covered _ changed
        exact ⟨first, x, .inl ⟨rfl, Nat.le_of_lt_succ last⟩⟩
      · exact absurd rfl changed
  | store x =>
      simp only [exec, attempts_snd, withCore, Core.outcome_storeRegisters] at changed
      split at changed
      · obtain ⟨first, last⟩ := covered _ changed
        rw [Core.length_firstRegisters] at last
        exact ⟨first, x, .inr ⟨rfl, Nat.le_of_lt_succ last⟩⟩
      · exact absurd rfl changed
  | _ =>
      refine absurd (congrArg (Memory.byteAt · address) (exec_frame machine _ .memory ?_)) changed
      simp [Instruction.writes]

end Machine

end Chip8
