import Chip8.Proofs.Console
import Chip8.Proofs.Control
import Chip8.Proofs.Display
import Chip8.Proofs.Loading

/-!
# Invariants of consoles

Bounds on the program counter and the call stack, and the two values of cells, that every run from
a new machine keeps, as long as the host does not write the program counter, return addresses or
cells itself (`Console.serve_isSound`).
-/

namespace Chip8

/-- Whether a request leaves the program counter, the return addresses and the values of cells to
the machine. -/
def Request.isOrdinary : Request → Bool
  | .push _ | .setPc _ | .setCell .. => false
  | _ => true

/-- What ordinary requests keep. -/
structure Core.IsSound (core : Core) : Prop where
  pc_le : core.pc.toNat ≤ 0x10FE
  depth_le : core.stack.length ≤ stackLimit
  entries : ∀ address ∈ core.stack, 2 ≤ address.toNat ∧ address.toNat ≤ memorySize
  binary : core.display.IsBinary

namespace Core

theorem initial_isSound : initial.IsSound where
  pc_le := by decide
  depth_le := by decide
  entries := by
    intro address member
    cases member
  binary := Display.blank_isBinary

/-- Only three parts of a core matter. -/
theorem IsSound.congr {core other : Core} (sound : core.IsSound) (pc : other.pc = core.pc)
    (stack : other.stack = core.stack) (display : other.display = core.display) :
    other.IsSound where
  pc_le := pc ▸ sound.pc_le
  depth_le := stack ▸ sound.depth_le
  entries := stack ▸ sound.entries
  binary := display ▸ sound.binary

theorem IsSound.withDisplay {core : Core} (sound : core.IsSound) {display : Display}
    (binary : display.IsBinary) : IsSound { core with display } :=
  ⟨sound.pc_le, sound.depth_le, sound.entries, binary⟩

theorem IsSound.withStack {core : Core} (sound : core.IsSound) {stack : List UInt16}
    (fewer : stack.Sublist core.stack) : IsSound { core with stack } where
  pc_le := sound.pc_le
  depth_le := Nat.le_trans fewer.length_le sound.depth_le
  entries := fun address member => sound.entries address (fewer.subset member)
  binary := sound.binary

end Core

namespace Machine

/-! ## Steps -/

/-- Only drawing and clearing change the display, and they leave it binary. -/
theorem exec_display_isBinary {machine : Machine} (binary : machine.core.display.IsBinary)
    (instruction : Instruction) : (machine.exec instruction).2.core.display.IsBinary := by
  cases instruction with
  | clearScreen => exact Display.blank_isBinary
  | draw x y height =>
      simp only [exec, attempts_snd, withCore, Core.outcome_drawSprite]
      split
      · exact binary.drawSprite _ _ _
      · exact binary
  | _ =>
      refine Eq.subst (motive := Display.IsBinary) (exec_frame machine _ .display ?_).symm binary
      simp [Instruction.writes]

theorem step_isSound {machine : Machine} (sound : machine.core.IsSound) :
    machine.step.machine.core.IsSound := by
  obtain same | ⟨x, key, _, resumed⟩ | ⟨running, inside, executed⟩ := machine.step_machine_cases
  · rw [same]
    exact sound
  · rw [resumed]
    exact sound.congr rfl rfl rfl
  · have counter := advanced_pc inside
    have counterLe := advanced_pc_le inside
    constructor
    · rw [step_pc running inside]
      have below : machine.core.pc.toNat + 2 ≤ 0xFFF := counter ▸ counterLe
      split
      · apply target_le counterLe _ (Nat.le_refl _)
        intro address member
        exact Nat.le_trans (sound.entries address member).2 (by decide)
      · omega
    · rw [executed, exec_stack]
      apply Instruction.length_stackAfter_le
      exact sound.depth_le
    · rw [executed, exec_stack]
      intro address member
      obtain rfl | member := Instruction.mem_stackAfter member
      · exact ⟨counter ▸ Nat.le_add_left .., counterLe⟩
      · exact sound.entries address member
    · rw [executed]
      apply exec_display_isBinary
      exact sound.binary

theorem continueRun_isSound (count : Nat) {report : Report Flow}
    (sound : report.machine.core.IsSound) :
    (continueRun count report).machine.core.IsSound := by
  refine continueRun_keeps (fun machine => machine.core.IsSound) ?_ count report sound
  intro machine
  exact step_isSound

/-! ## The index register -/

/-- A block of registers that is stored or loaded lies in memory, and the index register moves past
it without wrapping. -/
theorem step_index {machine : Machine} {x : Register} {flow : Flow}
    (running : machine.core.keyWait = none) (inside : machine.core.CanFetch)
    (transfer : machine.core.instruction = .store x ∨ machine.core.instruction = .load x)
    (done : machine.step.result = .ok flow) :
    machine.step.machine.core.i.toNat = machine.core.i.toNat + x.val + 1 ∧
      machine.core.i.toNat + x.val + 1 ≤ memorySize := by
  have sound : machine.core.instruction.fault? machine.advanced.core = none :=
    (exists_step_result_eq_ok_iff running inside).mp ⟨flow, done⟩
  have fits : machine.advanced.core.i.toNat + (x.val + 1) ≤ memorySize := by
    obtain stores | loads := transfer
    · simpa [stores, Instruction.fault?, Instruction.extent?] using sound
    · simpa [loads, Instruction.fault?, Instruction.extent?] using sound
  have past : machine.step.machine.core.i = machine.core.indexPast x := by
    rw [step_machine running inside]
    obtain stores | loads := transfer
    · rw [stores, exec, attempts_snd, Core.outcome_storeRegisters, if_pos fits]
      rfl
    · rw [loads, exec, attempts_snd, Core.outcome_loadRegisters, if_pos fits]
      rfl
  rw [past]
  exact ⟨Core.toNat_indexPast fits, fits⟩

end Machine

namespace Console

variable {σ : Type} (beeper : Beeper σ)

theorem attempt_map_isSound {α : Type} {console : Console σ} {result : Except Fault α}
    {next : α → Machine} (sound : console.machine.core.IsSound)
    (keeps : ∀ value, (next value).core.IsSound) :
    (console.attempt (result.map next)).2.machine.core.IsSound :=
  attempt_map_keeps (fun machine => machine.core.IsSound) sound keeps

/-- Ordinary requests keep a machine sound, also those that fail. -/
theorem serve_isSound (console : Console σ) (request : Request) (ordinary : request.isOrdinary)
    (sound : console.machine.core.IsSound) :
    (console.serve beeper request).2.machine.core.IsSound := by
  cases request with
  | load program =>
      obtain ⟨memory, loaded⟩ := console.machine.load_machine program
      simp only [serve, withMachine, loaded]
      exact Core.initial_isSound.congr rfl rfl rfl
  | loadFile contents =>
      cases contents with
      | ok program =>
          obtain ⟨memory, loaded⟩ := console.machine.load_machine program
          simp only [serve, withMachine, Machine.loadFile, loaded]
          exact Core.initial_isSound.congr rfl rfl rfl
      | error cause => exact Core.initial_isSound
  | loadFont glyphs =>
      simp only [serve, Machine.loadFont_eq_map]
      exact attempt_map_isSound sound fun memory => sound.congr rfl rfl rfl
  | reset => exact Core.initial_isSound
  | step => exact Machine.step_isSound sound
  | run count => exact Machine.continueRun_isSound count sound
  | frame =>
      refine Machine.continueRun_isSound _ ?_
      rw [Machine.tick_machine]
      exact sound.congr rfl rfl rfl
  | tick =>
      simp only [serve, Machine.tick_machine]
      exact sound.congr rfl rfl rfl
  | setRegister index value => exact attempt_map_isSound sound fun x => sound.congr rfl rfl rfl
  | write address value => exact attempt_map_isSound sound fun memory => sound.congr rfl rfl rfl
  | writeBlock address block =>
      simp only [serve, Machine.writeBlock_eq_map]
      cases console.machine.core.memory.writeBlock address block with
      | ok memory => exact sound.congr rfl rfl rfl
      | error fault => exact sound
  | pop =>
      simp only [serve, Core.pop?]
      cases entries : console.machine.core.stack with
      | nil => exact sound
      | cons address rest => exact sound.withStack (entries ▸ List.sublist_cons_self address rest)
  | fetch =>
      simp only [serve, change, Core.outcome_fetchNext]
      split
      next inside =>
        refine ⟨?_, sound.depth_le, sound.entries, sound.binary⟩
        exact Nat.le_trans (Machine.advanced_pc_le inside) (by decide)
      next => exact sound
  | clearDisplay => exact sound.withDisplay Display.blank_isBinary
  | toggle x y => exact sound.withDisplay (sound.binary.toggle x y)
  | drawRow x y row => exact sound.withDisplay (sound.binary.toggleAll _)
  | push | setPc | setCell => cases ordinary
  | _ => exact sound.congr rfl rfl rfl

/-- **What ordinary runs keep.** After any run from a new machine in which the host does not set the
program counter, return addresses or cells, also one that goes on after failures, the program
counter, the call stack, the waiting register and the bytes of the display are within their bounds.
In no machine at all does a step wrap the program counter, or the index register when registers are
stored or loaded. -/
theorem run_of_create (bell : σ) (config : Config) (entropy : Secret) (requests : List Request)
    (ordinary : ∀ request ∈ requests, request.isOrdinary) :
    let console : Console σ := ⟨.create config entropy, bell⟩
    let core := (console.run beeper requests).machine.core
    core.pc.toNat ≤ 0x10FE ∧
    core.stack.length ≤ 255 ∧
    (∀ address ∈ core.stack, 0x002 ≤ address.toNat ∧ address.toNat ≤ 0xFFF) ∧
    (∀ x, core.keyWait = some x → x.val < 16) ∧
    (∀ x y, Display.onGrid x y → ∃ value : UInt8, (value = 0x00 ∨ value = 0xFF) ∧
      ∀ channel < 3, core.display.rgb[3 * (x + y * displayWidth) + channel]? = some value) ∧
    (∀ machine : Machine, machine.core.keyWait = none → machine.core.CanFetch →
      machine.advanced.core.pc.toNat = machine.core.pc.toNat + 2 ∧
      (machine.step.machine.core.pc.toNat =
        match machine.step.result with
        | .ok _ => machine.core.instruction.target machine.advanced.core
        | .error _ => machine.core.pc.toNat + 2) ∧
      ∀ x flow, (machine.core.instruction = .store x ∨ machine.core.instruction = .load x) →
        machine.step.result = .ok flow →
          machine.step.machine.core.i.toNat = machine.core.i.toNat + x.val + 1 ∧
            machine.core.i.toNat + x.val + 1 ≤ memorySize) := by
  intro console core
  have sound : core.IsSound :=
    run_keeps beeper (fun console => console.machine.core.IsSound)
      (fun request => request.isOrdinary) (serve_isSound beeper) requests console ordinary
      Core.initial_isSound
  refine ⟨sound.pc_le, sound.depth_le, sound.entries, fun x _ => x.isLt, ?_, ?_⟩
  · intro x y inside
    obtain ⟨value, found⟩ : ∃ value, core.display.cell? x y = some value := ⟨_, dif_pos inside⟩
    refine ⟨value, (sound.binary x y value found).symm, ?_⟩
    intro channel within
    rw [Display.getElem?_rgb core.display inside within, found]
  · intro machine running inside
    refine ⟨Machine.advanced_pc inside, Machine.step_pc running inside, ?_⟩
    intro x flow
    exact Machine.step_index running inside

/-- A program that calls itself without end is an ordinary run. -/
theorem run_of_create_recursion :
    let requests : List Request := [.load [0x22, 0x00], .run 300, .pop, .frame]
    let console : Console Unit := ⟨.create {} (Vector.replicate 8 0), ()⟩
    let core := (console.run (.silent Unit) requests).machine.core
    (∀ request ∈ requests, request.isOrdinary) ∧
      core.pc.toNat ≤ 0x10FE ∧ core.stack.length ≤ 255 ∧
      ∀ address ∈ core.stack, 0x002 ≤ address.toNat ∧ address.toNat ≤ 0xFFF := by
  have ordinary : ∀ request ∈ ([.load [0x22, 0x00], .run 300, .pop, .frame] : List Request),
      request.isOrdinary := by decide
  obtain ⟨counter, depth, entries, _⟩ :=
    run_of_create (.silent Unit) () {} (Vector.replicate 8 0) _ ordinary
  exact ⟨ordinary, counter, depth, entries⟩

end Console

end Chip8
