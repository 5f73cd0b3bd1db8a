import Chip8.Proofs.Configuration

/-!
# Loading forgets the past

The core that loading leaves is determined by the program. Two consoles whose generators agree
answer all requests alike from a load on, if their frames are equally long
(`Console.load_forgets`).
-/

namespace Chip8

/-- Whether a request loads a program. -/
def Request.isLoad : Request → Bool
  | .load _ | .loadFile _ => true
  | _ => false

/-- Loading depends on the generator and the configuration, and not on the core before. -/
theorem Machine.loadFile_eq_withConfig {first second : Machine}
    (random : first.random = second.random) (contents : Except IoFault (List UInt8)) :
    second.loadFile contents = (first.loadFile contents).withConfig second.config := by
  have same : second = (first.withCore second.core).withConfig second.config := by
    rw [withConfig, withCore, random]
  rw [same, loadFile_withConfig, loadFile_withCore]
  rfl

namespace Console

variable {σ τ : Type} (beeper : Beeper σ) (otherBeeper : Beeper τ)

theorem serve_isLoad {first : Console σ} {second : Console τ} {request : Request}
    (isLoad : request.isLoad) (random : first.machine.random = second.machine.random) :
    (second.serve otherBeeper request).1 = (first.serve beeper request).1 ∧
      (second.serve otherBeeper request).2.machine =
        (first.serve beeper request).2.machine.withConfig second.machine.config := by
  cases request with
  | load program =>
      have loaded : second.machine.load program =
          (first.machine.load program).withConfig second.machine.config :=
        Machine.loadFile_eq_withConfig random (.ok program)
      simp only [serve, loaded]
      exact ⟨rfl, rfl⟩
  | loadFile contents =>
      simp only [serve, Machine.loadFile_eq_withConfig random contents]
      exact ⟨rfl, rfl⟩
  | _ => cases isLoad

theorem run_isLoad {first : Console σ} {second : Console τ} {request : Request}
    (isLoad : request.isLoad) (random : first.machine.random = second.machine.random)
    {requests : List Request}
    (pace : .frame ∈ requests →
      first.machine.config.cyclesPerFrame = second.machine.config.cyclesPerFrame) :
    second.answers otherBeeper (request :: requests) =
        first.answers beeper (request :: requests) ∧
      (second.run otherBeeper (request :: requests)).machine =
        (first.run beeper (request :: requests)).machine.withConfig second.machine.config := by
  obtain ⟨answer, next⟩ := serve_isLoad beeper otherBeeper isLoad random
  have paced : .frame ∈ requests →
      (first.serve beeper request).2.machine.config.cyclesPerFrame =
        second.machine.config.cyclesPerFrame := by
    rw [serve_config]
    exact pace
  obtain ⟨answers, last⟩ := run_withConfig beeper otherBeeper next paced
  rw [run_cons, run_cons, Console.answers, Console.answers, answer, answers]
  exact ⟨rfl, last⟩

/-- **Loading forgets the past.** What loading a program answers, and the core that it leaves,
depend on the program alone: a program that fits is found behind the built-in glyphs in a core that
is otherwise new, and one that does not leaves a new core. A program is loaded from its file alike,
and a file that cannot be read leaves a new core. From a load on, two consoles whose generators
agree answer all requests alike, as long as their frames, if there are any, are equally long. -/
theorem load_forgets (first : Console σ) (second : Console τ) (program : List UInt8) :
    let loaded := first.machine.load program
    let other := second.machine.load program
    other.result = loaded.result ∧ other.machine.core = loaded.machine.core ∧
    (loaded.result = .ok () ↔ program.length ≤ 3583) ∧
    (program.length ≤ 3583 → ∃ memory, loaded.machine.core = { Core.initial with memory } ∧
      ∀ address, memory.byteAt address =
        if address < 80 then font[address]?.getD 0
        else if address < 512 then 0
        else program[address - 512]?.getD 0) ∧
    (3583 < program.length → loaded.result = .error (.largeProgram program.length) ∧
      loaded.machine.core = .initial ∧ ∀ address, loaded.machine.core.memory.byteAt address = 0) ∧
    first.machine.loadFile (.ok program) = loaded ∧
    (∀ cause, (first.machine.loadFile (.error cause)).result = .error (.io cause) ∧
      (first.machine.loadFile (.error cause)).machine.core = .initial) ∧
    (∀ (request : Request) (requests : List Request), request.isLoad →
      first.machine.random = second.machine.random →
      (.frame ∈ requests →
        first.machine.config.cyclesPerFrame = second.machine.config.cyclesPerFrame) →
      second.answers otherBeeper (request :: requests) =
          first.answers beeper (request :: requests) ∧
        (second.run otherBeeper (request :: requests)).machine.core =
          (first.run beeper (request :: requests)).machine.core ∧
        (second.run otherBeeper (request :: requests)).machine.random =
          (first.run beeper (request :: requests)).machine.random) := by
  intro loaded other
  have limit : maxProgramSize = 3583 := rfl
  have loadedEq := first.machine.load_eq program
  have otherEq := second.machine.load_eq program
  rw [limit] at loadedEq otherEq
  refine ⟨?_, ?_, ?_, ?_, ?_, rfl, fun cause => ⟨rfl, rfl⟩, ?_⟩
  · simp only [loaded, other, loadedEq, otherEq]
    split <;> rfl
  · simp only [loaded, other, loadedEq, otherEq]
    split <;> rfl
  · simp only [loaded, loadedEq]
    split
    · next fits => exact iff_of_true rfl fits
    · next large => exact iff_of_false nofun large
  · intro fits
    refine ⟨.image program, ?_, Memory.byteAt_image fits⟩
    simp only [loaded, loadedEq, fits, ↓reduceIte]
    rfl
  · intro large
    have state : loaded = ⟨.error (.largeProgram program.length), first.machine.reset, #[]⟩ :=
      loadedEq.trans (if_neg (Nat.not_le_of_lt large))
    rw [state]
    exact ⟨rfl, rfl, Memory.byteAt_zero⟩
  · intro request requests isLoad random pace
    obtain ⟨answers, last⟩ := run_isLoad beeper otherBeeper isLoad random pace
    refine ⟨answers, ?_⟩
    rw [last]
    exact ⟨rfl, rfl⟩

/-- A frame right after a load runs the program from its start. -/
theorem answers_load_frame (console : Console σ) {program : List UInt8}
    (fits : program.length ≤ maxProgramSize) :
    console.answers beeper [.load program, .frame] =
      [.done (.ok ()), .flow ((console.machine.withCore
        { Core.initial with memory := .image program }).runSteps
          console.machine.config.cyclesPerFrame).result] := by
  simp only [Console.answers, serve, withMachine, Machine.load_eq, fits, ↓reduceIte,
    (Machine.runFrame_eq_runSteps ..).1]
  rfl

/-- Two new machines with frames of one and of two instructions. After loading the same program, the
longer frame ends with a jump that the shorter one does not reach. -/
theorem answers_load_frame_ne :
    let program : List UInt8 := [0x60, 0x01, 0x12, 0x00]
    let first : Console Unit :=
      ⟨.create { instructionRate := ⟨60⟩, seed? := some 0 } (Vector.replicate 8 0), ()⟩
    let second : Console Unit :=
      ⟨.create { instructionRate := ⟨120⟩, seed? := some 0 } (Vector.replicate 8 0), ()⟩
    let short := first.answers (.silent Unit) [.load program, .frame]
    let long := second.answers (.silent Unit) [.load program, .frame]
    first.machine.random = second.machine.random ∧
      short = [.done (.ok ()), .flow (.ok .ok)] ∧ long = [.done (.ok ()), .flow (.ok .jump)] ∧
      short ≠ long := by
  intro program first second short long
  let core : Core := { Core.initial with memory := .image program }
  have fits : program.length ≤ maxProgramSize := by decide
  have shortPace : first.machine.config.cyclesPerFrame = 1 := by decide
  have longPace : second.machine.config.cyclesPerFrame = 2 := by decide
  have inside : core.CanFetch := by decide
  have decoded : core.instruction = .loadByte 0 1 := by decide +kernel
  have shortStarts : (first.machine.withCore core).IsAt (.loadByte 0 1) := ⟨rfl, inside, decoded⟩
  have longStarts : (second.machine.withCore core).IsAt (.loadByte 0 1) := ⟨rfl, inside, decoded⟩
  have longJumps : (second.machine.withCore core).step.machine.IsAt (.jump 0x200) := by
    rw [longStarts.step_machine]
    exact ⟨rfl, by decide, by decide +kernel⟩
  have shortEnd : (first.machine.withCore core).step.result = .ok .ok := shortStarts.step_result
  have longMiddle : (second.machine.withCore core).step.result = .ok .ok := longStarts.step_result
  have longEnd : (second.machine.withCore core).step.machine.step.result = .ok .jump :=
    longJumps.step_result
  have shortRun : ((first.machine.withCore core).runSteps 1).result = .ok .ok := by
    simp [Machine.runSteps, Machine.continueRun, Machine.advance, shortEnd]
  have longRun : ((second.machine.withCore core).runSteps 2).result = .ok .jump := by
    simp [Machine.runSteps, Machine.continueRun, Machine.advance, Machine.isStopped, longMiddle,
      longEnd]
  have shortEq : short = [.done (.ok ()), .flow (.ok .ok)] := by
    rw [← shortRun, ← shortPace]
    exact answers_load_frame (.silent Unit) first fits
  have longEq : long = [.done (.ok ()), .flow (.ok .jump)] := by
    rw [← longRun, ← longPace]
    exact answers_load_frame (.silent Unit) second fits
  refine ⟨rfl, shortEq, longEq, ?_⟩
  rw [shortEq, longEq]
  simp

end Console

end Chip8
