import Chip8.Proofs.Configuration
import Chip8.Proofs.History

/-!
# Pacing

Frames that no failure and no wait for a key cuts short are rounds of one tick and as many steps as
the configuration asks for. The frames of one second execute the configured number of instructions,
up to what the division by the number of frames leaves over (`Console.run_paces`).
-/

namespace Chip8

namespace Config

/-- The quotient of two numbers, if the divisor is not zero. -/
def quotient? (dividend divisor : Nat) : Option Nat :=
  if divisor = 0 then none else some (dividend / divisor)

/-- The instructions for each timer tick, by a division that must not meet a zero. -/
def cyclesPerFrame? (config : Config) : Option Nat := do
  let perTick ←
    if config.timerRate.perSecond = 0 then some config.instructionRate.perSecond
    else quotient? config.instructionRate.perSecond config.timerRate.perSecond
  return max perTick 1

variable {config : Config}

theorem cyclesPerFrame?_eq (config : Config) :
    config.cyclesPerFrame? = some config.cyclesPerFrame := by
  unfold cyclesPerFrame? cyclesPerFrame
  by_cases stopped : config.timerRate.perSecond = 0
  · simp only [stopped, ↓reduceIte]
    rfl
  · simp only [stopped, ↓reduceIte, quotient?]
    rfl

theorem cyclesPerFrame_of_zero (stopped : config.timerRate.perSecond = 0) :
    config.cyclesPerFrame = max config.instructionRate.perSecond 1 := by
  simp only [cyclesPerFrame, stopped, ↓reduceIte]

theorem cyclesPerFrame_of_pos (counting : 0 < config.timerRate.perSecond) :
    config.cyclesPerFrame =
      max (config.instructionRate.perSecond / config.timerRate.perSecond) 1 := by
  simp only [cyclesPerFrame, Nat.ne_of_gt counting, ↓reduceIte]

theorem cyclesPerFrame_le (config : Config) :
    config.cyclesPerFrame ≤ max config.instructionRate.perSecond 1 := by
  rcases Nat.eq_zero_or_pos config.timerRate.perSecond with stopped | counting
  · exact Nat.le_of_eq (cyclesPerFrame_of_zero stopped)
  · rw [cyclesPerFrame_of_pos counting]
    have quotient := Nat.div_le_self config.instructionRate.perSecond config.timerRate.perSecond
    omega

/-- The frames of a second execute less than one instruction for each frame too few. -/
theorem secondCycles_bounds (counting : 0 < config.timerRate.perSecond)
    (fast : config.timerRate.perSecond ≤ config.instructionRate.perSecond) :
    let executed := config.timerRate.perSecond * config.cyclesPerFrame
    config.instructionRate.perSecond - config.timerRate.perSecond < executed ∧
      executed ≤ config.instructionRate.perSecond := by
  intro executed
  have perTick : 1 ≤ config.instructionRate.perSecond / config.timerRate.perSecond :=
    Nat.div_pos fast counting
  have cycles : executed = config.timerRate.perSecond *
      (config.instructionRate.perSecond / config.timerRate.perSecond) := by
    rw [← Nat.max_eq_left perTick, ← cyclesPerFrame_of_pos counting]
  have short := Nat.lt_mul_div_succ config.instructionRate.perSecond counting
  rw [Nat.mul_add, Nat.mul_one, ← cycles] at short
  refine ⟨by omega, ?_⟩
  rw [cycles]
  exact Nat.mul_div_le ..

/-- Timers that are faster than the instructions still leave one for each frame. -/
theorem secondCycles_of_lt
    (slow : config.instructionRate.perSecond < config.timerRate.perSecond) :
    config.timerRate.perSecond * config.cyclesPerFrame = config.timerRate.perSecond := by
  rw [cyclesPerFrame_of_pos (Nat.zero_lt_of_lt slow), Nat.div_eq_of_lt slow]
  exact Nat.mul_one _

end Config

/-- What a frame with a number of steps amounts to. -/
def Request.round (cycles : Nat) : List Request := .tick :: List.replicate cycles .step

theorem Request.countP_rounds (count cycles : Nat) :
    (List.replicate count (Request.round cycles)).flatten.countP Request.isTick = count := by
  have single : (Request.round cycles).countP Request.isTick = 1 := by
    rw [Request.round, List.countP_cons, List.countP_replicate]
    rfl
  induction count with
  | zero => rfl
  | succ count ih =>
      rw [List.replicate_succ, List.flatten_cons, List.countP_append, single, ih, Nat.add_comm]

namespace Machine

/-- A run whose steps do not stop it takes all its steps. -/
theorem path_of_steady {count : Nat} {machine : Machine}
    (steady : ∀ later ∈ path count machine, isStopped later.step = false) :
    (path count machine).length = count ∧ isStopped (machine.runSteps count) = false := by
  induction count generalizing machine with
  | zero => exact ⟨rfl, rfl⟩
  | succ count ih =>
      have goes : isStopped machine.step = false := steady machine (.head _)
      have split : path (count + 1) machine = machine :: path count machine.step.machine := by
        rw [path, goes]
        rfl
      rw [split] at steady ⊢
      obtain ⟨length, unstopped⟩ := ih fun later member => steady later (.tail machine member)
      constructor
      · rw [List.length_cons, length]
      · rw [(runSteps_succ count machine).2, goes, unstopped]
        rfl

end Machine

namespace Console

open Machine

variable {σ : Type} (beeper : Beeper σ)

theorem steps_frame_eq (console : Console σ) :
    console.steps beeper [.frame] =
      (console.machine.withCore console.machine.core.countDown.2).path
        console.machine.config.cyclesPerFrame := by
  have ticks : console.machinesAt beeper Request.isStep (Request.tick.elements console.machine) =
      [] := rfl
  have ticked : (console.serve beeper .tick).2.machine =
      console.machine.withCore console.machine.core.countDown.2 :=
    tick_machine console.machine beeper console.bell
  rw [steps_frame, steps_cons, ticks, List.nil_append, steps_run, ticked]
  exact List.append_nil _

section

variable {console : Console σ} {count : Nat}

theorem steady_frames_succ
    (steady : ∀ machine ∈ console.steps beeper (List.replicate (count + 1) .frame),
      isStopped machine.step = false) :
    (∀ machine ∈ console.steps beeper [.frame], isStopped machine.step = false) ∧
      ∀ machine ∈ (console.serve beeper .frame).2.steps beeper (List.replicate count .frame),
        isStopped machine.step = false := by
  rw [List.replicate_succ, ← List.singleton_append, steps_append] at steady
  exact List.forall_mem_append.mp steady

/-- A frame whose steps do not stop it is a round. -/
theorem frame_of_steady
    (steady : ∀ machine ∈ console.steps beeper [.frame], isStopped machine.step = false) :
    let cycles := console.machine.config.cyclesPerFrame
    Request.frame.elements console.machine = Request.round cycles ∧
      (console.steps beeper [.frame]).length = cycles ∧
      ∃ flow, (console.machine.runFrame beeper console.bell).1.result = .ok flow := by
  intro cycles
  rw [steps_frame_eq] at steady ⊢
  obtain ⟨length, unstopped⟩ := path_of_steady steady
  refine ⟨?_, length, ?_⟩
  · rw [Request.elements, List.map_const', length]
    rfl
  · rw [(runFrame_eq_runSteps ..).1]
    unfold isStopped at unstopped
    split at unstopped
    next => cases unstopped
    next flow done => exact ⟨flow, done⟩

/-- Frames whose steps do not stop them are rounds. -/
theorem frames_of_steady
    (steady : ∀ machine ∈ console.steps beeper (List.replicate count .frame),
      isStopped machine.step = false) :
    let cycles := console.machine.config.cyclesPerFrame
    console.elements beeper (List.replicate count .frame) =
        (List.replicate count (Request.round cycles)).flatten ∧
      (console.steps beeper (List.replicate count .frame)).length = count * cycles := by
  induction count generalizing console with
  | zero => exact ⟨rfl, (Nat.zero_mul _).symm⟩
  | succ count ih =>
      intro cycles
      obtain ⟨now, rest⟩ := steady_frames_succ beeper steady
      obtain ⟨elements, length, -⟩ := frame_of_steady beeper now
      obtain ⟨elementsLater, lengthLater⟩ := ih rest
      rw [serve_config] at elementsLater lengthLater
      constructor
      · rw [List.replicate_succ, Console.elements, elements, elementsLater]
        rfl
      · rw [List.replicate_succ, ← List.singleton_append, steps_append, List.length_append, length]
        rw [run_cons, run_nil, lengthLater, Nat.succ_mul, Nat.add_comm]

/-- The loop over frames goes through all of them. -/
theorem continueFrames_of_steady
    (steady : ∀ machine ∈ console.steps beeper (List.replicate count .frame),
      isStopped machine.step = false)
    (flow? : Option Flow) (records : Array Record) :
    let looped := continueFrames beeper count (⟨.ok flow?, console.machine, records⟩, console.bell)
    let later := console.run beeper (List.replicate count .frame)
    (∃ last?, looped.1.result = .ok last?) ∧ looped.1.machine = later.machine ∧
      looped.2 = later.bell := by
  induction count generalizing console flow? records with
  | zero => exact ⟨⟨flow?, rfl⟩, rfl, rfl⟩
  | succ count ih =>
      obtain ⟨now, rest⟩ := steady_frames_succ beeper steady
      obtain ⟨-, -, flow, done⟩ := frame_of_steady beeper now
      simp only [continueFrames, done, List.replicate_succ, run_cons]
      exact ih rest (some flow) _

end

/-- **Frames keep the configured pace.** Frames in which no step fails or waits for a key are rounds
of one tick and `cyclesPerFrame` single steps, and the loop over frames goes through all of them.
The number of steps comes from a division that never meets a zero, and is at least one. In a second,
which is as many frames as the timer rate tells, the steps are at most as many as the instruction
rate tells, and fewer than one for each frame are lacking; if the instruction rate is below the
timer rate, there is one step for each frame. Without a timer rate each frame takes the steps of a
second. -/
theorem run_paces (console : Console σ) (count : Nat)
    (steady : ∀ machine ∈ console.steps beeper (List.replicate count .frame),
      isStopped machine.step = false) :
    let config := console.machine.config
    let instructionRate := config.instructionRate.perSecond
    let timerRate := config.timerRate.perSecond
    let cycles := config.cyclesPerFrame
    let frames := List.replicate count Request.frame
    let rounds := (List.replicate count (Request.round cycles)).flatten
    let later := console.run beeper rounds
    let looped := console.machine.runFrames beeper console.bell count
    let executed := (console.steps beeper frames).length
    (console.elements beeper frames = rounds ∧ console.run beeper frames = later) ∧
    ((∃ last?, looped.1.result = .ok last?) ∧ looped.1.machine = later.machine ∧
      looped.2 = later.bell) ∧
    (rounds.countP Request.isTick = count ∧ executed = count * cycles) ∧
    (config.cyclesPerFrame? = some cycles ∧ 1 ≤ cycles ∧ cycles ≤ max instructionRate 1) ∧
    (0 < timerRate → count = timerRate →
      (timerRate ≤ instructionRate →
        instructionRate - timerRate < executed ∧ executed ≤ instructionRate) ∧
      (instructionRate < timerRate → executed = timerRate)) ∧
    (timerRate = 0 → executed = count * max instructionRate 1) := by
  intro config instructionRate timerRate cycles frames rounds later looped executed
  obtain ⟨elements, length⟩ := frames_of_steady beeper steady
  have same : console.run beeper frames = later := by
    rw [← run_elements, elements]
  have loop := continueFrames_of_steady beeper steady none #[]
  rw [show console.run beeper (List.replicate count .frame) = later from same] at loop
  refine ⟨⟨elements, same⟩, loop, ⟨Request.countP_rounds .., length⟩,
    ⟨config.cyclesPerFrame?_eq, Nat.le_max_right .., config.cyclesPerFrame_le⟩, ?_, ?_⟩
  · intro counting second
    have total : executed = timerRate * cycles := length.trans (by rw [second])
    rw [total]
    exact ⟨Config.secondCycles_bounds counting, Config.secondCycles_of_lt⟩
  · intro stopped
    rw [← Config.cyclesPerFrame_of_zero stopped]
    exact length

/-- A second of three frames at seven instructions, the sound of which ends on the way. -/
theorem run_paces_of_second :
    let core : Core :=
      { Core.initial with
        sound := 2
        memory := Memory.zero.store 0x200 [0x70, 0x01, 0x12, 0x00] }
    let config : Config := { instructionRate := ⟨7⟩, timerRate := ⟨3⟩ }
    let console : Console Nat := ⟨⟨core, .start (Vector.replicate 8 0), config⟩, 0⟩
    let frames := List.replicate 3 Request.frame
    (∀ machine ∈ console.steps .counting frames, isStopped machine.step = false) ∧
      console.elements .counting frames = [.tick, .step, .step, .tick, .step, .step, .tick, .step,
        .step] ∧
      (console.steps .counting frames).length = 6 ∧ 7 - 3 < 6 ∧ 6 ≤ 7 ∧
      (console.machine.runFrames .counting console.bell 3).2 = 2 := by
  intro core config console frames
  have steady : ∀ machine ∈ console.steps .counting frames, isStopped machine.step = false := by
    decide +kernel
  have cycles : console.machine.config.cyclesPerFrame = 2 := by decide
  obtain ⟨⟨elements, -⟩, ⟨-, -, bell⟩, ⟨-, executed⟩, -, second, -⟩ :=
    run_paces .counting console 3 steady
  obtain ⟨above, below⟩ := (second (by decide) rfl).1 (by decide)
  rw [executed] at above below
  rw [cycles] at elements executed above below
  refine ⟨steady, elements, executed, above, below, bell.trans ?_⟩
  decide +kernel

end Console

end Chip8
