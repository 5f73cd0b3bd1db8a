import Chip8.Proofs.Loading
import Chip8.Proofs.Runs

/-!
# What depends on the configuration

A machine looks at its configuration only to decide how many instructions a frame executes. Two
consoles whose machines differ in nothing else answer all requests alike, as long as their frames
are equally long (`Console.run_withConfig`). Their beepers do not matter.
-/

namespace Chip8

/-- The machine under another configuration. -/
def Machine.withConfig (machine : Machine) (config : Config) : Machine := { machine with config }

/-- The report on the machine under another configuration. -/
def Report.withConfig {α : Type} (report : Report α) (config : Config) : Report α :=
  { report with machine := report.machine.withConfig config }

namespace Machine

variable (machine : Machine) (config : Config)

theorem load_withConfig (program : List UInt8) :
    (machine.withConfig config).load program = (machine.load program).withConfig config := by
  rw [load_eq, load_eq]
  split <;> rfl

theorem loadFile_withConfig (contents : Except IoFault (List UInt8)) :
    (machine.withConfig config).loadFile contents =
      (machine.loadFile contents).withConfig config := by
  cases contents with
  | ok program => exact load_withConfig machine config program
  | error cause => rfl

theorem exec_withConfig (instruction : Instruction) :
    (machine.withConfig config).exec instruction =
      ((machine.exec instruction).1, (machine.exec instruction).2.withConfig config) := by
  cases instruction with
  | awaitKey x =>
      have keys : (machine.withConfig config).core.keys = machine.core.keys := rfl
      rw [exec, exec, keys]
      cases machine.core.keys.first? <;> rfl
  | _ => rfl

theorem perform_withConfig (pc word : UInt16) :
    (machine.withConfig config).perform pc word =
      (machine.perform pc word).withConfig config := by
  have remarks : (machine.withConfig config).remarks = machine.remarks := rfl
  simp only [perform, exec_withConfig, remarks]
  cases (machine.exec (Instruction.decode word)).1 <;> rfl

theorem step_withConfig :
    (machine.withConfig config).step = machine.step.withConfig config := by
  have core : (machine.withConfig config).core = machine.core := rfl
  rw [step, step, core]
  cases machine.core.keyWait with
  | some x =>
      simp only [resume, core]
      cases machine.core.keys.first? <;> rfl
  | none =>
      cases fetched : (Core.fetchNext.outcome machine.core).1 with
      | error fault =>
          simp only [fetched]
          rfl
      | ok word =>
          simp only [fetched]
          exact perform_withConfig (machine.withCore _) config _ word

theorem continueRun_withConfig (count : Nat) (report : Report Flow) :
    continueRun count (report.withConfig config) =
      (continueRun count report).withConfig config := by
  induction count generalizing report with
  | zero => rfl
  | succ count ih =>
      have next : advance (report.withConfig config) = (advance report).withConfig config := by
        have step := step_withConfig report.machine config
        have machine : (report.withConfig config).machine = report.machine.withConfig config := rfl
        rw [advance, advance, machine, step]
        rfl
      have same : isStopped ((advance report).withConfig config) = isStopped (advance report) := rfl
      rw [continueRun, continueRun, next, same, ih]
      split <;> rfl

theorem runSteps_withConfig (count : Nat) :
    (machine.withConfig config).runSteps count = (machine.runSteps count).withConfig config :=
  continueRun_withConfig config count ⟨.ok .ok, machine, #[]⟩

/-- Only a frame looks at the configuration, for its length. -/
theorem runFrame_withConfig {σ τ : Type} (beeper : Beeper σ) (state : σ) (otherBeeper : Beeper τ)
    (otherState : τ) (pace : machine.config.cyclesPerFrame = config.cyclesPerFrame) :
    let frame := (machine.runFrame beeper state).1
    let other := ((machine.withConfig config).runFrame otherBeeper otherState).1
    other.result = frame.result ∧ other.machine = frame.machine.withConfig config := by
  intro frame other
  let ticked := machine.withCore machine.core.countDown.2
  have run : (ticked.withConfig config).runSteps config.cyclesPerFrame =
      (ticked.runSteps machine.config.cyclesPerFrame).withConfig config := by
    rw [pace, runSteps_withConfig]
  obtain ⟨result, after⟩ := machine.runFrame_eq_runSteps beeper state
  obtain ⟨otherResult, otherAfter⟩ :=
    (machine.withConfig config).runFrame_eq_runSteps otherBeeper otherState
  constructor
  · calc
      other.result = ((ticked.withConfig config).runSteps config.cyclesPerFrame).result :=
        otherResult
      _ = (ticked.runSteps machine.config.cyclesPerFrame).result := by rw [run]; rfl
      _ = frame.result := result.symm
  · calc
      other.machine = ((ticked.withConfig config).runSteps config.cyclesPerFrame).machine :=
        otherAfter
      _ = (ticked.runSteps machine.config.cyclesPerFrame).machine.withConfig config := by
        rw [run]; rfl
      _ = frame.machine.withConfig config := by rw [after]

end Machine

namespace Console

variable {σ τ : Type} (beeper : Beeper σ) (otherBeeper : Beeper τ)

theorem attempt_withConfig {first : Console σ} {second : Console τ} {config : Config}
    (same : second.machine = first.machine.withConfig config) {α : Type} (result : Except Fault α)
    {next other : α → Machine} (alike : ∀ value, other value = (next value).withConfig config) :
    (second.attempt (result.map other)).1 = (first.attempt (result.map next)).1 ∧
      (second.attempt (result.map other)).2.machine =
        (first.attempt (result.map next)).2.machine.withConfig config := by
  cases result with
  | ok value => exact ⟨rfl, alike value⟩
  | error fault => exact ⟨rfl, same⟩

theorem serve_withConfig {first : Console σ} {second : Console τ} {config : Config}
    (same : second.machine = first.machine.withConfig config) {request : Request}
    (pace : request = .frame →
      first.machine.config.cyclesPerFrame = config.cyclesPerFrame) :
    (second.serve otherBeeper request).1 = (first.serve beeper request).1 ∧
      (second.serve otherBeeper request).2.machine =
        (first.serve beeper request).2.machine.withConfig config := by
  have core : second.machine.core = first.machine.core := by
    rw [same]
    rfl
  have withCore : ∀ core, second.machine.withCore core =
      (first.machine.withCore core).withConfig config := by
    intro core
    rw [same]
    rfl
  cases request with
  | load program =>
      simp only [serve, same, Machine.load_withConfig]
      exact ⟨rfl, rfl⟩
  | loadFile contents =>
      simp only [serve, same, Machine.loadFile_withConfig]
      exact ⟨rfl, rfl⟩
  | loadFont glyphs =>
      simp only [serve, Machine.loadFont_eq_map, core]
      exact attempt_withConfig same _ fun memory => withCore _
  | reset =>
      simp only [serve, same, true_and]
      rfl
  | step =>
      simp only [serve, same, Machine.step_withConfig]
      exact ⟨rfl, rfl⟩
  | run count =>
      simp only [serve, same, Machine.runSteps_withConfig]
      exact ⟨rfl, rfl⟩
  | frame =>
      have alike := first.machine.runFrame_withConfig config beeper first.bell otherBeeper
        second.bell (pace rfl)
      simp only [serve, same, alike, true_and]
  | tick =>
      simp only [serve, Machine.tick_machine, Machine.tick_tone, core, true_and]
      exact withCore _
  | setRegister index value =>
      simp only [serve, core]
      exact attempt_withConfig same _ fun x => withCore _
  | write address value =>
      simp only [serve, core]
      exact attempt_withConfig same _ fun memory => withCore _
  | writeBlock address block =>
      simp only [serve, core]
      exact attempt_withConfig same _ withCore
  | push address =>
      simp only [serve, core]
      exact attempt_withConfig same _ withCore
  | pop =>
      simp only [serve, core]
      cases first.machine.core.pop? with
      | none => exact ⟨rfl, same⟩
      | some popped => exact ⟨rfl, withCore _⟩
  | _ =>
      simp only [serve, change, core, true_and]
      exact withCore _

/-- No request changes the configuration. -/
theorem serve_config (console : Console σ) (request : Request) :
    (console.serve beeper request).2.machine.config = console.machine.config := by
  -- The console differs from itself by its own configuration.
  have same : console.machine = console.machine.withConfig console.machine.config := rfl
  have alike := (serve_withConfig beeper beeper same fun _ : request = .frame => rfl).2
  rw [alike]
  rfl

/-- Whether or not the configurations differ, consoles with frames of the same length stay alike. -/
theorem run_withConfig {first : Console σ} {second : Console τ} {config : Config}
    (same : second.machine = first.machine.withConfig config) {requests : List Request}
    (pace : .frame ∈ requests →
      first.machine.config.cyclesPerFrame = config.cyclesPerFrame) :
    second.answers otherBeeper requests = first.answers beeper requests ∧
      (second.run otherBeeper requests).machine =
        (first.run beeper requests).machine.withConfig config := by
  induction requests generalizing first second with
  | nil => exact ⟨rfl, same⟩
  | cons request requests ih =>
      have now : request = .frame →
          first.machine.config.cyclesPerFrame = config.cyclesPerFrame := by
        rintro rfl
        exact pace (.head requests)
      have later : .frame ∈ requests →
          (first.serve beeper request).2.machine.config.cyclesPerFrame =
            config.cyclesPerFrame := by
        intro member
        rw [serve_config]
        exact pace (.tail request member)
      obtain ⟨answer, next⟩ := serve_withConfig beeper otherBeeper same now
      obtain ⟨answers, last⟩ := ih next later
      rw [run_cons, run_cons, Console.answers, Console.answers, answer, answers]
      exact ⟨rfl, last⟩

end Console

end Chip8
