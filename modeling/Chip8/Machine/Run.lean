import Chip8.Beeper
import Chip8.Machine

/-!
# Runs

Loading programs, single steps, runs of steps, timer ticks and frames. Each of them yields a
`Report`: its result, the machine it leaves behind, also after a failure, and what was logged.
-/

namespace Chip8

/-- The outcome of an action of a machine. -/
structure Report (α : Type) where
  result : Except Fault α
  machine : Machine
  records : Array Record

namespace Machine

/-! ## Loading -/

/-- Resets the machine and loads a program with the built-in glyphs. -/
def load (machine : Machine) (program : List UInt8) : Report Unit :=
  let installed := (install program).outcome machine
  match installed.1 with
  | .ok _ => ⟨.ok (), installed.2, #[.loaded program.length]⟩
  | .error fault => ⟨.error fault, installed.2, #[]⟩

/-- Resets the machine and loads the program of a file, given what reading the file yields. -/
def loadFile (machine : Machine) (contents : Except IoFault (List UInt8)) : Report Unit :=
  match contents with
  | .ok program => machine.load program
  | .error cause => ⟨.error (.io cause), machine.reset, #[]⟩

/-! ## Steps -/

/-- Ends a wait for a key, if one is held by now, by giving its index to the waiting register. -/
def resume (machine : Machine) (x : Register) : Flow × Machine :=
  match machine.core.keys.first? with
  | some key =>
    (.ok, machine.withCore { machine.core.set x (UInt8.ofNat key.val) with keyWait := none })
  | none => (.keyWait, machine)

/-- What an instruction logs as it executes, with the program counter already past it. -/
def remarks (machine : Machine) : Instruction → Array Record
  | .unknown word => #[.ignored (machine.core.pc - 2) word]
  | _ => #[]

/-- Executes a fetched word. -/
def perform (machine : Machine) (pc word : UInt16) : Report Flow :=
  let instruction := Instruction.decode word
  let done := machine.exec instruction
  let records := #[Record.fetched pc word instruction] ++ machine.remarks instruction
  match done.1 with
  | .ok flow => ⟨.ok flow, done.2, records⟩
  | .error fault => ⟨.error fault, done.2, records.push (.failed pc instruction fault)⟩

/-- Executes one instruction. While the machine waits for a key nothing is fetched, and the step
that finds a key held ends the wait. -/
def step (machine : Machine) : Report Flow :=
  match machine.core.keyWait with
  | some x =>
    let resumed := machine.resume x
    ⟨.ok resumed.1, resumed.2, #[]⟩
  | none =>
    let fetched := Core.fetchNext.outcome machine.core
    let ready := machine.withCore fetched.2
    match fetched.1 with
    | .error fault => ⟨.error fault, ready, #[]⟩
    | .ok word => ready.perform machine.core.pc word

/-- Whether a run stops at a report: the last step failed or waits for a key. -/
def isStopped (report : Report Flow) : Bool :=
  match report.result with
  | .error _ => true
  | .ok flow => flow == .keyWait

/-- Adds the next step to a run. -/
def advance (report : Report Flow) : Report Flow :=
  let next := report.machine.step
  ⟨next.result, next.machine, report.records ++ next.records⟩

/-- Goes on with a run for a number of steps, until it stops. -/
def continueRun : Nat → Report Flow → Report Flow
  | 0, report => report
  | count + 1, report =>
    let next := advance report
    if isStopped next then next else continueRun count next

/-- Executes a number of instructions; stops early at a failure and when a key is waited for. The
flow is that of the last step. -/
def runSteps (machine : Machine) (count : Nat) : Report Flow :=
  continueRun count ⟨.ok .ok, machine, #[]⟩

/-! ## Ticks and frames -/

/-- The outcome of a timer tick: whether a tone plays, what is left, and what was logged. -/
structure Tick (σ : Type) where
  tone : Bool
  machine : Machine
  beeper : σ
  records : Array Record

/-- Counts the timers down by one, and lets the beeper beep if a tone plays. -/
def tick {σ : Type} (machine : Machine) (beeper : Beeper σ) (state : σ) : Tick σ :=
  let counted := machine.core.countDown
  let machine := machine.withCore counted.2
  if counted.1 then
    let beeped := beeper.beep state
    ⟨true, machine, beeped.1, beeped.2⟩
  else ⟨false, machine, state, #[]⟩

/-- One timer tick, then the configured number of instructions. -/
def runFrame {σ : Type} (machine : Machine) (beeper : Beeper σ) (state : σ) : Report Flow × σ :=
  let ticked := machine.tick beeper state
  let cycles := machine.config.cyclesPerFrame
  (continueRun cycles ⟨.ok .ok, ticked.machine, ticked.records⟩, ticked.beeper)

/-- Goes on with a sequence of frames, until one fails. -/
def continueFrames {σ : Type} (beeper : Beeper σ) :
    Nat → Report (Option Flow) × σ → Report (Option Flow) × σ
  | 0, run => run
  | count + 1, run =>
    let frame := run.1.machine.runFrame beeper run.2
    let report := frame.1
    let records := run.1.records ++ report.records
    match report.result with
    | .error fault => (⟨.error fault, report.machine, records⟩, frame.2)
    | .ok flow => continueFrames beeper count (⟨.ok (some flow), report.machine, records⟩, frame.2)

/-- Runs a number of frames, whether or not a key is waited for; stops early at a failure. The flow
is that of the last frame, if there is one. -/
def runFrames {σ : Type} (machine : Machine) (beeper : Beeper σ) (state : σ) (count : Nat) :
    Report (Option Flow) × σ :=
  continueFrames beeper count (⟨.ok none, machine, #[]⟩, state)

end Machine

end Chip8
