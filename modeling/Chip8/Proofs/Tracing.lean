import Mathlib.Data.List.Basic
import Chip8.Proofs.Access
import Chip8.Proofs.Decoding
import Chip8.Proofs.History

/-!
# The instruction trace

A step that fetches logs the word under its own address, and behind that at most one more record
under the same address: that the word has no meaning, or that the instruction has failed. All other
steps log nothing. So the traced words of a run are those that its steps have fetched, each once and
in order (`Console.run_traces`).
-/

namespace Chip8

namespace Record

/-- Whether a record is one that a step logs. -/
def isOfStep : Record → Bool
  | .fetched .. | .ignored .. | .failed .. => true
  | .loaded _ | .beep | .bellFailed _ => false

/-- Whether a record traces an instruction. -/
def isTrace (record : Record) : Bool := record.level == .trace

/-- A record as it is shown. -/
def entry (record : Record) : Level × String := (record.level, record.text)

theorem isOfStep_of_isTrace {record : Record} (trace : record.isTrace = true) :
    record.isOfStep = true := by
  cases record with
  | fetched => rfl
  | ignored | failed | loaded | beep | bellFailed => cases trace

end Record

/-- What the beeper logs is nothing that a step logs. -/
def Beeper.IsDiscreet {σ : Type} (beeper : Beeper σ) : Prop :=
  ∀ state, ∀ record ∈ (beeper.beep state).2.toList, record.isOfStep = false

theorem Bell.ringing_isDiscreet (refusal? : Option IoFault) : (ringing refusal?).IsDiscreet := by
  intro bell record member
  cases refusal? with
  | none =>
      obtain rfl : record = .beep := List.mem_singleton.mp member
      rfl
  | some cause =>
      rcases List.mem_cons.mp member with rfl | member
      · rfl
      · obtain rfl := List.mem_singleton.mp member
        rfl

/-! ## Steps -/

namespace Machine

/-- The address and the word that the next step fetches. -/
def fetch? (machine : Machine) : Option (UInt16 × UInt16) :=
  if machine.core.isAwaitingKey then none
  else machine.core.fetch.toOption.map fun fetched => (machine.core.pc, fetched.1)

variable {machine : Machine}

theorem fetch?_of_canFetch (running : machine.core.keyWait = none)
    (inside : machine.core.CanFetch) :
    machine.fetch? = some (machine.core.pc, machine.core.word) := by
  rw [fetch?, Core.isAwaitingKey, running, Core.fetch_eq, if_pos inside]
  rfl

/-- A step that does not fetch logs nothing. -/
theorem step_records_cases (machine : Machine) :
    (machine.fetch? = none ∧ machine.step.records = #[]) ∨
      (machine.core.keyWait = none ∧ machine.core.CanFetch) := by
  cases wait : machine.core.keyWait with
  | some x =>
      left
      rw [fetch?, Core.isAwaitingKey, step_of_awaiting wait, wait]
      exact ⟨rfl, rfl⟩
  | none =>
      by_cases inside : machine.core.CanFetch
      · exact .inr ⟨rfl, inside⟩
      · left
        rw [fetch?, Core.fetch_eq, if_neg inside, step_of_not_canFetch wait inside]
        exact ⟨ite_self _, rfl⟩

theorem remarks_of_known {instruction : Instruction}
    (known : ∀ carried, instruction ≠ .unknown carried) : machine.remarks instruction = #[] := by
  cases instruction with
  | unknown carried => exact absurd rfl (known carried)
  | _ => rfl

section

variable (running : machine.core.keyWait = none) (inside : machine.core.CanFetch)

include running inside

/-- A word without a meaning is reported under its own address, to which the program counter is
taken back, and does not fail. -/
theorem step_records_of_unknown {carried : UInt16}
    (unknown : machine.core.instruction = .unknown carried) :
    machine.step.records =
      #[.fetched machine.core.pc machine.core.word machine.core.instruction,
        .ignored machine.core.pc machine.core.word] := by
  have back : machine.advanced.core.pc - 2 = machine.core.pc :=
    UInt16.add_sub_cancel machine.core.pc 2
  have same : carried = machine.core.word := Instruction.eq_of_decode_unknown unknown
  have done : machine.step.result = .ok .ok := by
    rw [step_result running inside, unknown]
    rfl
  rw [step_records running inside, done, unknown, remarks, back, same]
  rfl

theorem step_records_of_error {fault : Fault} (failed : machine.step.result = .error fault) :
    machine.step.records =
      #[.fetched machine.core.pc machine.core.word machine.core.instruction,
        .failed machine.core.pc machine.core.instruction fault] := by
  have known : ∀ carried, machine.core.instruction ≠ .unknown carried := by
    intro carried unknown
    rw [step_result running inside, unknown] at failed
    cases failed
  rw [step_records running inside, remarks_of_known known, failed]
  rfl

theorem step_records_of_ok {flow : Flow} (done : machine.step.result = .ok flow)
    (known : ∀ carried, machine.core.instruction ≠ .unknown carried) :
    machine.step.records =
      #[.fetched machine.core.pc machine.core.word machine.core.instruction] := by
  rw [step_records running inside, remarks_of_known known, done]
  rfl

end

/-- All that a step logs is of a step, and the word that it fetches is all that it traces. -/
theorem filter_step_records (machine : Machine) :
    machine.step.records.toList.filter Record.isOfStep = machine.step.records.toList ∧
      machine.step.records.toList.filter Record.isTrace =
        (machine.fetch?.map fun fetched =>
          .fetched fetched.1 fetched.2 (Instruction.decode fetched.2)).toList := by
  rcases machine.step_records_cases with ⟨unfetched, silent⟩ | ⟨running, inside⟩
  · rw [unfetched, silent]
    exact ⟨rfl, rfl⟩
  · rw [fetch?_of_canFetch running inside]
    cases result : machine.step.result with
    | error fault =>
        rw [step_records_of_error running inside result]
        exact ⟨rfl, rfl⟩
    | ok flow =>
        by_cases known : ∀ carried, machine.core.instruction ≠ .unknown carried
        · rw [step_records_of_ok running inside result known]
          exact ⟨rfl, rfl⟩
        · obtain ⟨carried, unknown⟩ : ∃ carried, machine.core.instruction = .unknown carried := by
            simpa using known
          rw [step_records_of_unknown running inside unknown]
          exact ⟨rfl, rfl⟩

/-- What some steps trace is what they fetch, in order. -/
theorem filter_isTrace_steps (machines : List Machine) :
    (machines.flatMap fun machine => machine.step.records.toList).filter Record.isTrace =
      (machines.filterMap fetch?).map fun fetched =>
        .fetched fetched.1 fetched.2 (Instruction.decode fetched.2) := by
  rw [List.filter_flatMap, List.map_filterMap, List.filterMap_eq_flatMap_toList]
  exact congrArg (List.flatMap · _) (funext fun machine => machine.filter_step_records.2)

/-- A run of steps logs what its steps log. -/
theorem runSteps_records (count : Nat) (machine : Machine) :
    (machine.runSteps count).records.toList =
      (machine.path count).flatMap fun later => later.step.records.toList := by
  induction count generalizing machine with
  | zero => rfl
  | succ count ih =>
      have unfolded : machine.runSteps (count + 1) =
          if isStopped machine.step then machine.step else continueRun count machine.step := by
        simp only [runSteps, continueRun, advance, Array.empty_append]
      rw [unfolded, path, List.flatMap_cons]
      cases isStopped machine.step with
      | true => exact (List.append_nil _).symm
      | false =>
          simp only [Bool.false_eq_true, ↓reduceIte, continueRun_eq, Array.toList_append, ih]

end Machine

/-! ## Runs -/

namespace Console

variable {σ : Type} (beeper : Beeper σ)

/-- What a request logs. -/
def recordsOf (console : Console σ) : Request → List Record
  | .load program => (console.machine.load program).records.toList
  | .loadFile contents => (console.machine.loadFile contents).records.toList
  | .step => console.machine.step.records.toList
  | .run count => (console.machine.runSteps count).records.toList
  | .frame => (console.machine.runFrame beeper console.bell).1.records.toList
  | .tick => (console.machine.tick beeper console.bell).records.toList
  | _ => []

/-- What a run logs. -/
def log (console : Console σ) : List Request → List Record
  | [] => []
  | request :: requests =>
    console.recordsOf beeper request ++ log (console.serve beeper request).2 requests

/-- The addresses and words that the steps of a run fetch. -/
def fetches (console : Console σ) (requests : List Request) : List (UInt16 × UInt16) :=
  (console.steps beeper requests).filterMap Machine.fetch?

theorem log_append (console : Console σ) (first second : List Request) :
    console.log beeper (first ++ second) =
      console.log beeper first ++ (console.run beeper first).log beeper second := by
  induction first generalizing console with
  | nil => rfl
  | cons request first ih =>
      rw [List.cons_append, log, log, ih, run_cons, List.append_assoc]

theorem log_path (count : Nat) (console : Console σ) :
    console.log beeper ((console.machine.path count).map fun _ => .step) =
      (console.machine.runSteps count).records.toList := by
  rw [Machine.runSteps_records]
  induction count generalizing console with
  | zero => rfl
  | succ count ih =>
      rw [Machine.path, List.map_cons, log, List.flatMap_cons]
      refine congrArg (console.machine.step.records.toList ++ ·) ?_
      cases Machine.isStopped console.machine.step with
      | true => rfl
      | false => exact ih (console.serve beeper .step).2

/-- A request logs what the elementary requests log that it amounts to. -/
theorem log_elements_singleton (console : Console σ) (request : Request) :
    console.log beeper (request.elements console.machine) = console.recordsOf beeper request := by
  cases request with
  | run count => exact log_path beeper count console
  | frame =>
      have rest := log_path beeper console.machine.config.cyclesPerFrame
        (console.serve beeper .tick).2
      have ticked : (console.serve beeper .tick).2.machine =
          (console.machine.tick beeper console.bell).machine := rfl
      simp only [recordsOf, Machine.runFrame, Machine.continueRun_eq, Array.toList_append]
      rw [Request.elements, log, ← Machine.tick_machine _ beeper console.bell, ← ticked, rest]
      rfl
  | _ => exact List.append_nil _

theorem log_elements (console : Console σ) (requests : List Request) :
    console.log beeper (console.elements beeper requests) = console.log beeper requests := by
  induction requests generalizing console with
  | nil => rfl
  | cons request requests ih =>
      rw [elements, log_append, log_elements_singleton, run_elements_singleton, ih, log]

section

variable {beeper}

/-- Loading and ticks log nothing that a step logs, and other requests log nothing. -/
theorem filter_recordsOf (discreet : beeper.IsDiscreet) (console : Console σ) {request : Request}
    (elementary : request.isElementary) (other : request.isStep = false) :
    (console.recordsOf beeper request).filter Record.isOfStep = [] := by
  cases request with
  | load program =>
      simp only [recordsOf, Machine.load]
      split <;> rfl
  | loadFile contents =>
      cases contents with
      | error cause => rfl
      | ok program =>
          simp only [recordsOf, Machine.loadFile, Machine.load]
          split <;> rfl
  | tick =>
      simp only [recordsOf, Machine.tick]
      split
      next =>
        refine List.filter_eq_nil_iff.mpr fun record member => ?_
        rw [discreet console.bell record member]
        exact Bool.false_ne_true
      next => rfl
  | step => cases other
  | run | frame => cases elementary
  | _ => rfl

theorem filter_log_of_isElementary (discreet : beeper.IsDiscreet) (requests : List Request)
    (console : Console σ) (elementary : ∀ request ∈ requests, request.isElementary) :
    (console.log beeper requests).filter Record.isOfStep =
      (console.machinesAt beeper Request.isStep requests).flatMap fun machine =>
        machine.step.records.toList := by
  induction requests generalizing console with
  | nil => rfl
  | cons request requests ih =>
      have rest := ih (console.serve beeper request).2 fun later member =>
        elementary later (.tail request member)
      rw [log, List.filter_append, rest, machinesAt]
      cases isStep : request.isStep with
      | true =>
          obtain rfl : request = .step := by
            cases request <;> first | rfl | cases isStep
          rw [recordsOf, console.machine.filter_step_records.1, if_pos rfl, List.flatMap_cons]
      | false =>
          rw [filter_recordsOf discreet console (elementary request (.head requests)) isStep]
          rfl

/-- What the steps of a run log is in its log, in order and with nothing else of the kind. -/
theorem filter_log (discreet : beeper.IsDiscreet) (console : Console σ) (requests : List Request) :
    (console.log beeper requests).filter Record.isOfStep =
      (console.steps beeper requests).flatMap fun machine => machine.step.records.toList := by
  have elementary (element : Request) (member : element ∈ console.elements beeper requests) :
      element.isElementary := by
    obtain ⟨request, -, machine, amounts⟩ := exists_of_mem_elements beeper member
    exact Request.isElementary_of_mem_elements amounts
  rw [← log_elements, filter_log_of_isElementary discreet _ console elementary]
  rfl

theorem filter_isTrace_log (discreet : beeper.IsDiscreet) (console : Console σ)
    (requests : List Request) :
    (console.log beeper requests).filter Record.isTrace =
      (console.fetches beeper requests).map fun fetched =>
        .fetched fetched.1 fetched.2 (Instruction.decode fetched.2) := by
  have ofStep (record : Record) :
      (record.isTrace && record.isOfStep) = record.isTrace := by
    cases trace : record.isTrace with
    | true => exact Record.isOfStep_of_isTrace trace
    | false => rfl
  have split : (console.log beeper requests).filter Record.isTrace =
      ((console.log beeper requests).filter Record.isOfStep).filter Record.isTrace := by
    rw [List.filter_filter]
    simp only [ofStep]
  rw [split, filter_log discreet]
  exact Machine.filter_isTrace_steps _

end

/-- **The trace of a run is complete and correctly addressed.** A step that waits for a key, or
fails to fetch, logs nothing. Any other step logs first the trace of its word, under the address at
which it was fetched, and then, under the same address, one record if the word has no meaning or if
the instruction fails, and nothing otherwise. A run of steps logs what its steps log, so the words
it traces are exactly the fetched ones, each once and in order. The same holds of the log of any
run, whatever the host asks for on the way, if its beeper logs nothing that a step logs. -/
theorem run_traces (console : Console σ) (requests : List Request) :
    (∀ machine : Machine,
      (machine.core.keyWait ≠ none ∨ (∃ fault, machine.core.fetch = .error fault) →
        machine.step.records = #[]) ∧
      ∀ word next, machine.core.keyWait = none → machine.core.fetch = .ok (word, next) →
        let pc := machine.core.pc
        let instruction := Instruction.decode word
        let traced := Record.fetched pc word instruction
        let ignored := Record.ignored pc word
        let failed := Record.failed pc instruction
        (∀ carried, instruction = .unknown carried →
          machine.step.records = #[traced, ignored]) ∧
        (∀ fault, machine.step.result = .error fault →
          machine.step.records = #[traced, failed fault]) ∧
        (∀ flow, machine.step.result = .ok flow → (∀ carried, instruction ≠ .unknown carried) →
          machine.step.records = #[traced]) ∧
        traced.entry = (.trace, Numeral.hex 4 pc.toNat ++ ": " ++ Numeral.hex 4 word.toNat ++ " " ++
          instruction.mnemonic) ∧
        ignored.entry = (.debug, "0x" ++ Numeral.hex 4 pc.toNat ++
          ": ignoring unknown instruction 0x" ++ Numeral.hex 4 word.toNat) ∧
        ∀ fault, (failed fault).entry = (.error, "0x" ++ Numeral.hex 4 pc.toNat ++ ": " ++
          instruction.mnemonic ++ ": " ++ fault.message)) ∧
    (∀ (machine : Machine) (count : Nat),
      let records := (machine.runSteps count).records.toList
      records = (machine.path count).flatMap (fun later => later.step.records.toList) ∧
        records.filter Record.isTrace = ((machine.path count).filterMap Machine.fetch?).map
          fun fetched => .fetched fetched.1 fetched.2 (Instruction.decode fetched.2)) ∧
    (beeper.IsDiscreet →
      (console.log beeper requests).filter Record.isOfStep =
        (console.steps beeper requests).flatMap (fun machine => machine.step.records.toList) ∧
      (console.log beeper requests).filter Record.isTrace =
        (console.fetches beeper requests).map fun fetched =>
          .fetched fetched.1 fetched.2 (Instruction.decode fetched.2)) := by
  refine ⟨fun machine => ⟨?_, ?_⟩, fun machine count => ?_, fun discreet =>
    ⟨filter_log discreet console requests, filter_isTrace_log discreet console requests⟩⟩
  · intro unfetched
    rcases machine.step_records_cases with ⟨-, silent⟩ | ⟨running, inside⟩
    · exact silent
    · rcases unfetched with waits | ⟨fault, failed⟩
      · exact absurd running waits
      · rw [Core.fetch_eq, if_pos inside] at failed
        cases failed
  · intro word next running fetched
    obtain ⟨inside, -⟩ := Machine.canFetch_of_fetch fetched
    rw [Core.fetch_eq, if_pos inside] at fetched
    cases fetched
    exact ⟨fun _ => Machine.step_records_of_unknown running inside,
      fun _ => Machine.step_records_of_error running inside,
      fun _ => Machine.step_records_of_ok running inside, rfl, rfl, fun _ => rfl⟩
  · intro records
    have logged : records = _ := machine.runSteps_records count
    rw [logged]
    exact ⟨rfl, Machine.filter_isTrace_steps _⟩

/-- An unknown word, a return that fails, a wait through a frame with a tone, its end, and a fetch
that fails. -/
theorem run_traces_of_return :
    let core : Core :=
      { Core.initial with
        sound := 1
        memory := Memory.zero.store 0x200 [0x01, 0x23, 0x00, 0xEE, 0xF0, 0x0A] }
    let console : Console Bell := ⟨⟨core, .start (Vector.replicate 8 0), {}⟩, {}⟩
    let requests : List Request :=
      [.run 2, .step, .frame, .setKey 3 true, .step, .setPc 0xFFE, .step]
    (Bell.ringing none).IsDiscreet ∧
      console.log (Bell.ringing none) requests =
        [.fetched 0x200 0x0123 (.unknown 0x0123), .ignored 0x200 0x0123,
          .fetched 0x202 0x00EE .ret, .failed 0x202 .ret (.stackUnderflow 0x204),
          .fetched 0x204 0xF00A (.awaitKey 0), .beep] ∧
      (console.fetches (Bell.ringing none) requests).map
          (fun fetched => Record.fetched fetched.1 fetched.2 (Instruction.decode fetched.2)) =
        [.fetched 0x200 0x0123 (.unknown 0x0123), .fetched 0x202 0x00EE .ret,
          .fetched 0x204 0xF00A (.awaitKey 0)] := by
  intro core console requests
  have discreet : (Bell.ringing none).IsDiscreet := Bell.ringing_isDiscreet none
  have logged : console.log (Bell.ringing none) requests =
      [.fetched 0x200 0x0123 (.unknown 0x0123), .ignored 0x200 0x0123,
        .fetched 0x202 0x00EE .ret, .failed 0x202 .ret (.stackUnderflow 0x204),
        .fetched 0x204 0xF00A (.awaitKey 0), .beep] := by
    decide +kernel
  obtain ⟨-, -, traces⟩ := run_traces (Bell.ringing none) console requests
  obtain ⟨-, traced⟩ := traces discreet
  refine ⟨discreet, logged, ?_⟩
  rw [← traced, logged]
  rfl

end Console

end Chip8
