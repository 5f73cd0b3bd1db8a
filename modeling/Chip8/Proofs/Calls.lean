import Chip8.Proofs.Console
import Chip8.Proofs.Control

/-!
# Calls and returns

The calls of a run that are still open, read off the instructions that its steps execute rather than
off the stack. The stack holds their return addresses on top of what is left of the initial one, so
a return leads behind the call that it belongs to (`Console.matched_return`).
-/

namespace Chip8

/-- Whether a request is a single step, or leaves the program counter and the stack alone. -/
def Request.isStepwise : Request → Bool
  | .load _ | .loadFile _ | .reset | .run _ | .frame | .push _ | .pop | .setPc _ | .fetch => false
  | _ => true

/-! ## Open calls -/

/-- The calls of a run from which it has not returned. -/
structure OpenCalls where
  /-- Where they return to, the most recent call first. -/
  addresses : List UInt16
  /-- The number of returns that belong to no call of the run. -/
  unmatched : Nat

namespace OpenCalls

/-- The start of a run. -/
def start : OpenCalls := ⟨[], 0⟩

/-- A return, which belongs to the most recent open call if there is one. -/
def close : OpenCalls → OpenCalls
  | ⟨[], unmatched⟩ => ⟨[], unmatched + 1⟩
  | ⟨_ :: addresses, unmatched⟩ => ⟨addresses, unmatched⟩

/-- The open calls after the instruction at an address was executed. -/
def after (calls : OpenCalls) (pc : UInt16) : Instruction → OpenCalls
  | .call _ => ⟨(pc + 2) :: calls.addresses, calls.unmatched⟩
  | .ret => calls.close
  | _ => calls

/-- The stack holds the return addresses of the open calls on top of what the other returns have
left of an initial stack. -/
def Describes (calls : OpenCalls) (initial stack : List UInt16) : Prop :=
  stack = calls.addresses ++ initial.drop calls.unmatched ∧ calls.unmatched ≤ initial.length

theorem describes_start (stack : List UInt16) : start.Describes stack stack :=
  ⟨rfl, Nat.zero_le _⟩

theorem Describes.close {calls : OpenCalls} {initial stack : List UInt16}
    (describes : calls.Describes initial stack) (filled : stack ≠ []) :
    calls.close.Describes initial stack.tail := by
  obtain ⟨addresses, unmatched⟩ := calls
  obtain ⟨rfl, fewer⟩ := describes
  cases addresses with
  | nil =>
      have left : unmatched < initial.length :=
        Nat.lt_of_not_le fun past => filled (List.drop_eq_nil_of_le past)
      exact ⟨List.tail_drop, left⟩
  | cons address addresses => exact ⟨rfl, fewer⟩

/-- An instruction that raises no fault does to the stack what it does to the open calls. -/
theorem Describes.after {calls : OpenCalls} {initial : List UInt16} {core : Core}
    (describes : calls.Describes initial core.stack) {instruction : Instruction}
    (sound : instruction.fault? core.advanced = none) :
    (calls.after core.pc instruction).Describes initial
      (instruction.stackAfter core.advanced) := by
  cases instruction with
  | call target =>
      rw [Instruction.stackAfter, if_pos (Instruction.fault?_call_eq_none_iff.mp sound)]
      exact ⟨congrArg (core.advanced.pc :: ·) describes.1, describes.2⟩
  | ret =>
      have filled : core.advanced.stack ≠ [] := Instruction.fault?_ret_eq_none_iff.mp sound
      exact describes.close filled
  | _ => exact describes

end OpenCalls

/-! ## Single steps -/

namespace Machine

/-- The instruction that the next step executes without a failure. -/
def executed? (machine : Machine) : Option Instruction :=
  match machine.core.keyWait, machine.step.result with
  | none, .ok _ => some machine.core.instruction
  | _, _ => none

theorem isAt_of_executed? {machine : Machine} {instruction : Instruction}
    (executed : machine.executed? = some instruction) :
    machine.IsAt instruction ∧ instruction.fault? machine.core.advanced = none := by
  unfold executed? at executed
  split at executed
  next flow running done =>
    cases executed
    have inside := canFetch_of_ok running done
    exact ⟨⟨running, inside, rfl⟩, (exists_step_result_eq_ok_iff running inside).mp ⟨flow, done⟩⟩
  next => cases executed

theorem executed?_of_isAt {machine : Machine} {instruction : Instruction}
    (isAt : machine.IsAt instruction) (sound : instruction.fault? machine.core.advanced = none) :
    machine.executed? = some instruction := by
  obtain ⟨running, inside, rfl⟩ := isAt
  obtain ⟨flow, done⟩ := (exists_step_result_eq_ok_iff running inside).mpr sound
  simp only [executed?, running, done]

/-- A step that executes no instruction, or fails, leaves the stack alone. -/
theorem step_stack (machine : Machine) :
    machine.step.machine.core.stack =
      match machine.executed? with
      | some instruction => instruction.stackAfter machine.core.advanced
      | none => machine.core.stack := by
  cases executed : machine.executed? with
  | some instruction =>
      rw [(isAt_of_executed? executed).1.step_machine]
      exact exec_stack machine.advanced instruction
  | none =>
      obtain same | ⟨x, key, _, resumed⟩ | ⟨running, inside, _⟩ := machine.step_machine_cases
      · rw [same]
      · rw [resumed]
        rfl
      · cases result : machine.step.result with
        | ok flow =>
            simp only [executed?, running, result, reduceCtorEq] at executed
        | error fault =>
            rw [step_machine_of_error running inside result]
            rfl

/-- A failing step leaves the stack alone. -/
theorem step_stack_of_error {machine : Machine} {fault : Fault}
    (failed : machine.step.result = .error fault) :
    machine.step.machine.core.stack = machine.core.stack := by
  rw [step_stack, executed?, failed]
  cases machine.core.keyWait <;> rfl

/-- A return leads to the address on top of the stack. -/
theorem step_pc_of_ret {machine : Machine} {address : UInt16} {rest : List UInt16}
    (isAt : machine.IsAt .ret) (stack : machine.core.stack = address :: rest) :
    machine.step.machine.core.pc = address := by
  have stack : machine.advanced.core.stack = address :: rest := stack
  rw [isAt.step_machine, exec, attempts_snd, Core.outcome_returnToCaller, stack]
  rfl

end Machine

/-- The open calls after a request. -/
def OpenCalls.next (calls : OpenCalls) (machine : Machine) (request : Request) : OpenCalls :=
  match request, machine.executed? with
  | .step, some instruction => calls.after machine.core.pc instruction
  | _, _ => calls

/-! ## Runs -/

namespace Console

variable {σ : Type} (beeper : Beeper σ)

/-- The call stack. -/
abbrev stack (console : Console σ) : List UInt16 := console.machine.core.stack

/-- The open calls after a run, given those before it. -/
def openCalls (console : Console σ) (calls : OpenCalls) : List Request → OpenCalls
  | [] => calls
  | request :: requests =>
    openCalls (console.serve beeper request).2 (calls.next console.machine request) requests

/-- Apart from steps, no stepwise request changes the stack. -/
theorem serve_stack (console : Console σ) {request : Request} (stepwise : request.isStepwise)
    (other : request.isStep = false) : (console.serve beeper request).2.stack = console.stack := by
  have attempted : ∀ {α : Type} (result : Except Fault α) (next : α → Machine),
      (∀ value, (next value).core.stack = console.stack) →
        (console.attempt (result.map next)).2.stack = console.stack :=
    fun result next => attempt_map_keeps (fun machine => machine.core.stack = console.stack) rfl
  cases request with
  | loadFont glyphs =>
      simp only [serve, Machine.loadFont_eq_map]
      exact attempted _ _ fun memory => rfl
  | tick =>
      simp only [serve, Machine.tick_machine]
      rfl
  | setRegister index value => exact attempted _ _ fun x => rfl
  | write address value => exact attempted _ _ fun memory => rfl
  | writeBlock address block =>
      simp only [serve, Machine.writeBlock_eq_map]
      cases console.machine.core.memory.writeBlock address block <;> rfl
  | load | loadFile | reset | run | frame | push | pop | setPc | fetch => cases stepwise
  | step => cases other
  | _ => rfl

/-- A stepwise request changes neither the stack nor the open calls, or it executes an
instruction. -/
theorem serve_stack_cases (console : Console σ) {request : Request}
    (stepwise : request.isStepwise) :
    ((console.serve beeper request).2.stack = console.stack ∧
      ∀ calls : OpenCalls, calls.next console.machine request = calls) ∨
    ∃ instruction, instruction.fault? console.machine.core.advanced = none ∧
      (console.serve beeper request).2.stack =
        instruction.stackAfter console.machine.core.advanced ∧
      ∀ calls : OpenCalls, calls.next console.machine request =
        calls.after console.machine.core.pc instruction := by
  cases step : request.isStep with
  | false =>
      refine .inl ⟨serve_stack beeper console stepwise step, ?_⟩
      intro calls
      cases request with
      | step => cases step
      | _ => rfl
  | true =>
      cases request with
      | step =>
          have stack : (console.serve beeper .step).2.stack =
              console.machine.step.machine.core.stack := rfl
          rw [stack, Machine.step_stack]
          cases executed : console.machine.executed? with
          | none =>
              refine .inl ⟨rfl, ?_⟩
              intro calls
              simp only [OpenCalls.next, executed]
          | some instruction =>
              refine .inr ⟨instruction, (Machine.isAt_of_executed? executed).2, rfl, ?_⟩
              intro calls
              simp only [OpenCalls.next, executed]
      | _ => cases step

/-- After every stepwise run, the stack is that of the open calls. -/
theorem run_describes (requests : List Request) {console : Console σ} {calls : OpenCalls}
    {initial : List UInt16} (stepwise : ∀ request ∈ requests, request.isStepwise)
    (describes : calls.Describes initial console.stack) :
    (console.openCalls beeper calls requests).Describes initial
      (console.run beeper requests).stack := by
  induction requests generalizing console calls with
  | nil => exact describes
  | cons request requests ih =>
      rw [run_cons, openCalls]
      apply ih
      · intro later member
        exact stepwise later (.tail request member)
      · obtain ⟨same, next⟩ | ⟨instruction, sound, stack, next⟩ :=
          serve_stack_cases beeper console (stepwise request (.head requests))
        · rw [same, next]
          exact describes
        · rw [stack, next]
          exact describes.after sound

/-- What lies below the depth of a run stays on the stack. -/
theorem run_suffix {frame : List UInt16} (requests : List Request) {console : Console σ}
    (stepwise : ∀ request ∈ requests, request.isStepwise) (below : frame <:+ console.stack)
    (deep : ∀ inner, inner <+: requests →
      frame.length ≤ (console.run beeper inner).stack.length) :
    frame <:+ (console.run beeper requests).stack := by
  induction requests generalizing console with
  | nil => exact below
  | cons request requests ih =>
      rw [run_cons]
      apply ih
      · intro later member
        exact stepwise later (.tail request member)
      · have deep : frame.length ≤ (console.serve beeper request).2.stack.length :=
          deep [request] (List.prefix_append [request] requests)
        obtain ⟨same, _⟩ | ⟨instruction, _, stack, _⟩ :=
          serve_stack_cases beeper console (stepwise request (.head requests))
        · rw [same]
          exact below
        · rw [stack] at deep ⊢
          exact Instruction.suffix_stackAfter below deep
      · intro inner initial
        exact deep (request :: inner) (List.prefix_cons_inj request |>.mpr initial)

/-- Stepwise runs keep the limit of the stack. -/
theorem run_depth_le (requests : List Request) {console : Console σ}
    (stepwise : ∀ request ∈ requests, request.isStepwise)
    (limit : console.stack.length ≤ stackLimit) :
    (console.run beeper requests).stack.length ≤ stackLimit := by
  refine run_keeps beeper (fun console => console.stack.length ≤ stackLimit)
    (fun request => request.isStepwise) ?_ requests console stepwise limit
  intro console request stepwise limit
  obtain ⟨same, _⟩ | ⟨instruction, _, stack, _⟩ := serve_stack_cases beeper console stepwise
  · rw [same]
    exact limit
  · rw [stack]
    apply Instruction.length_stackAfter_le
    exact limit

/-- A return that brings the stack back to the depth of a call leads behind that call. -/
theorem matched_return {caller : Console σ} {target : AddressOperand} (requests : List Request)
    (stepwise : ∀ request ∈ requests, request.isStepwise)
    (called : caller.machine.executed? = some (.call target))
    (deep : ∀ inner, inner <+: requests →
      caller.stack.length < (caller.run beeper (.step :: inner)).stack.length)
    (returned : (caller.run beeper (.step :: requests)).machine.executed? = some .ret)
    (level : (caller.run beeper (.step :: requests)).machine.step.machine.core.stack.length =
      caller.stack.length) :
    (caller.run beeper (.step :: requests)).machine.step.machine.core.pc.toNat =
      caller.machine.core.pc.toNat + 2 := by
  obtain ⟨atCall, room⟩ := Machine.isAt_of_executed? called
  obtain ⟨atReturn, _⟩ := Machine.isAt_of_executed? returned
  have pushed : (caller.serve beeper .step).2.stack =
      (caller.machine.core.pc + 2) :: caller.stack := by
    change caller.machine.step.machine.core.stack = _
    rw [Machine.step_stack, called]
    exact if_pos (Instruction.fault?_call_eq_none_iff.mp room)
  rw [run_cons] at returned level atReturn ⊢
  -- The return address is the top of the stack, as the rest has the depth that the return leaves.
  have below : ((caller.machine.core.pc + 2) :: caller.stack) <:+
      ((caller.serve beeper .step).2.run beeper requests).stack := by
    apply run_suffix beeper requests stepwise
    · exact pushed.symm ▸ List.suffix_refl _
    · exact deep
  have top : (caller.machine.core.pc + 2) :: caller.stack =
      ((caller.serve beeper .step).2.run beeper requests).stack := by
    apply below.eq_of_length
    have deeper := below.length_le
    rw [Machine.step_stack, returned] at level
    change ((caller.serve beeper .step).2.run beeper requests).stack.tail.length = _ at level
    rw [List.length_tail] at level
    rw [List.length_cons] at deeper ⊢
    omega
  rw [Machine.step_pc_of_ret atReturn top.symm]
  exact Machine.advanced_pc atCall.inside

/-- **Calls and returns match.** After every run of steps, between which the host leaves the program
counter and the stack alone, the stack holds the return addresses of the calls that are still open
on top of what the other returns have left of the initial stack. A return that brings the stack back
to the depth of a call, after a stretch of the run that stayed deeper, leads behind that call. Calls
fail exactly on a full stack and returns exactly on an empty one, and failing steps leave the stack
alone. -/
theorem run_calls (console : Console σ) (requests : List Request)
    (stepwise : ∀ request ∈ requests, request.isStepwise) :
    let later := console.run beeper requests
    let calls := console.openCalls beeper .start requests
    (later.stack = calls.addresses ++ console.stack.drop calls.unmatched ∧
      calls.unmatched ≤ console.stack.length) ∧
    (∀ first target middle, requests = first ++ .step :: middle →
      let caller := console.run beeper first
      caller.machine.executed? = some (.call target) →
      (∀ inner, inner <+: middle → caller.stack.length <
        (console.run beeper (first ++ .step :: inner)).stack.length) →
      later.machine.executed? = some .ret →
      later.machine.step.machine.core.stack.length = caller.stack.length →
        later.machine.step.machine.core.pc.toNat = caller.machine.core.pc.toNat + 2) ∧
    (console.stack.length ≤ 255 →
      later.stack.length ≤ 255 ∧
      ∀ target, later.machine.IsAt (.call target) →
        ((∃ fault, later.machine.step.result = .error fault) ↔ later.stack.length = 255)) ∧
    (later.machine.IsAt .ret →
      ((∃ fault, later.machine.step.result = .error fault) ↔ later.stack.length = 0)) ∧
    (∀ fault, later.machine.step.result = .error fault →
      later.machine.step.machine.core.stack = later.stack) := by
  intro later calls
  refine ⟨?_, ?_, ?_, ?_, fun _ => Machine.step_stack_of_error⟩
  · exact run_describes beeper requests stepwise (OpenCalls.describes_start console.stack)
  · rintro first target middle rfl caller called deep returned level
    have stepwiseMiddle : ∀ request ∈ middle, request.isStepwise :=
      fun request member => stepwise request (List.mem_append_right first (.tail _ member))
    have split : later = caller.run beeper (.step :: middle) := run_append beeper ..
    rw [split] at returned level ⊢
    apply matched_return beeper middle stepwiseMiddle called _ returned level
    intro inner initial
    rw [← run_append]
    exact deep inner initial
  · intro limit
    have depth : later.stack.length ≤ 255 := run_depth_le beeper requests stepwise limit
    refine ⟨depth, ?_⟩
    intro target isAt
    rw [isAt.exists_error_iff, Instruction.fault?_call_eq_none_iff]
    have same : later.machine.core.advanced.stack.length = later.stack.length := rfl
    rw [same, stackLimit]
    omega
  · intro isAt
    rw [isAt.exists_error_iff, Instruction.fault?_ret_eq_none_iff,
      List.length_eq_zero_iff]
    exact Classical.not_not

/-- A subroutine that returns at once. -/
theorem run_calls_subroutine :
    let console : Console Unit := ⟨.create {} (Vector.replicate 8 0), ()⟩
    let requests : List Request := [.writeBlock 0x200 [0x22, 0x04, 0x00, 0x00, 0x00, 0xEE], .step]
    let later := console.run (.silent Unit) requests
    (∀ request ∈ requests, request.isStepwise) ∧ later.stack.length = 1 ∧
      later.machine.executed? = some .ret ∧ later.machine.step.machine.core.pc.toNat = 0x202 := by
  intro console requests later
  have stepwise : ∀ request ∈ requests, request.isStepwise := by decide
  have called : (console.run (.silent Unit) (requests.take 1)).machine.executed? =
      some (.call 0x204) := by decide +kernel
  have deep : later.stack.length = 1 := by decide +kernel
  have returned : later.machine.executed? = some .ret := by decide +kernel
  have level : later.machine.step.machine.core.stack.length = 0 := by decide +kernel
  obtain ⟨_, matched, _⟩ := run_calls (.silent Unit) console requests stepwise
  refine ⟨stepwise, deep, returned, ?_⟩
  apply matched (requests.take 1) 0x204 [] rfl called _ returned level
  intro inner initial
  obtain rfl := List.prefix_nil.mp initial
  exact Nat.lt_of_lt_of_eq Nat.zero_lt_one deep.symm

end Console

end Chip8
