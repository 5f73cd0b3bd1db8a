import Chip8.Proofs.Atomicity
import Chip8.Proofs.Calls
import Chip8.Proofs.Runs

/-!
# Histories of runs

A run of several steps is that many single steps, as far as it goes before it stops, and a frame is
a tick and such a run. So every run is a run of elementary requests (`Console.run_elements`), and
what happens in it happens at the machines that these requests find (`Console.machinesAt`).
-/

namespace Chip8

namespace Machine

/-- The machines that take the steps of a run of steps. -/
def path : Nat → Machine → List Machine
  | 0, _ => []
  | count + 1, machine =>
    machine :: if isStopped machine.step then [] else path count machine.step.machine

theorem runSteps_succ (count : Nat) (machine : Machine) :
    let run := machine.runSteps (count + 1)
    let rest := machine.step.machine.runSteps count
    run.machine = (if isStopped machine.step then machine.step.machine else rest.machine) ∧
      isStopped run = (isStopped machine.step || isStopped rest) := by
  let start : Report Flow := ⟨.ok .ok, machine, #[]⟩
  have stops : isStopped (advance start) = isStopped machine.step := rfl
  intro run rest
  have unfolded : run =
      if isStopped machine.step then advance start else continueRun count (advance start) := rfl
  rw [unfolded]
  cases stopped : isStopped machine.step with
  | true => exact ⟨rfl, stops.trans stopped⟩
  | false =>
      simp only [Bool.false_eq_true, ↓reduceIte, continueRun_eq, Bool.false_or]
      refine ⟨rfl, ?_⟩
      cases count with
      | zero => exact stops.trans stopped
      | succ count => rfl

/-- The steps of a longer run are those of a shorter one, and those of the rest unless it has
stopped. -/
theorem path_add (first second : Nat) (machine : Machine) :
    let start := machine.runSteps first
    path (first + second) machine =
      path first machine ++ if isStopped start then [] else path second start.machine := by
  induction first generalizing machine with
  | zero => rw [Nat.zero_add]; rfl
  | succ first ih =>
      obtain ⟨after, stops⟩ := runSteps_succ first machine
      simp only [Nat.succ_add, path, after, stops, List.cons_append]
      cases isStopped machine.step with
      | true => rfl
      | false => exact congrArg (machine :: ·) (ih machine.step.machine)

end Machine

namespace Request

/-- Whether a request is neither a run of steps nor a frame. -/
def isElementary : Request → Bool
  | .run _ | .frame => false
  | _ => true

/-- Requests by which a host drives a program: it lets the program run and time pass, and hands on
key events. -/
def isDriving : Request → Bool
  | .step | .run _ | .frame | .tick | .setKey .. | .clearKeys => true
  | _ => false

/-- The elementary requests that a request on a machine amounts to. -/
def elements (machine : Machine) : Request → List Request
  | .run count => (machine.path count).map fun _ => .step
  | .frame =>
    let ticked := machine.withCore machine.core.countDown.2
    .tick :: (ticked.path machine.config.cyclesPerFrame).map fun _ => .step
  | request => [request]

theorem mem_elements {machine : Machine} {request element : Request}
    (member : element ∈ request.elements machine) :
    element = .step ∨ element = .tick ∨ (element = request ∧ request.isElementary) := by
  cases request with
  | run count =>
      obtain ⟨_, _, rfl⟩ := List.mem_map.mp member
      exact .inl rfl
  | frame =>
      rcases List.mem_cons.mp member with tick | step
      · exact .inr (.inl tick)
      · obtain ⟨_, _, rfl⟩ := List.mem_map.mp step
        exact .inl rfl
  | _ => exact .inr (.inr ⟨List.mem_singleton.mp member, rfl⟩)

theorem isElementary_of_mem_elements {machine : Machine} {request element : Request}
    (member : element ∈ request.elements machine) : element.isElementary := by
  rcases mem_elements member with rfl | rfl | ⟨rfl, elementary⟩
  · rfl
  · rfl
  · exact elementary

theorem isPassing_of_mem_elements {machine : Machine} {request element : Request}
    (driving : request.isDriving) (member : element ∈ request.elements machine) :
    element.isPassing := by
  rcases mem_elements member with rfl | rfl | ⟨rfl, elementary⟩
  · rfl
  · rfl
  · cases element with
    | step | tick | setKey | clearKeys => rfl
    | run | frame => cases elementary
    | _ => cases driving

end Request

namespace Console

variable {σ : Type} (beeper : Beeper σ)

/-- The elementary requests of a run. -/
def elements (console : Console σ) : List Request → List Request
  | [] => []
  | request :: requests =>
    request.elements console.machine ++ elements (console.serve beeper request).2 requests

/-- The machines that the requests of a kind find in a run. -/
def machinesAt (kind : Request → Bool) (console : Console σ) : List Request → List Machine
  | [] => []
  | request :: requests =>
    let later := machinesAt kind (console.serve beeper request).2 requests
    if kind request then console.machine :: later else later

theorem machinesAt_append (kind : Request → Bool) (console : Console σ)
    (first second : List Request) :
    console.machinesAt beeper kind (first ++ second) =
      console.machinesAt beeper kind first ++
        (console.run beeper first).machinesAt beeper kind second := by
  induction first generalizing console with
  | nil => rfl
  | cons request first ih =>
      simp only [List.cons_append, machinesAt, ih, run_cons]
      split <;> rfl

theorem length_machinesAt (kind : Request → Bool) (requests : List Request)
    (console : Console σ) :
    (console.machinesAt beeper kind requests).length = requests.countP kind := by
  induction requests generalizing console with
  | nil => rfl
  | cons request requests ih =>
      rw [machinesAt, List.countP_cons, ← ih (console.serve beeper request).2]
      cases kind request <;> rfl

/-! ## Elementary requests -/

theorem run_path (count : Nat) (console : Console σ) :
    console.run beeper ((console.machine.path count).map fun _ => .step) =
      console.withMachine (console.machine.runSteps count).machine := by
  induction count generalizing console with
  | zero => rfl
  | succ count ih =>
      rw [Machine.path, List.map_cons, run_cons, (Machine.runSteps_succ ..).1]
      cases Machine.isStopped console.machine.step with
      | true => rfl
      | false => exact ih (console.serve beeper .step).2

theorem machinesAt_path (count : Nat) (console : Console σ) :
    console.machinesAt beeper Request.isStep ((console.machine.path count).map fun _ => .step) =
      console.machine.path count := by
  induction count generalizing console with
  | zero => rfl
  | succ count ih =>
      rw [Machine.path, List.map_cons, machinesAt]
      cases Machine.isStopped console.machine.step with
      | true => rfl
      | false => exact congrArg (console.machine :: ·) (ih (console.serve beeper .step).2)

theorem serve_frame (console : Console σ) :
    (console.serve beeper .frame).2 = ((console.serve beeper .tick).2.serve beeper
      (.run console.machine.config.cyclesPerFrame)).2 := by
  have run := (console.machine.runFrame_eq_runSteps beeper console.bell).2
  simp only [serve, withMachine, run, Machine.tick_machine]
  rfl

theorem run_elements_singleton (console : Console σ) (request : Request) :
    console.run beeper (request.elements console.machine) = (console.serve beeper request).2 := by
  cases request with
  | run count => exact run_path beeper count console
  | frame =>
      rw [serve_frame, Request.elements, run_cons, ← Machine.tick_machine _ beeper console.bell]
      exact run_path beeper _ (console.serve beeper .tick).2
  | _ => rfl

/-- Every run is a run of elementary requests. -/
theorem run_elements (console : Console σ) (requests : List Request) :
    console.run beeper (console.elements beeper requests) = console.run beeper requests := by
  induction requests generalizing console with
  | nil => rfl
  | cons request requests ih => rw [elements, run_append, run_elements_singleton, ih, run_cons]

theorem exists_of_mem_elements {console : Console σ} {requests : List Request} {element : Request}
    (member : element ∈ console.elements beeper requests) :
    ∃ request ∈ requests, ∃ machine, element ∈ request.elements machine := by
  induction requests generalizing console with
  | nil => cases member
  | cons request requests ih =>
      rcases List.mem_append.mp member with now | later
      · exact ⟨request, .head requests, console.machine, now⟩
      · obtain ⟨other, found, machine, amounts⟩ := ih later
        exact ⟨other, .tail request found, machine, amounts⟩

theorem isPassing_of_mem_elements {console : Console σ} {requests : List Request}
    {element : Request} (driving : ∀ request ∈ requests, request.isDriving)
    (member : element ∈ console.elements beeper requests) : element.isPassing := by
  obtain ⟨request, found, machine, amounts⟩ := exists_of_mem_elements beeper member
  exact Request.isPassing_of_mem_elements (driving request found) amounts

/-! ## Steps of a run -/

def steps (console : Console σ) (requests : List Request) : List Machine :=
  console.machinesAt beeper Request.isStep (console.elements beeper requests)

theorem steps_cons (console : Console σ) (request : Request) (requests : List Request) :
    console.steps beeper (request :: requests) =
      console.machinesAt beeper Request.isStep (request.elements console.machine) ++
        (console.serve beeper request).2.steps beeper requests := by
  rw [steps, elements, machinesAt_append, run_elements_singleton]
  rfl

theorem steps_append (console : Console σ) (first second : List Request) :
    console.steps beeper (first ++ second) =
      console.steps beeper first ++ (console.run beeper first).steps beeper second := by
  induction first generalizing console with
  | nil => rfl
  | cons request first ih =>
      rw [List.cons_append, steps_cons, ih, ← List.append_assoc, ← steps_cons, run_cons]

theorem steps_run (console : Console σ) (count : Nat) (requests : List Request) :
    console.steps beeper (.run count :: requests) = console.machine.path count ++
      (console.withMachine (console.machine.runSteps count).machine).steps beeper requests := by
  rw [steps_cons, Request.elements, machinesAt_path]
  rfl

theorem steps_run_one (console : Console σ) (requests : List Request) :
    console.steps beeper (.run 1 :: requests) = console.steps beeper (.step :: requests) := by
  have single : (Request.run 1).elements console.machine =
      Request.step.elements console.machine := by
    simp only [Request.elements, Machine.path, ite_self, List.map_cons, List.map_nil]
  rw [steps_cons, steps_cons, ← run_elements_singleton, single, run_elements_singleton]

theorem steps_frame (console : Console σ) (requests : List Request) :
    console.steps beeper (.frame :: requests) = console.steps beeper
      (.tick :: .run console.machine.config.cyclesPerFrame :: requests) := by
  have split : Request.frame.elements console.machine = Request.tick.elements console.machine ++
      (Request.run console.machine.config.cyclesPerFrame).elements
        (console.serve beeper .tick).2.machine := by
    simp only [serve, Machine.tick_machine]
    rfl
  rw [steps_cons, steps_cons, steps_cons, serve_frame, split, machinesAt_append,
    run_elements_singleton, List.append_assoc]

end Console

end Chip8
