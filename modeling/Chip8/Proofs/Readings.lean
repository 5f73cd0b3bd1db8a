import Chip8.Proofs.Commutation
import Chip8.Proofs.History

/-!
# What programs read from outside

Timer ticks and key events change the timers and the keys. Of these a program learns only what the
steps of four instructions read, and those that end a wait (`Machine.reading?`). As long as two runs
read the same, their steps find the program in the same states, whatever else happens to the timers
and the keys (`Machine.Leads.filterMap_isPrefix`).
-/

namespace Chip8

/-- What a step reads from the timers and the keys. -/
inductive Reading where
  | delay (value : UInt8)
  | pressed (held : Bool)
  | firstHeld (key? : Option Key)
  deriving DecidableEq

/-- The parts of a machine that timer ticks and key events change. -/
def Part.outer : List Part := [.delay, .sound, .keys]

def Instruction.reading? (core : Core) : Instruction → Option Reading
  | .loadDelay _ => some (.delay core.delay)
  | .skipIfPressed x | .skipUnlessPressed x => some (.pressed (core.isPressed (core.get x)))
  | .awaitKey _ => some (.firstHeld core.keys.first?)
  | _ => none

theorem Instruction.not_mem_outer {core : Core} {instruction : Instruction}
    (blind : instruction.reading? core = none) {part : Part} (read : part ∈ instruction.reads) :
    part ∉ Part.outer := by
  cases instruction with
  | loadDelay | skipIfPressed | skipUnlessPressed | awaitKey => cases blind
  | _ =>
      revert part
      simp [reads, Part.outer]

namespace Machine

variable {first second : Machine}

/-- What the next step reads from the timers and the keys. -/
def reading? (machine : Machine) : Option Reading :=
  match machine.core.keyWait with
  | some _ => some (.firstHeld machine.core.keys.first?)
  | none =>
    if machine.core.CanFetch then machine.core.instruction.reading? machine.core else none

theorem IsAt.reading?_eq {machine : Machine} {instruction : Instruction}
    (isAt : machine.IsAt instruction) :
    machine.reading? = instruction.reading? machine.core := by
  simp only [reading?, isAt.running, isAt.inside, isAt.decoded, ↓reduceIte]

theorem exists_isAt_of_reading? {machine : Machine} (reads : machine.reading? ≠ none) :
    (∃ x, machine.core.keyWait = some x) ∨ ∃ instruction, machine.IsAt instruction := by
  unfold reading? at reads
  cases wait : machine.core.keyWait with
  | some x => exact .inl ⟨x, rfl⟩
  | none =>
      by_cases inside : machine.core.CanFetch
      · exact .inr ⟨machine.core.instruction, wait, inside, rfl⟩
      · simp only [wait, inside, ↓reduceIte, ne_eq, not_true_eq_false] at reads

theorem reading?_congr (agree : AgreeOn first.stepReads first second) :
    first.reading? = second.reading? := by
  rcases step_cases_congr agree with ⟨x, awaiting, otherAwaiting, _, keys⟩ |
    ⟨instruction, isAt, otherAt, reads, _⟩ | ⟨running, otherRunning, outside, otherOutside, _⟩
  · simp only [reading?, awaiting, otherAwaiting, keys]
  · rw [isAt.reading?_eq, otherAt.reading?_eq]
    cases instruction with
    | loadDelay | skipIfPressed | skipUnlessPressed | awaitKey =>
        simp only [Instruction.reads, agreeOn_cons, Part.Agree, advanced, withCore,
          Core.advanced] at reads
        simp only [Instruction.reading?, Core.isPressed, Core.get, reads]
    | _ => rfl
  · simp only [reading?, running, otherRunning, outside, otherOutside, ↓reduceIte]

/-- A run of steps that do not read hidden parts takes as many steps whatever these hold. -/
theorem length_path_congr_off {hidden : List Part} (count : Nat)
    (agree : ∀ part ∉ hidden, part.Agree first second)
    (unread : ∀ machine ∈ path count first, ∀ part ∈ hidden, part ∉ machine.stepReads) :
    (path count second).length = (path count first).length := by
  induction count generalizing first second with
  | zero => rfl
  | succ count ih =>
      obtain ⟨now, later⟩ := List.forall_mem_cons.mp unread
      obtain ⟨result, next⟩ := step_congr_off agree now
      have stops : isStopped second.step = isStopped first.step := by
        rw [isStopped, isStopped, result]
      rw [path, path, List.length_cons, List.length_cons, stops]
      cases going : isStopped first.step with
      | true => rfl
      | false =>
          rw [going] at later
          exact congrArg Nat.succ (ih next later)

/-- The machines differ in nothing but their timers and keys. -/
def SameInside (first second : Machine) : Prop := ∀ part ∉ Part.outer, part.Agree first second

namespace SameInside

theorem symm (same : SameInside first second) : SameInside second first :=
  fun part inner => Part.agree_symm (same part inner)

theorem trans {third : Machine} (same : SameInside first second)
    (other : SameInside second third) : SameInside first third :=
  fun part inner => Part.agree_trans (same part inner) (other part inner)

theorem keyWait (same : SameInside first second) : first.core.keyWait = second.core.keyWait :=
  same .keyWait (by decide)

theorem pc (same : SameInside first second) : first.core.pc = second.core.pc :=
  same .pc (by decide)

theorem registers (same : SameInside first second) : first.core.v = second.core.v :=
  same .registers (by decide)

theorem memory (same : SameInside first second) : first.core.memory = second.core.memory :=
  same .memory (by decide)

theorem isAt (same : SameInside first second) {instruction : Instruction}
    (isAt : first.IsAt instruction) : second.IsAt instruction where
  running := same.keyWait ▸ isAt.running
  inside := by
    rw [Core.CanFetch, ← same.pc]
    exact isAt.inside
  decoded := by
    rw [Core.instruction, Core.word, ← same.pc, ← same.memory]
    exact isAt.decoded

theorem stepWrites_eq (same : SameInside first second) : first.stepWrites = second.stepWrites := by
  simp only [stepWrites, Core.CanFetch, Core.instruction, Core.word, same.keyWait, same.pc,
    same.memory]

theorem agreeOn_stepReads (same : SameInside first second) (blind : first.reading? = none) :
    AgreeOn first.stepReads first second := by
  intro part read
  apply same
  rcases mem_stepReads read with ⟨awaiting, _⟩ | fetched | ⟨instruction, isAt, used⟩
  · obtain ⟨x, awaiting⟩ := Option.ne_none_iff_exists'.mp awaiting
    simp only [reading?, awaiting, reduceCtorEq] at blind
  · have inner : ∀ part ∈ [Part.keyWait, .pc, .memory], part ∉ Part.outer := by decide
    exact inner part fetched
  · rw [isAt.reading?_eq] at blind
    exact Instruction.not_mem_outer blind used

theorem resume_agreeOn_writes (same : SameInside first second) {x : Register}
    (awaiting : first.core.keyWait = some x)
    (read : first.core.keys.first? = second.core.keys.first?) :
    AgreeOn [.keyWait, .registers] (first.resume x).2 (second.resume x).2 := by
  have otherAwaiting : second.core.keyWait = some x := same.keyWait ▸ awaiting
  simp only [resume, read, agreeOn_cons, Part.Agree]
  cases second.core.keys.first? <;>
    simp [awaiting, otherAwaiting, withCore, Core.set, same.registers]

theorem exec_agreeOn_writes (same : SameInside first second) {instruction : Instruction}
    (sighted : instruction.reading? first.core ≠ none)
    (read : instruction.reading? first.core = instruction.reading? second.core) :
    AgreeOn (.pc :: instruction.writes) (first.advanced.exec instruction).2
      (second.advanced.exec instruction).2 := by
  have pc : first.advanced.core.pc = second.advanced.core.pc := congrArg (· + 2) same.pc
  cases instruction with
  | loadDelay x =>
      simp only [Instruction.reading?, Option.some.injEq, Reading.delay.injEq] at read
      refine agreeOn_cons.mpr ⟨pc, agreeOn_cons.mpr ⟨?_, agreeOn_nil⟩⟩
      change first.core.v.set x first.core.delay = second.core.v.set x second.core.delay
      rw [same.registers, read]
  | skipIfPressed x =>
      simp only [Instruction.reading?, Option.some.injEq, Reading.pressed.injEq] at read
      have skipped := skipIf_pc_congr pc read
      exact agreeOn_cons.mpr ⟨skipped, agreeOn_cons.mpr ⟨skipped, agreeOn_nil⟩⟩
  | skipUnlessPressed x =>
      simp only [Instruction.reading?, Option.some.injEq, Reading.pressed.injEq] at read
      have skipped := skipIf_pc_congr pc (congrArg not read)
      exact agreeOn_cons.mpr ⟨skipped, agreeOn_cons.mpr ⟨skipped, agreeOn_nil⟩⟩
  | awaitKey x =>
      simp only [Instruction.reading?, Option.some.injEq, Reading.firstHeld.injEq] at read
      have keys : first.advanced.core.keys.first? = second.advanced.core.keys.first? := read
      have registers : first.advanced.core.v = second.advanced.core.v := same.registers
      have keyWait : first.advanced.core.keyWait = second.advanced.core.keyWait := same.keyWait
      simp only [Instruction.writes, agreeOn_cons, Part.Agree, exec, keys]
      cases second.advanced.core.keys.first? <;>
        simp [yields, withCore, Core.set, pc, registers, keyWait]
  | _ => exact absurd rfl sighted

/-- What a step leaves in the parts that it writes depends on nothing else outside than what it
reads there. -/
theorem agreeOn_stepWrites (same : SameInside first second)
    (read : first.reading? = second.reading?) :
    AgreeOn first.stepWrites first.step.machine second.step.machine := by
  by_cases blind : first.reading? = none
  · exact step_congr (same.agreeOn_stepReads blind)
  · rcases exists_isAt_of_reading? blind with ⟨x, awaiting⟩ | ⟨instruction, isAt⟩
    · have otherAwaiting : second.core.keyWait = some x := same.keyWait ▸ awaiting
      simp only [reading?, awaiting, otherAwaiting, Option.some.injEq,
        Reading.firstHeld.injEq] at read
      rw [stepWrites, awaiting, step_of_awaiting awaiting, step_of_awaiting otherAwaiting]
      exact same.resume_agreeOn_writes awaiting read
    · have otherAt := same.isAt isAt
      rw [isAt.reading?_eq] at read blind
      rw [otherAt.reading?_eq] at read
      rw [isAt.stepWrites_eq, isAt.step_machine, otherAt.step_machine]
      exact same.exec_agreeOn_writes blind read

/-- Machines that differ in nothing but their timers and keys, and read the same from these, still
do so after a step. -/
theorem step (same : SameInside first second) (read : first.reading? = second.reading?) :
    SameInside first.step.machine second.step.machine :=
  agree_off_of_writes same (same.agreeOn_stepWrites read) step_frame
    (fun part untouched => step_frame part (same.stepWrites_eq ▸ untouched))

end SameInside

/-! ## Runs -/

/-- The machines take one step after the other, between which nothing but timers and keys changes,
starting at the given one. -/
def Leads (machine : Machine) : List Machine → Prop
  | [] => True
  | next :: later => SameInside machine next ∧ Leads next.step.machine later

theorem Leads.of_sameInside {machines : List Machine} (same : SameInside first second)
    (leads : Leads second machines) : Leads first machines := by
  cases machines with
  | nil => trivial
  | cons next later => exact ⟨same.trans leads.1, leads.2⟩

/-- While two runs of steps read the same, they are the same in everything that does not depend on
timers and keys. -/
theorem Leads.filterMap_isPrefix {α : Type} {seen? : Machine → Option α}
    (inside : ∀ {first second}, SameInside first second → seen? first = seen? second)
    {machines others : List Machine} (same : SameInside first second)
    (leads : Leads first machines) (otherLeads : Leads second others)
    (readings : machines.map reading? <+: others.map reading?) :
    machines.filterMap seen? <+: others.filterMap seen? := by
  induction machines generalizing first second others with
  | nil => exact List.nil_prefix
  | cons next later ih =>
      cases others with
      | nil => cases List.prefix_nil.mp readings
      | cons other others =>
          obtain ⟨read, readings⟩ := List.cons_prefix_cons.mp readings
          have sameNext : SameInside next other :=
            (leads.1.symm.trans same).trans otherLeads.1
          have rest := ih (sameNext.step read) leads.2 otherLeads.2 readings
          rw [List.filterMap_cons, List.filterMap_cons, inside sameNext]
          cases seen? other with
          | none => exact rest
          | some value => exact (List.prefix_cons_inj value).mpr rest

end Machine

namespace Request

theorem effect_agree {event : Request} {first second : Machine} {part : Part}
    (agree : part.Agree first second) :
    part.Agree (event.effect first) (event.effect second) := by
  cases event with
  | tick | setKey | clearKeys =>
      cases part <;> simp_all [effect, Part.Agree, Machine.withCore, Core.countDown, Core.setKey,
        Core.clearKeys]
  | _ => exact agree

theorem mem_outer_of_touches {event : Request} {part : Part} (touched : part ∈ event.touches) :
    part ∈ Part.outer := by
  cases event with
  | tick => exact List.mem_append_left [Part.keys] touched
  | setKey | clearKeys => exact List.mem_append_right [Part.delay, .sound] touched
  | _ => cases touched

theorem touches_ne_nil_of_isPassing {request : Request} (passing : request.isPassing)
    (other : request.isStep = false) : request.touches ≠ [] := by
  cases request with
  | tick | setKey | clearKeys => exact List.cons_ne_nil _ _
  | step => cases other
  | _ => cases passing

end Request

namespace Console

variable {σ : Type} (beeper : Beeper σ)

theorem serve_sameInside (console : Console σ) {event : Request} (touches : event.touches ≠ []) :
    Machine.SameInside console.machine (console.serve beeper event).2.machine := by
  intro part inner
  rw [serve_event beeper console touches]
  exact Part.agree_symm
    (event.effect_isLocal.frame _ part fun touched => inner (Request.mem_outer_of_touches touched))

theorem leads_machinesAt (console : Console σ) {requests : List Request}
    (passing : ∀ request ∈ requests, request.isPassing) :
    Machine.Leads console.machine (console.machinesAt beeper Request.isStep requests) := by
  induction requests generalizing console with
  | nil => trivial
  | cons request requests ih =>
      have pass := passing request (.head requests)
      have rest := ih (console.serve beeper request).2
        fun later member => passing later (.tail request member)
      rw [machinesAt]
      cases step : request.isStep with
      | true =>
          cases request with
          | step => exact ⟨fun part _ => part.agree_refl console.machine, rest⟩
          | _ => cases step
      | false =>
          have event := Request.touches_ne_nil_of_isPassing pass step
          exact rest.of_sameInside (serve_sameInside beeper console event)

/-! ## Events that no step reads -/

section

variable {hidden : List Part} {first second : Console σ}

/-- While its steps do not read hidden parts, a run reads the same whatever these hold, and changes
the other parts in the same way. -/
theorem run_congr_off {requests : List Request} (passing : ∀ request ∈ requests, request.isPassing)
    (agree : ∀ part ∉ hidden, part.Agree first.machine second.machine)
    (unread : ∀ machine ∈ first.machinesAt beeper Request.isStep requests,
      ∀ part ∈ hidden, part ∉ machine.stepReads) :
    (first.machinesAt beeper Request.isStep requests).map Machine.reading? =
        (second.machinesAt beeper Request.isStep requests).map Machine.reading? ∧
      ∀ part ∉ hidden, part.Agree (first.run beeper requests).machine
        (second.run beeper requests).machine := by
  induction requests generalizing first second with
  | nil => exact ⟨rfl, agree⟩
  | cons request requests ih =>
      have pass := passing request (.head requests)
      have passingLater := fun other member => passing other (.tail request member)
      rw [run_cons, run_cons]
      cases step : request.isStep with
      | true =>
          cases request with
          | step =>
              obtain ⟨now, later⟩ := List.forall_mem_cons.mp unread
              have next := (Machine.step_congr_off agree now).2
              have served : ∀ part ∉ hidden, part.Agree (first.serve beeper .step).2.machine
                  (second.serve beeper .step).2.machine := next
              obtain ⟨readings, last⟩ := ih passingLater served later
              have read : first.machine.reading? = second.machine.reading? :=
                Machine.reading?_congr fun part read =>
                  agree part fun member => now part member read
              exact ⟨List.cons_eq_cons.mpr ⟨read, readings⟩, last⟩
          | _ => cases step
      | false =>
          have event := Request.touches_ne_nil_of_isPassing pass step
          have next : ∀ part ∉ hidden, part.Agree (first.serve beeper request).2.machine
              (second.serve beeper request).2.machine := by
            intro part visible
            rw [serve_event beeper first event, serve_event beeper second event]
            exact Request.effect_agree (agree part visible)
          simp only [machinesAt, step, Bool.false_eq_true, ↓reduceIte] at unread ⊢
          exact ih passingLater next unread

theorem elements_congr_off {request : Request} (outer : ∀ part ∈ hidden, part ∈ Part.outer)
    (agree : ∀ part ∉ hidden, part.Agree first.machine second.machine)
    (unread : ∀ machine ∈
      first.machinesAt beeper Request.isStep (request.elements first.machine),
      ∀ part ∈ hidden, part ∉ machine.stepReads) :
    request.elements second.machine = request.elements first.machine := by
  cases request with
  | run count =>
      rw [Request.elements, machinesAt_path] at unread
      rw [Request.elements, Request.elements, List.map_const', List.map_const',
        Machine.length_path_congr_off count agree unread]
  | frame =>
      have config : first.machine.config = second.machine.config :=
        agree .config fun member => absurd (outer .config member) (by decide)
      have ticked : ∀ part ∉ hidden, part.Agree
          (Request.tick.effect first.machine) (Request.tick.effect second.machine) :=
        fun part visible => Request.effect_agree (agree part visible)
      have found : first.machinesAt beeper Request.isStep (Request.frame.elements first.machine) =
          (Request.tick.effect first.machine).path first.machine.config.cyclesPerFrame := by
        have ticks : Request.tick.touches ≠ [] := List.cons_ne_nil _ _
        have path := machinesAt_path beeper first.machine.config.cyclesPerFrame
          (first.serve beeper .tick).2
        rw [serve_event beeper first ticks] at path
        exact path
      rw [found] at unread
      have length := Machine.length_path_congr_off _ ticked unread
      simp only [Request.elements, List.map_const', ← config]
      exact congrArg (fun count => Request.tick :: List.replicate count .step) length
  | _ => rfl

/-- Whatever the parts hold that no step of a run reads, the run reads the same. -/
theorem readings_congr_off {requests : List Request}
    (driving : ∀ request ∈ requests, request.isDriving)
    (outer : ∀ part ∈ hidden, part ∈ Part.outer)
    (agree : ∀ part ∉ hidden, part.Agree first.machine second.machine)
    (unread : ∀ machine ∈ first.steps beeper requests,
      ∀ part ∈ hidden, part ∉ machine.stepReads) :
    (first.steps beeper requests).map Machine.reading? =
      (second.steps beeper requests).map Machine.reading? := by
  induction requests generalizing first second with
  | nil => rfl
  | cons request requests ih =>
      rw [steps_cons] at unread ⊢
      obtain ⟨now, later⟩ := List.forall_mem_append.mp unread
      have same := elements_congr_off beeper outer agree now
      have passing : ∀ element ∈ request.elements first.machine, element.isPassing :=
        fun element => Request.isPassing_of_mem_elements (driving request (.head requests))
      obtain ⟨readings, next⟩ := run_congr_off beeper passing agree now
      rw [run_elements_singleton, ← same, run_elements_singleton] at next
      rw [steps_cons, List.map_append, List.map_append, readings, same]
      rw [ih (fun other member => driving other (.tail request member)) next later]

end

end Console

end Chip8
