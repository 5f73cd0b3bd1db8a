import Chip8.Proofs.Console
import Chip8.Proofs.Footprint

/-!
# Host events and steps

Timer ticks and key events commute with steps that do not look at the timers or the keys. So an
event can be moved across any block of such steps, and no step of the block can tell
(`Console.events_commute`).
-/

namespace Chip8

namespace Request

/-- The parts of a machine that a timer tick or a key event changes. -/
def touches : Request → List Part
  | .tick => [.delay, .sound]
  | .setKey .. | .clearKeys => [.keys]
  | _ => []

/-- What a timer tick or a key event does to a machine. -/
def effect (machine : Machine) : Request → Machine
  | .tick => machine.withCore machine.core.countDown.2
  | .setKey key pressed => machine.withCore (machine.core.setKey key pressed)
  | .clearKeys => machine.withCore machine.core.clearKeys
  | _ => machine

/-- The next step of the machine does not look at what the timer tick or the key event changes. -/
def IsUnseenBy (machine : Machine) : Request → Prop
  | .tick => ∀ x, ¬ machine.IsAt (.loadDelay x) ∧ ¬ machine.IsAt (.setDelay x) ∧
      ¬ machine.IsAt (.setSound x)
  | .setKey .. | .clearKeys => machine.core.keyWait = none ∧ ∀ x,
      ¬ machine.IsAt (.skipIfPressed x) ∧ ¬ machine.IsAt (.skipUnlessPressed x) ∧
      ¬ machine.IsAt (.awaitKey x)
  | _ => False

theorem effect_isLocal (event : Request) :
    Machine.IsLocal event.touches fun machine => event.effect machine where
  frame := by
    intro machine part other
    cases event with
    | tick | setKey | clearKeys =>
        cases part <;> first | rfl | simp [touches] at other
    | _ => exact part.agree_refl machine
  congr := by
    intro first second agree
    cases event with
    | tick | setKey | clearKeys =>
        simp only [touches, Machine.agreeOn_cons, Part.Agree] at agree
        simp [touches, effect, Part.Agree, Machine.withCore, Core.countDown, Core.setKey,
          Core.clearKeys, agree]
    | _ => exact agree

theorem not_mem_stepReads {event : Request} {machine : Machine} (unseen : event.IsUnseenBy machine)
    {part : Part} (touched : part ∈ event.touches) : part ∉ machine.stepReads := by
  intro read
  have used := Machine.mem_stepReads read
  cases event with
  | tick =>
      obtain rfl | rfl : part = .delay ∨ part = .sound := by simpa [touches] using touched
      · obtain ⟨instruction, isAt, reads⟩ : ∃ instruction, machine.IsAt instruction ∧
            .delay ∈ instruction.reads := by simpa using used
        cases instruction with
        | loadDelay x => exact (unseen x).1 isAt
        | _ => simp [Instruction.reads] at reads
      · obtain ⟨instruction, isAt, reads⟩ : ∃ instruction, machine.IsAt instruction ∧
            .sound ∈ instruction.reads := by simpa using used
        cases instruction <;> simp [Instruction.reads] at reads
  | setKey | clearKeys =>
      obtain rfl : part = .keys := by simpa [touches] using touched
      obtain ⟨running, blind⟩ := unseen
      obtain ⟨instruction, isAt, reads⟩ : ∃ instruction, machine.IsAt instruction ∧
          .keys ∈ instruction.reads := by simpa [running] using used
      cases instruction with
      | skipIfPressed x => exact (blind x).1 isAt
      | skipUnlessPressed x => exact (blind x).2.1 isAt
      | awaitKey x => exact (blind x).2.2 isAt
      | _ => simp [Instruction.reads] at reads
  | _ => exact unseen

theorem not_mem_stepWrites {event : Request} {machine : Machine}
    (unseen : event.IsUnseenBy machine) {part : Part} (touched : part ∈ event.touches) :
    part ∉ machine.stepWrites := by
  intro written
  have used := Machine.mem_stepWrites written
  cases event with
  | tick =>
      obtain rfl | rfl : part = .delay ∨ part = .sound := by simpa [touches] using touched
      · obtain ⟨instruction, isAt, writes⟩ : ∃ instruction, machine.IsAt instruction ∧
            .delay ∈ instruction.writes := by simpa using used
        cases instruction with
        | setDelay x => exact (unseen x).2.1 isAt
        | _ => simp [Instruction.writes] at writes
      · obtain ⟨instruction, isAt, writes⟩ : ∃ instruction, machine.IsAt instruction ∧
            .sound ∈ instruction.writes := by simpa using used
        cases instruction with
        | setSound x => exact (unseen x).2.2 isAt
        | _ => simp [Instruction.writes] at writes
  | setKey | clearKeys =>
      obtain rfl : part = .keys := by simpa [touches] using touched
      obtain ⟨instruction, _, writes⟩ : ∃ instruction, machine.IsAt instruction ∧
          .keys ∈ instruction.writes := by simpa using used
      cases instruction <;> simp [Instruction.writes] at writes
  | _ => exact unseen

theorem IsUnseenBy.touches_ne_nil {event : Request} {machine : Machine}
    (unseen : event.IsUnseenBy machine) : event.touches ≠ [] := by
  cases event with
  | tick | setKey | clearKeys => exact List.cons_ne_nil _ _
  | _ => cases unseen

theorem IsUnseenBy.step_effect {event : Request} {machine : Machine}
    (unseen : event.IsUnseenBy machine) :
    (event.effect machine).step.result = machine.step.result ∧
      (event.effect machine).step.machine = event.effect machine.step.machine :=
  Machine.step_comm event.effect_isLocal (fun _ => not_mem_stepReads unseen)
    (fun _ => not_mem_stepWrites unseen)

end Request

namespace Console

variable {σ : Type} (beeper : Beeper σ)

theorem serve_event (console : Console σ) {event : Request} (touches : event.touches ≠ []) :
    (console.serve beeper event).2.machine = event.effect console.machine := by
  cases event with
  | tick => exact Machine.tick_machine console.machine beeper console.bell
  | setKey | clearKeys => rfl
  | _ => exact absurd rfl touches

/-- What an event is answered, and what it does to the beeper, depends on what it changes. -/
theorem serve_unseen_congr {first second : Console σ} {event : Request} {machine : Machine}
    (unseen : event.IsUnseenBy machine)
    (agree : Machine.AgreeOn event.touches first.machine second.machine)
    (bell : first.bell = second.bell) :
    (first.serve beeper event).1 = (second.serve beeper event).1 ∧
      (first.serve beeper event).2.bell = (second.serve beeper event).2.bell := by
  cases event with
  | tick =>
      simp only [Request.touches, Machine.agreeOn_cons, Part.Agree] at agree
      simp only [serve, Machine.tick_tone, Machine.tick_beeper, Core.countDown, agree, bell,
        and_self]
  | setKey | clearKeys => exact ⟨rfl, bell⟩
  | _ => cases unseen

theorem serve_step_comm {console : Console σ} {event : Request}
    (unseen : event.IsUnseenBy console.machine) :
    ((console.serve beeper event).2.serve beeper .step).1 = (console.serve beeper .step).1 ∧
      ((console.serve beeper .step).2.serve beeper event).1 = (console.serve beeper event).1 ∧
      ((console.serve beeper event).2.serve beeper .step).2 =
        ((console.serve beeper .step).2.serve beeper event).2 := by
  obtain ⟨result, machine⟩ := unseen.step_effect
  have kept : Machine.AgreeOn event.touches (console.serve beeper .step).2.machine
      console.machine := by
    intro part touched
    exact Machine.step_frame part (Request.not_mem_stepWrites unseen touched)
  obtain ⟨answer, bell⟩ := serve_unseen_congr beeper unseen kept rfl
  have served := serve_event beeper console unseen.touches_ne_nil
  have servedLast := serve_event beeper (console.serve beeper .step).2 unseen.touches_ne_nil
  rw [← served] at result machine
  refine ⟨congrArg Answer.flow result, answer, ?_⟩
  have state := machine.trans servedLast.symm
  change Console.mk _ _ = Console.mk _ _
  rw [state, bell]

/-- An event can be served before or after a block of steps that do not look at it. -/
theorem serve_steps_comm {event : Request} (count : Nat) {console : Console σ}
    (unseen : ∀ index < count,
      event.IsUnseenBy (console.run beeper (List.replicate index .step)).machine) :
    console.run beeper (event :: List.replicate count .step) =
        console.run beeper (List.replicate count .step ++ [event]) ∧
      console.answers beeper (event :: List.replicate count .step) =
        (console.serve beeper event).1 :: console.answers beeper (List.replicate count .step) ∧
      console.answers beeper (List.replicate count .step ++ [event]) =
        console.answers beeper (List.replicate count .step) ++
          [(console.serve beeper event).1] := by
  induction count generalizing console with
  | zero => exact ⟨rfl, rfl, rfl⟩
  | succ count ih =>
      have now : event.IsUnseenBy console.machine := unseen 0 count.succ_pos
      obtain ⟨flow, answer, state⟩ := serve_step_comm beeper now
      have later : ∀ index < count, event.IsUnseenBy
          ((console.serve beeper .step).2.run beeper (List.replicate index .step)).machine :=
        fun index below => unseen (index + 1) (Nat.succ_lt_succ below)
      obtain ⟨laterState, before, after⟩ := ih later
      rw [run_cons] at laterState
      rw [Console.answers, List.cons.injEq] at before
      rw [answer] at after
      simp only [List.replicate_succ, List.cons_append, run_cons, Console.answers, flow, state,
        laterState, before, after, and_self]

/-- **Host events commute with steps that do not look at them.** A timer tick can be served before
or after a step that executes none of `Fx07`, `Fx15` and `Fx18`, whether it waits, ends a wait,
fails or succeeds. A key event can be served before or after a step that executes none of `Ex9E`,
`ExA1` and `Fx0A` and does not wait for a key. Both orders leave the same console and answer alike.
So in the middle of any run an event can be moved across any block of such steps: the steps and all
later requests are answered as before. -/
theorem events_commute (console : Console σ) :
    let machine := console.machine
    let commutes (event : Request) :=
      console.run beeper [event, .step] = console.run beeper [.step, event] ∧
      ∃ answer, console.answers beeper [event, .step] = [answer, .flow machine.step.result] ∧
        console.answers beeper [.step, event] = [.flow machine.step.result, answer]
    ((∀ x, ¬ machine.IsAt (.loadDelay x) ∧ ¬ machine.IsAt (.setDelay x) ∧
        ¬ machine.IsAt (.setSound x)) → commutes .tick) ∧
    (machine.core.keyWait = none →
      (∀ x, ¬ machine.IsAt (.skipIfPressed x) ∧ ¬ machine.IsAt (.skipUnlessPressed x) ∧
        ¬ machine.IsAt (.awaitKey x)) →
      commutes .clearKeys ∧ ∀ key pressed, commutes (.setKey key pressed)) ∧
    (∀ (event : Request) (first last : List Request) (count : Nat),
      let before := console.run beeper first
      let block := List.replicate count .step
      (∀ index < count,
        event.IsUnseenBy (before.run beeper (List.replicate index .step)).machine) →
      console.run beeper (first ++ event :: block ++ last) =
        console.run beeper (first ++ block ++ event :: last) ∧
      ∃ answer later,
        console.answers beeper (first ++ event :: block ++ last) =
          console.answers beeper first ++ answer :: before.answers beeper block ++ later ∧
        console.answers beeper (first ++ block ++ event :: last) =
          console.answers beeper first ++ before.answers beeper block ++ answer :: later) := by
  intro machine commutes
  have comm : ∀ event : Request, event.IsUnseenBy machine → commutes event := by
    intro event unseen
    obtain ⟨flow, answer, state⟩ := serve_step_comm beeper unseen
    refine ⟨state, (console.serve beeper event).1, ?_, ?_⟩
    · simp only [Console.answers, flow]
      rfl
    · simp only [Console.answers, answer]
      rfl
  refine ⟨comm .tick, ?_, ?_⟩
  · intro running blind
    refine ⟨comm .clearKeys ⟨running, blind⟩, ?_⟩
    intro key pressed
    exact comm (.setKey key pressed) ⟨running, blind⟩
  · intro event first last count before block unseen
    obtain ⟨state, early, late⟩ := serve_steps_comm beeper count unseen
    have split : first ++ block ++ event :: last = first ++ (block ++ [event]) ++ last := by simp
    constructor
    · rw [split, run_append, run_append, run_append, run_append]
      exact congrArg (run beeper · last) state
    · refine ⟨(before.serve beeper event).1,
        (before.run beeper (event :: block)).answers beeper last, ?_, ?_⟩
      · rw [answers_append, answers_append, run_append]
        exact congrArg (fun middle => _ ++ middle ++ _) early
      · rw [split, answers_append, answers_append, run_append, state, late]
        simp only [List.append_assoc, List.cons_append, List.nil_append]
        rfl

end Console

end Chip8
