import Chip8.Proofs.Configuration
import Chip8.Proofs.Footprint
import Chip8.Proofs.History

/-!
# Timers and beeps

Between two writes a timer counts down once for each tick and stops at zero. Each tick that finds
the sound timer running beeps once, so over a run the beeps and what is left on the sound timer are
what it held at the start and what the program has added to it (`Console.run_timers`).
-/

namespace Chip8

/-! ## Timers -/

inductive Timer where
  | delay
  | sound
  deriving DecidableEq

namespace Timer

def value (core : Core) : Timer → UInt8
  | .delay => core.delay
  | .sound => core.sound

/-- The instruction that writes a register to the timer. -/
def setter (x : Register) : Timer → Instruction
  | .delay => .setDelay x
  | .sound => .setSound x

theorem value_countDown (core : Core) (timer : Timer) :
    (timer.value core.countDown.2).toNat = (timer.value core).toNat - 1 := by
  rw [Core.countDown_snd]
  cases timer with
  | delay =>
      exact UInt8.toNat_ofNat_of_lt' (Nat.lt_of_le_of_lt (Nat.sub_le ..) core.delay.toNat_lt)
  | sound =>
      exact UInt8.toNat_ofNat_of_lt' (Nat.lt_of_le_of_lt (Nat.sub_le ..) core.sound.toNat_lt)

theorem value_step_of_unset {machine : Machine} (timer : Timer)
    (unset : ∀ x, machine.executed? ≠ some (timer.setter x)) :
    timer.value machine.step.machine.core = timer.value machine.core := by
  cases timer with
  | delay =>
      refine Machine.step_frame .delay fun written => ?_
      obtain ⟨instruction, isAt, writes⟩ : ∃ instruction, machine.IsAt instruction ∧
          .delay ∈ instruction.writes := by simpa using Machine.mem_stepWrites written
      cases instruction with
      | setDelay x => exact unset x (Machine.executed?_of_isAt isAt rfl)
      | _ => simp [Instruction.writes] at writes
  | sound =>
      refine Machine.step_frame .sound fun written => ?_
      obtain ⟨instruction, isAt, writes⟩ : ∃ instruction, machine.IsAt instruction ∧
          .sound ∈ instruction.writes := by simpa using Machine.mem_stepWrites written
      cases instruction with
      | setSound x => exact unset x (Machine.executed?_of_isAt isAt rfl)
      | _ => simp [Instruction.writes] at writes

end Timer

namespace Machine

/-- By how much the next step raises the sound timer, if it executes `Fx18`: the value written less
the value replaced. -/
def soundChange? (machine : Machine) : Option Int :=
  match machine.executed? with
  | some (.setSound x) => some ((machine.core.get x).toNat - machine.core.sound.toNat)
  | _ => none

theorem step_sound (machine : Machine) :
    (machine.step.machine.core.sound.toNat : Int) =
      machine.core.sound.toNat + machine.soundChange?.getD 0 := by
  by_cases writes : ∃ x, machine.executed? = some (.setSound x)
  · obtain ⟨x, executed⟩ := writes
    have written : machine.step.machine.core.sound = machine.core.get x := by
      rw [(isAt_of_executed? executed).1.step_machine]
      rfl
    rw [written, soundChange?, executed, Option.getD_some]
    omega
  · have kept : machine.step.machine.core.sound = machine.core.sound :=
      Timer.value_step_of_unset .sound fun x executed => writes ⟨x, executed⟩
    have unwritten : machine.soundChange? = none := by
      unfold soundChange?
      split
      next x executed => exact absurd ⟨x, executed⟩ writes
      next => rfl
    rw [kept, unwritten, Option.getD_none, Int.add_zero]

end Machine

/-! ## Beepers -/

def Beeper.after {σ : Type} (beeper : Beeper σ) : Nat → σ → σ
  | 0, state => state
  | count + 1, state => beeper.after count (beeper.beep state).1

namespace Bell

/-- A terminal bell whose writes fail now and then, as its state decides. -/
def unreliable (refusal? : Bell → Option IoFault) : Beeper Bell where
  beep bell := (ringing (refusal? bell)).beep bell

theorem beeps_after (refusal? : Bell → Option IoFault) (count : Nat) (bell : Bell) :
    ((unreliable refusal?).after count bell).beeps = bell.beeps + count := by
  induction count generalizing bell with
  | zero => rfl
  | succ count ih =>
      have once : ((unreliable refusal?).beep bell).1.beeps = bell.beeps + 1 := by
        simp only [unreliable, ringing]
        split <;> rfl
      rw [Beeper.after, ih, once]
      omega

end Bell

/-! ## Runs -/

namespace Console

variable {σ : Type} (beeper : Beeper σ)

theorem run_timer_of_unset {timer : Timer} (requests : List Request) {console : Console σ}
    (passing : ∀ request ∈ requests, request.isPassing)
    (unset : ∀ machine ∈ console.machinesAt beeper Request.isStep requests,
      ∀ x, machine.executed? ≠ some (timer.setter x)) :
    (timer.value (console.run beeper requests).machine.core).toNat =
      (timer.value console.machine.core).toNat - requests.countP Request.isTick := by
  induction requests generalizing console with
  | nil => rfl
  | cons request requests ih =>
      have passingLater := fun other member => passing other (.tail request member)
      have pass := passing request (.head requests)
      rw [run_cons, List.countP_cons]
      cases request with
      | step =>
          obtain ⟨now, later⟩ := List.forall_mem_cons.mp unset
          rw [ih passingLater later]
          exact congrArg (UInt8.toNat · - _) (Timer.value_step_of_unset timer now)
      | tick =>
          have counted : (timer.value (console.serve beeper .tick).2.machine.core).toNat =
              (timer.value console.machine.core).toNat - 1 := by
            simp only [serve, Machine.tick_machine]
            exact Timer.value_countDown console.machine.core timer
          rw [ih passingLater unset, counted, Nat.sub_sub, Nat.add_comm]
          rfl
      | setKey | clearKeys =>
          rw [ih passingLater unset]
          cases timer <;> rfl
      | _ => cases pass

def soundingTicks (console : Console σ) (requests : List Request) : Nat :=
  (console.machinesAt beeper Request.isTick requests).countP fun machine => machine.core.sound != 0

/-- The sum of what the steps of a run that execute `Fx18` add to the sound timer. -/
def soundChanges (console : Console σ) (requests : List Request) : Int :=
  ((console.machinesAt beeper Request.isStep requests).filterMap Machine.soundChange?).foldr
    (· + ·) 0

theorem soundingTicks_tick (console : Console σ) (requests : List Request) :
    console.soundingTicks beeper (.tick :: requests) =
      (console.serve beeper .tick).2.soundingTicks beeper requests +
        if console.machine.core.sound = 0 then 0 else 1 := by
  simp only [soundingTicks, machinesAt, Request.isTick, ↓reduceIte, List.countP_cons, bne_iff_ne,
    ne_eq, ite_not]

theorem soundChanges_step (console : Console σ) (requests : List Request) :
    console.soundChanges beeper (.step :: requests) = console.machine.soundChange?.getD 0 +
      (console.serve beeper .step).2.soundChanges beeper requests := by
  simp only [soundChanges, machinesAt, Request.isStep, ↓reduceIte, List.filterMap_cons]
  cases console.machine.soundChange? with
  | none => exact (Int.zero_add _).symm
  | some change => rfl

/-- The beeper beeps once on each tick that finds the sound timer running, and never else. -/
theorem run_bell (requests : List Request) (console : Console σ)
    (passing : ∀ request ∈ requests, request.isPassing) :
    (console.run beeper requests).bell =
      beeper.after (console.soundingTicks beeper requests) console.bell := by
  induction requests generalizing console with
  | nil => rfl
  | cons request requests ih =>
      have passingLater := fun other member => passing other (.tail request member)
      have pass := passing request (.head requests)
      rw [run_cons, ih _ passingLater]
      cases request with
      | tick =>
          rw [soundingTicks_tick, serve, Machine.tick_beeper]
          split <;> rfl
      | step | setKey | clearKeys => rfl
      | _ => cases pass

/-- The beeps of a run and what it leaves on the sound timer are what it finds there and what its
steps add. -/
theorem run_sound (requests : List Request) (console : Console σ)
    (passing : ∀ request ∈ requests, request.isPassing) :
    (console.soundingTicks beeper requests : Int) +
        (console.run beeper requests).machine.core.sound.toNat =
      console.machine.core.sound.toNat + console.soundChanges beeper requests := by
  induction requests generalizing console with
  | nil => exact Int.add_comm ..
  | cons request requests ih =>
      have passingLater := fun other member => passing other (.tail request member)
      have pass := passing request (.head requests)
      have rest := ih (console.serve beeper request).2 passingLater
      rw [run_cons]
      cases request with
      | tick =>
          have unchanged : console.soundChanges beeper (.tick :: requests) =
              (console.serve beeper .tick).2.soundChanges beeper requests := rfl
          have counted : (console.serve beeper .tick).2.machine.core.sound.toNat =
              console.machine.core.sound.toNat - 1 := by
            simp only [serve, Machine.tick_machine]
            exact Timer.value_countDown console.machine.core .sound
          have silent : console.machine.core.sound = 0 ↔ console.machine.core.sound.toNat = 0 :=
            UInt8.toNat_inj.symm
          simp only [soundingTicks_tick, unchanged, silent]
          split <;> omega
      | step =>
          have untouched : console.soundingTicks beeper (.step :: requests) =
              (console.serve beeper .step).2.soundingTicks beeper requests := rfl
          have written := console.machine.step_sound
          have next : (console.serve beeper .step).2.machine = console.machine.step.machine := rfl
          rw [soundChanges_step, untouched]
          rw [next] at rest
          omega
      | setKey | clearKeys => exact rest
      | _ => cases pass

/-! ## Counting beeps -/

theorem countP_isTick_elements (machine : Machine) (request : Request) :
    (request.elements machine).countP Request.isTick ≤ 1 := by
  have noSteps (machines : List Machine) :
      (machines.map fun _ => Request.step).countP Request.isTick = 0 := by
    refine List.countP_eq_zero.mpr fun request member => ?_
    obtain ⟨machine, -, rfl⟩ := List.mem_map.mp member
    exact Bool.false_ne_true
  cases request with
  | run count => rw [Request.elements, noSteps]; exact Nat.zero_le 1
  | frame => rw [Request.elements, List.countP_cons, noSteps]; exact Nat.le_refl 1
  | _ => exact List.countP_le_length

theorem countP_isTick_elements_le (requests : List Request) (console : Console σ) :
    (console.elements beeper requests).countP Request.isTick ≤ requests.length := by
  induction requests generalizing console with
  | nil => exact Nat.le_refl 0
  | cons request requests ih =>
      have first := countP_isTick_elements console.machine request
      rw [elements, List.countP_append, List.length_cons, Nat.add_comm]
      exact Nat.add_le_add (ih (console.serve beeper request).2) first

/-- A bell beeps at most once for each request, so its counter of 64 bits lasts for any run that is
shorter than what is left of its range. -/
theorem beeps_run_le (refusal? : Bell → Option IoFault) (console : Console Bell)
    {requests : List Request} (driving : ∀ request ∈ requests, request.isDriving) :
    (console.run (Bell.unreliable refusal?) requests).bell.beeps ≤
      console.bell.beeps + requests.length := by
  let beeper := Bell.unreliable refusal?
  have passing : ∀ element ∈ console.elements beeper requests, element.isPassing :=
    fun element => isPassing_of_mem_elements beeper driving
  rw [← run_elements, run_bell beeper _ console passing, Bell.beeps_after]
  have ticks : console.soundingTicks beeper (console.elements beeper requests) ≤
      (console.elements beeper requests).countP Request.isTick := by
    rw [← length_machinesAt beeper]
    exact List.countP_le_length
  exact Nat.add_le_add_left (Nat.le_trans ticks (countP_isTick_elements_le beeper ..)) _

/-! ## Beepers do not matter -/

section

variable {τ : Type} (otherBeeper : Beeper τ) {first : Console σ} {second : Console τ}

/-- What a run leaves on the machine does not depend on the beeper, and neither do its answers. -/
theorem run_congr_machine (same : second.machine = first.machine) (requests : List Request) :
    second.answers otherBeeper requests = first.answers beeper requests ∧
      (second.run otherBeeper requests).machine = (first.run beeper requests).machine := by
  have sameConfig : second.machine = first.machine.withConfig first.machine.config := same
  have pace : .frame ∈ requests →
      first.machine.config.cyclesPerFrame = first.machine.config.cyclesPerFrame := fun _ => rfl
  obtain ⟨answers, machine⟩ := run_withConfig beeper otherBeeper sameConfig pace
  have config : (first.run beeper requests).machine.config = first.machine.config :=
    run_keeps beeper (fun console => console.machine.config = first.machine.config) (fun _ => True)
      (fun console request _ kept => (serve_config beeper console request).trans kept)
      requests first (fun _ _ => trivial) rfl
  refine ⟨answers, ?_⟩
  rw [machine, ← config]
  rfl

theorem machinesAt_congr (same : second.machine = first.machine) (kind : Request → Bool)
    (requests : List Request) :
    second.machinesAt otherBeeper kind requests = first.machinesAt beeper kind requests := by
  induction requests generalizing first second with
  | nil => rfl
  | cons request requests ih =>
      have next : (second.serve otherBeeper request).2.machine =
          (first.serve beeper request).2.machine :=
        (run_congr_machine beeper otherBeeper same [request]).2
      rw [machinesAt, machinesAt, ih next, same]

theorem elements_congr (same : second.machine = first.machine) (requests : List Request) :
    second.elements otherBeeper requests = first.elements beeper requests := by
  induction requests generalizing first second with
  | nil => rfl
  | cons request requests ih =>
      have next : (second.serve otherBeeper request).2.machine =
          (first.serve beeper request).2.machine :=
        (run_congr_machine beeper otherBeeper same [request]).2
      rw [elements, elements, ih next, same]

end

/-- **Timers and beeps balance.** A run that is driven by steps, runs of steps, frames, ticks and
key events amounts to single steps, ticks and key events, whether or not steps fail. For every
beeper it leaves the same machine and gives the same answers, and the beeper beeps once for each
tick that finds the sound timer running, also if it is a bell whose writes fail. The number of beeps
is what the sound timer has lost in the end, and what executed `Fx18`s have added to it on the way.
Between two writes to a timer, it counts down once for each tick and stops at zero. -/
theorem run_timers (console : Console σ) (requests : List Request)
    (driving : ∀ request ∈ requests, request.isDriving) :
    let later := console.run beeper requests
    let elements := console.elements beeper requests
    let beeps := console.soundingTicks beeper elements
    ((∀ element ∈ elements, element.isPassing) ∧ console.run beeper elements = later) ∧
    (beeps : Int) = console.machine.core.sound.toNat - later.machine.core.sound.toNat +
      console.soundChanges beeper elements ∧
    (∀ (timer : Timer) (first middle last : List Request), elements = first ++ middle ++ last →
      let before := console.run beeper first
      (∀ machine ∈ before.machinesAt beeper Request.isStep middle,
        ∀ x, machine.executed? ≠ some (timer.setter x)) →
      (timer.value (before.run beeper middle).machine.core).toNat =
        (timer.value before.machine.core).toNat - middle.countP Request.isTick) ∧
    (∀ {τ : Type} (otherBeeper : Beeper τ) (bell : τ),
      let twin : Console τ := ⟨console.machine, bell⟩
      (twin.run otherBeeper requests).machine = later.machine ∧
        twin.answers otherBeeper requests = console.answers beeper requests ∧
        (twin.run otherBeeper requests).bell = otherBeeper.after beeps bell) ∧
    ∀ (refusal? : Bell → Option IoFault) (bell : Bell),
      let twin : Console Bell := ⟨console.machine, bell⟩
      (twin.run (Bell.unreliable refusal?) requests).bell.beeps = bell.beeps + beeps := by
  intro later elements beeps
  have passing : ∀ element ∈ elements, element.isPassing :=
    fun element => isPassing_of_mem_elements beeper driving
  have same : console.run beeper elements = later := run_elements beeper console requests
  have twins : ∀ {τ : Type} (otherBeeper : Beeper τ) (bell : τ),
      let twin : Console τ := ⟨console.machine, bell⟩
      (twin.run otherBeeper requests).bell = otherBeeper.after beeps bell := by
    intro τ otherBeeper bell twin
    have sameElements : twin.elements otherBeeper requests = elements :=
      elements_congr beeper otherBeeper rfl requests
    have sameBeeps : twin.soundingTicks otherBeeper elements = beeps := by
      rw [soundingTicks, machinesAt_congr beeper otherBeeper rfl]
      rfl
    rw [← run_elements, sameElements, run_bell otherBeeper elements twin passing, sameBeeps]
  refine ⟨⟨passing, same⟩, ?_, ?_, ?_, ?_⟩
  · have balance := run_sound beeper elements console passing
    rw [same] at balance
    omega
  · intro timer first middle last split before unset
    refine run_timer_of_unset beeper middle (fun element member => passing element ?_) unset
    rw [split]
    exact List.mem_append_left last (List.mem_append_right first member)
  · intro τ otherBeeper bell twin
    have sameMachine : twin.machine = console.machine := rfl
    obtain ⟨answers, machine⟩ := run_congr_machine beeper otherBeeper sameMachine requests
    exact ⟨machine, answers, twins otherBeeper bell⟩
  · intro refusal? bell twin
    rw [twins (Bell.unreliable refusal?) bell, Bell.beeps_after]

/-- A tone of two ticks on a bell that refuses to ring. The frame fails after its tick. -/
theorem run_timers_of_refused_bell :
    let core : Core :=
      { Core.initial with
        v := Vector.replicate 16 2
        memory := Memory.zero.store 0x200 [0xF0, 0x18, 0x00, 0xEE, 0xF0, 0x0A] }
    let console : Console Unit := ⟨⟨core, .start (Vector.replicate 8 0), {}⟩, ()⟩
    let requests : List Request := [.tick, .step, .frame, .setKey 3 true, .run 1, .tick, .tick]
    let elements := console.elements (.silent Unit) requests
    let bell : Bell := { beeps := 7 }
    let ringing : Console Bell := ⟨console.machine, bell⟩
    (∀ request ∈ requests, request.isDriving) ∧
      elements.countP Request.isTick = 4 ∧ elements.countP Request.isStep = 3 ∧
      console.soundChanges (.silent Unit) elements = 2 ∧
      (ringing.run (Bell.unreliable fun _ => some .deviceFull) requests).bell.beeps = 9 := by
  intro core console requests elements bell ringing
  have driving : ∀ request ∈ requests, request.isDriving := by decide
  have ticks : elements.countP Request.isTick = 4 := by decide +kernel
  have steps : elements.countP Request.isStep = 3 := by decide +kernel
  have changes : console.soundChanges (.silent Unit) elements = 2 := by decide +kernel
  have spent : (console.run (.silent Unit) requests).machine.core.sound = 0 := by decide +kernel
  obtain ⟨_, balance, _, _, refused⟩ := run_timers (.silent Unit) console requests driving
  have beeps : console.soundingTicks (.silent Unit) elements = 2 := by
    rw [changes, spent] at balance
    exact Int.ofNat_inj.mp balance
  refine ⟨driving, ticks, steps, changes, ?_⟩
  rw [refused, beeps]

end Console

end Chip8
