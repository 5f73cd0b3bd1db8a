import Chip8.Proofs.Console
import Chip8.Proofs.Keypad

/-!
# Waiting for a key

A machine that waits for a key while none is held is blocked: no step, run or frame fetches an
instruction or changes anything but the timers. The step that finds a key held leaves the machine
that the waiting instruction would have left, had it found the key at once
(`Machine.IsAt.step_suspend`).
-/

namespace Chip8

/-! ## Timers -/

namespace Core

/-- The core with its timers counted down a number of times. -/
def afterTicks (core : Core) (ticks : Nat) : Core :=
  { core with
    delay := UInt8.ofNat (core.delay.toNat - ticks)
    sound := UInt8.ofNat (core.sound.toNat - ticks) }

theorem afterTicks_zero (core : Core) : core.afterTicks 0 = core := by
  simp only [afterTicks, Nat.sub_zero, UInt8.ofNat_toNat]

theorem afterTicks_afterTicks (core : Core) (first second : Nat) :
    (core.afterTicks first).afterTicks second = core.afterTicks (first + second) := by
  have counted : ∀ timer : UInt8,
      (UInt8.ofNat (timer.toNat - first)).toNat - second = timer.toNat - (first + second) := by
    intro timer
    have bound : timer.toNat - first < UInt8.size :=
      Nat.lt_of_le_of_lt (Nat.sub_le ..) timer.toNat_lt
    rw [UInt8.toNat_ofNat_of_lt' bound, Nat.sub_sub]
  simp only [afterTicks, counted]

private theorem lowered_eq (timer : UInt8) :
    (if timer = 0 then 0 else timer - 1) = UInt8.ofNat (timer.toNat - 1) := by
  split
  next stopped => rw [stopped]; rfl
  next counting =>
    have positive : 1 ≤ timer.toNat :=
      Nat.one_le_iff_ne_zero.mpr fun zero => counting (UInt8.toNat_inj.mp zero)
    rw [← UInt8.ofNat_toNat (x := timer - 1), UInt8.toNat_sub_of_le _ _ positive]
    rfl

theorem countDown_snd (core : Core) : core.countDown.2 = core.afterTicks 1 := by
  simp only [countDown, afterTicks, lowered_eq]

end Core

/-! ## Blocked machines -/

namespace Instruction

theorem flow_eq_keyWait_iff {core : Core} {instruction : Instruction} :
    instruction.flow core = .keyWait ↔
      (∃ x, instruction = .awaitKey x) ∧ core.keys.first? = none := by
  cases instruction <;> simp [flow]

end Instruction

namespace Machine

/-- The machine waits for a key, and none is held. -/
structure IsBlocked (machine : Machine) : Prop where
  awaiting : machine.core.isAwaitingKey = true
  free : machine.core.keys.first? = none

namespace IsBlocked

variable {machine : Machine} (blocked : machine.IsBlocked)

include blocked

theorem step_eq : machine.step = ⟨.ok .keyWait, machine, #[]⟩ := by
  obtain ⟨x, awaiting⟩ := Option.isSome_iff_exists.mp blocked.awaiting
  rw [step_of_awaiting awaiting, resume, blocked.free]

theorem continueRun_eq {count : Nat} (positive : 0 < count) (result : Except Fault Flow)
    (records : Array Record) :
    continueRun count ⟨result, machine, records⟩ = ⟨.ok .keyWait, machine, records⟩ := by
  -- The first step already stops the run.
  obtain ⟨count, rfl⟩ := Nat.exists_eq_succ_of_ne_zero (Nat.ne_of_gt positive)
  rw [continueRun, advance, blocked.step_eq, Array.append_empty]
  rfl

theorem runSteps_eq {count : Nat} (positive : 0 < count) :
    machine.runSteps count = ⟨.ok .keyWait, machine, #[]⟩ :=
  blocked.continueRun_eq positive _ _

theorem tick {σ : Type} (beeper : Beeper σ) (bell : σ) :
    (machine.tick beeper bell).machine.IsBlocked := by
  rw [tick_machine]
  exact ⟨blocked.awaiting, blocked.free⟩

/-- A frame is a tick. -/
theorem runFrame_eq {σ : Type} (beeper : Beeper σ) (bell : σ) :
    let ticked := machine.tick beeper bell
    machine.runFrame beeper bell =
      (⟨.ok .keyWait, ticked.machine, ticked.records⟩, ticked.beeper) := by
  have positive : 0 < machine.config.cyclesPerFrame := Nat.le_max_right ..
  simp only [runFrame, (blocked.tick beeper bell).continueRun_eq positive]

end IsBlocked

/-- An instruction leaves the machine waiting for a key exactly if its flow tells so. -/
theorem exec_isAwaitingKey_iff {machine : Machine} (running : machine.core.keyWait = none)
    (instruction : Instruction) :
    (machine.exec instruction).2.core.isAwaitingKey = true ↔
      instruction.flow machine.core = .keyWait := by
  rw [Instruction.flow_eq_keyWait_iff]
  by_cases waits : ∃ x, instruction = .awaitKey x
  · obtain ⟨x, rfl⟩ := waits
    cases found : machine.core.keys.first? with
    | none => simp [exec, found, yields, withCore, Core.isAwaitingKey]
    | some key => simp [exec, found, yields, withCore, Core.isAwaitingKey, Core.set, running]
  · have untouched : Part.keyWait ∉ instruction.writes := by
      intro writes
      cases instruction with
      | awaitKey x => exact waits ⟨x, rfl⟩
      | _ => simp [Instruction.writes] at writes
    have same : (machine.exec instruction).2.core.keyWait = none :=
      (exec_frame machine instruction .keyWait untouched).trans running
    simp [waits, Core.isAwaitingKey, same]

/-- A successful step tells that the machine waits for a key exactly if it does. -/
theorem step_keyWait_iff {machine : Machine} {flow : Flow}
    (done : machine.step.result = .ok flow) :
    flow = .keyWait ↔ machine.step.machine.core.isAwaitingKey = true := by
  cases wait : machine.core.keyWait with
  | some x =>
      rw [step_of_awaiting wait] at done ⊢
      cases found : machine.core.keys.first? with
      | none =>
          simp only [resume, found, Except.ok.injEq] at done ⊢
          simp [← done, Core.isAwaitingKey, wait]
      | some key =>
          simp only [resume, found, Except.ok.injEq] at done ⊢
          simp [← done, Core.isAwaitingKey, withCore]
  | none =>
      have inside := canFetch_of_ok wait done
      have running : machine.advanced.core.keyWait = none := wait
      rw [step_machine wait inside, exec_isAwaitingKey_iff running]
      rw [step_flow_eq wait done]
      rfl

/-- A step after which the machine waits for a key leaves it blocked. -/
theorem step_isBlocked {machine : Machine} (waits : machine.step.result = .ok .keyWait) :
    machine.step.machine.IsBlocked := by
  refine ⟨(step_keyWait_iff waits).mp rfl, ?_⟩
  cases wait : machine.core.keyWait with
  | some x =>
      rw [step_of_awaiting wait] at waits ⊢
      cases found : machine.core.keys.first? with
      | none =>
          simp only [resume, found]
      | some key =>
          simp only [resume, found] at waits
          cases waits
  | none =>
      have inside := canFetch_of_ok wait waits
      obtain ⟨⟨x, isWait⟩, free⟩ :=
        Instruction.flow_eq_keyWait_iff.mp (step_flow_eq wait waits).symm
      have keys : machine.step.machine.core.keys = machine.advanced.core.keys := by
        rw [step_machine wait inside, isWait]
        exact exec_frame machine.advanced _ .keys (by simp [Instruction.writes])
      rw [keys]
      exact free

/-! ## Suspending and resuming -/

/-- The machine past an instruction that has found no key. -/
def suspend (machine : Machine) (x : Register) : Machine :=
  machine.withCore { machine.core.advanced with keyWait := some x }

theorem suspend_isBlocked {machine : Machine} {x : Register}
    (free : machine.core.keys.first? = none) : (machine.suspend x).IsBlocked :=
  ⟨rfl, free⟩

namespace IsAt

variable {machine : Machine} {x : Register} (isAt : machine.IsAt (.awaitKey x))

include isAt

theorem step_of_free (free : machine.core.keys.first? = none) :
    machine.step.result = .ok .keyWait ∧ machine.step.machine = machine.suspend x := by
  have free : machine.advanced.core.keys.first? = none := free
  rw [isAt.step_result, isAt.step_machine, exec, free]
  exact ⟨rfl, rfl⟩

theorem step_of_held {key : Key} (found : machine.core.keys.first? = some key) :
    machine.step.result = .ok .ok ∧
      machine.step.machine =
        machine.withCore (machine.core.advanced.set x (UInt8.ofNat key.val)) := by
  have found : machine.advanced.core.keys.first? = some key := found
  rw [isAt.step_result, isAt.step_machine, exec, found]
  exact ⟨rfl, rfl⟩

/-- Once a key is held, the suspended machine becomes the one that has found the key at once. -/
theorem step_suspend {key : Key} (found : machine.core.keys.first? = some key) :
    (machine.suspend x).step.result = .ok .ok ∧
      (machine.suspend x).step.machine = machine.step.machine := by
  have held : (machine.suspend x).core.keys.first? = some key := found
  have awaiting : (machine.suspend x).core.keyWait = some x := rfl
  rw [step_of_awaiting awaiting, resume, held, (isAt.step_of_held found).2]
  refine ⟨rfl, congrArg machine.withCore ?_⟩
  -- The resumed step ends the wait, and the direct one never began it.
  have running : none = (machine.core.advanced.set x (UInt8.ofNat key.val)).keyWait :=
    isAt.running.symm
  simp only [running]
  rfl

end IsAt

end Machine

/-! ## Runs of a blocked machine -/

namespace Request

/-- Whether a request lets time pass while no key is pressed. -/
def isIdle : Request → Bool
  | .step | .frame | .tick | .setKey _ false | .clearKeys => true
  | .run count => 0 < count
  | _ => false

/-- Whether a request counts the timers down. -/
def isTick : Request → Bool
  | .frame | .tick => true
  | _ => false

end Request

namespace Console

variable {σ : Type} (beeper : Beeper σ)

def suspend (console : Console σ) (x : Register) : Console σ :=
  console.withMachine (console.machine.suspend x)

theorem serve_tick (console : Console σ) :
    (console.serve beeper .tick).2.machine =
      console.machine.withCore (console.machine.core.afterTicks 1) := by
  simp only [serve, Machine.tick_machine, Core.countDown_snd]

theorem run_ticks (console : Console σ) (ticks : Nat) :
    (console.run beeper (List.replicate ticks .tick)).machine =
      console.machine.withCore (console.machine.core.afterTicks ticks) := by
  induction ticks generalizing console with
  | zero =>
      rw [Core.afterTicks_zero]
      rfl
  | succ ticks ih =>
      rw [List.replicate_succ, run_cons, ih, serve_tick]
      simp only [Machine.withCore, Core.afterTicks_afterTicks, Nat.add_comm 1 ticks]

theorem run_presses (console : Console σ) (keys : List Key) :
    (console.run beeper (keys.map (Request.setKey · true))).machine =
      console.machine.withCore
        { console.machine.core with keys := console.machine.core.keys.pressAll keys } := by
  induction keys generalizing console with
  | nil => rfl
  | cons key keys ih =>
      rw [List.map_cons, run_cons, ih]
      rfl

theorem serve_tick_suspend (console : Console σ) (x : Register) :
    ((console.suspend x).serve beeper .tick).2 = (console.serve beeper .tick).2.suspend x := by
  have tone : (console.suspend x).machine.core.countDown.1 = console.machine.core.countDown.1 := rfl
  simp only [serve, Machine.tick, tone]
  split <;> rfl

theorem run_presses_suspend (console : Console σ) (x : Register) (keys : List Key) :
    (console.suspend x).run beeper (keys.map (Request.setKey · true)) =
      (console.run beeper (keys.map (Request.setKey · true))).suspend x := by
  induction keys generalizing console with
  | nil => rfl
  | cons key keys ih =>
      rw [List.map_cons, run_cons, run_cons, ← ih]
      rfl

/-- A suspended machine on which no key is pressed changes only with its timers. -/
theorem serve_suspend {console : Console σ} {request : Request} (x : Register)
    (idle : request.isIdle) (released : console.machine.core.keys = .released) :
    ((console.suspend x).serve beeper request).2 =
      (if request.isTick then (console.serve beeper .tick).2 else console).suspend x := by
  have blocked : (console.suspend x).machine.IsBlocked :=
    Machine.suspend_isBlocked (released ▸ Keypad.first?_released)
  cases request with
  | step => simp only [serve, blocked.step_eq, withMachine, Request.isTick]; rfl
  | run count =>
      have positive : 0 < count := of_decide_eq_true idle
      simp only [serve, blocked.runSteps_eq positive]
      rfl
  | frame =>
      rw [Request.isTick, if_pos rfl, ← serve_tick_suspend]
      simp only [serve, blocked.runFrame_eq]
  | tick => exact serve_tick_suspend beeper console x
  | setKey key pressed =>
      cases pressed with
      | true => cases idle
      | false =>
          have same : console.machine.core.keys.set key false = console.machine.core.keys := by
            rw [released]
            exact Keypad.release_released key
          have unchanged : (console.suspend x).machine.core.setKey key false =
              { (console.suspend x).machine.core with keys := console.machine.core.keys } :=
            congrArg (fun keys => { (console.suspend x).machine.core with keys }) same
          simp only [serve, change, unchanged]
          rfl
  | clearKeys =>
      simp only [serve, change, Core.clearKeys, ← released]
      rfl
  | _ => cases idle

theorem run_suspend {console : Console σ} (x : Register) (requests : List Request)
    (idle : ∀ request ∈ requests, request.isIdle)
    (released : console.machine.core.keys = .released) :
    (console.suspend x).run beeper requests =
      (console.run beeper (List.replicate (requests.countP Request.isTick) .tick)).suspend x := by
  induction requests generalizing console with
  | nil => rfl
  | cons request requests ih =>
      have idleLater := fun other member => idle other (.tail request member)
      rw [run_cons, serve_suspend beeper x (idle request (.head requests)) released,
        List.countP_cons]
      cases ticks : request.isTick with
      | false => exact ih idleLater released
      | true =>
          have releasedLater : (console.serve beeper .tick).2.machine.core.keys = .released := by
            rw [serve_tick]
            exact released
          simp only [↓reduceIte, List.replicate_succ, run_cons]
          exact ih idleLater releasedLater

/-- While no key is pressed, a machine that has come upon a wait differs only by that from one whose
time passes without it. -/
theorem run_step_awaitKey {console : Console σ} {x : Register}
    (isAt : console.machine.IsAt (.awaitKey x)) (released : console.machine.core.keys = .released)
    (requests : List Request) (idle : ∀ request ∈ requests, request.isIdle) :
    console.run beeper (.step :: requests) =
      (console.run beeper (List.replicate (requests.countP Request.isTick) .tick)).suspend x := by
  have free : console.machine.core.keys.first? = none := released ▸ Keypad.first?_released
  have suspended : (console.serve beeper .step).2 = console.suspend x :=
    congrArg console.withMachine (isAt.step_of_free free).2
  rw [run_cons, suspended, run_suspend beeper x requests idle released]

/-- **Waiting for a key agrees with finding it pressed.** A machine whose next instruction waits for
a key, while none is held, is suspended behind that instruction. However much time passes before a
key is pressed, every step, run and frame tells that the machine waits, fetches nothing, and changes
nothing but the timers, which count down once for each tick. After some keys are pressed, the next
step gives the least of them to the register, and leaves the machine that the instruction leaves if
it is executed after as many ticks and with these keys held. -/
theorem run_awaitKey {console : Console σ} {x : Register}
    (isAt : console.machine.IsAt (.awaitKey x)) (released : console.machine.core.keys = .released)
    (requests : List Request) (idle : ∀ request ∈ requests, request.isIdle) :
    let before := console.machine.core
    let ticks := requests.countP Request.isTick
    let waiting := console.run beeper (.step :: requests)
    let machine := waiting.machine
    console.machine.step.result = .ok .keyWait ∧
    machine = console.machine.withCore
      { before with
        pc := before.pc + 2
        keyWait := some x
        delay := UInt8.ofNat (before.delay.toNat - ticks)
        sound := UInt8.ofNat (before.sound.toNat - ticks) } ∧
    machine.step = ⟨.ok .keyWait, machine, #[]⟩ ∧
    (∀ count, 0 < count → machine.runSteps count = ⟨.ok .keyWait, machine, #[]⟩) ∧
    (let ticked := machine.tick beeper waiting.bell
     (machine.runFrame beeper waiting.bell).1 = ⟨.ok .keyWait, ticked.machine, ticked.records⟩) ∧
    ∀ keys : List Key, keys ≠ [] →
      let presses := keys.map (Request.setKey · true)
      let pressed := (waiting.run beeper presses).machine
      let direct := (console.run beeper (List.replicate ticks .tick ++ presses)).machine
      pressed.step.result = .ok .ok ∧ direct.step.result = .ok .ok ∧
      pressed.step.machine = direct.step.machine ∧
      ∃ least ∈ keys, (∀ other ∈ keys, least ≤ other) ∧
        pressed.step.machine = console.machine.withCore
          { before with
            pc := before.pc + 2
            v := (before.set x (UInt8.ofNat least.val)).v
            keyWait := none
            keys := pressed.core.keys
            delay := UInt8.ofNat (before.delay.toNat - ticks)
            sound := UInt8.ofNat (before.sound.toNat - ticks) } := by
  intro before ticks waiting machine
  have free : before.keys.first? = none := released ▸ Keypad.first?_released
  let ticked := console.run beeper (List.replicate ticks .tick)
  have waits : waiting = ticked.suspend x := run_step_awaitKey beeper isAt released requests idle
  have tickedMachine : ticked.machine = console.machine.withCore (before.afterTicks ticks) :=
    run_ticks beeper console ticks
  have suspended : machine = (console.machine.withCore (before.afterTicks ticks)).suspend x := by
    rw [← tickedMachine]
    exact congrArg Console.machine waits
  have blocked : machine.IsBlocked := by
    rw [suspended]
    exact Machine.suspend_isBlocked free
  refine ⟨(isAt.step_of_free free).1, suspended, blocked.step_eq, fun count => blocked.runSteps_eq,
    ?_, ?_⟩
  · exact congrArg Prod.fst (blocked.runFrame_eq beeper waiting.bell)
  · intro keys some presses pressed direct
    obtain ⟨least, member, below, found⟩ := Keypad.exists_first?_pressAll some
    have split : direct = (ticked.run beeper presses).machine :=
      congrArg Console.machine (run_append beeper console _ presses)
    have directMachine : direct = console.machine.withCore
        { before.afterTicks ticks with keys := Keypad.released.pressAll keys } := by
      rw [split, run_presses, tickedMachine, ← released]
      rfl
    have pressedMachine : pressed = direct.suspend x := by
      rw [split]
      exact congrArg Console.machine (waits ▸ run_presses_suspend beeper ticked x keys)
    have directAt : direct.IsAt (.awaitKey x) := by
      rw [directMachine]
      exact ⟨isAt.running, isAt.inside, isAt.decoded⟩
    have directFound : direct.core.keys.first? = Option.some least := by
      rw [directMachine]
      exact found
    obtain ⟨directResult, loaded⟩ := directAt.step_of_held directFound
    obtain ⟨resumedResult, resumed⟩ := directAt.step_suspend directFound
    rw [← pressedMachine] at resumedResult resumed
    refine ⟨resumedResult, directResult, resumed, least, member, below, ?_⟩
    rw [resumed, loaded, pressedMachine, directMachine]
    have running : none = before.keyWait := isAt.running.symm
    simp only [running]
    rfl

/-- A wait at the end of memory, behind which nothing can be fetched. -/
theorem run_awaitKey_at_end :
    let core : Core :=
      { Core.initial with pc := 0xFFD, sound := 2, memory := Memory.zero.store 0xFFD [0xF3, 0x0A] }
    let console : Console Unit := ⟨⟨core, .start (Vector.replicate 8 0), {}⟩, ()⟩
    let requests : List Request := [.frame, .setKey 5 false, .run 3, .tick, .frame, .step]
    let waiting := console.run (.silent Unit) (.step :: requests)
    let pressed := waiting.run (.silent Unit) ([7, 4, 9].map (Request.setKey · true))
    console.machine.IsAt (.awaitKey 3) ∧ console.machine.core.keys = .released ∧
      (∀ request ∈ requests, request.isIdle) ∧
      waiting.machine.core.pc = 0xFFF ∧ waiting.machine.core.sound = 0 ∧
      waiting.machine.step.result = .ok .keyWait ∧
      pressed.machine.step.result = .ok .ok ∧ pressed.machine.step.machine.core.get 3 = 4 := by
  intro core console requests waiting pressed
  have isAt : console.machine.IsAt (.awaitKey 3) := ⟨rfl, by decide, by decide +kernel⟩
  have released : console.machine.core.keys = .released := rfl
  have idle : ∀ request ∈ requests, request.isIdle := by decide
  obtain ⟨_, state, step, _, _, resumes⟩ :=
    run_awaitKey (.silent Unit) isAt released requests idle
  obtain ⟨result, _, _, least, member, below, resumed⟩ := resumes [7, 4, 9] (by decide)
  have isFour : ∀ key : Key, key ∈ [7, 4, 9] → key ≤ 4 → key = 4 := by decide
  refine ⟨isAt, released, idle, ?_, ?_, ?_, result, ?_⟩
  · rw [state]
    rfl
  · rw [state]
    rfl
  · rw [step]
  · rw [resumed, isFour least member (below 4 (by decide))]
    rfl

end Console

end Chip8
