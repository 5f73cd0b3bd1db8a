import Chip8.Proofs.Loading
import Chip8.Proofs.Readings

/-!
# Random numbers

A machine draws the bytes of its random stream one after the other, one for each `Cxkk` that it
executes, and nothing else moves the stream (`Machine.step_random`, `Console.serve_random`). So the
random numbers of a program do not depend on how its steps are grouped, or on timers and keys that
it does not look at (`Console.run_draws`).
-/

namespace Chip8

/-- What an executed `Cxkk` has drawn. -/
structure Draw where
  register : Register
  mask : UInt8
  /-- What the register holds afterwards. -/
  value : UInt8
  deriving DecidableEq

def RandomStream.after (stream : RandomStream) (count : Nat) : RandomStream :=
  { stream with position := stream.position + count }

theorem RandomStream.after_succ (stream : RandomStream) (count : Nat) :
    stream.next.2.after count = stream.after (count + 1) :=
  congrArg (RandomStream.mk stream.secret) (Nat.succ_add_eq_add_succ ..)

/-- The draws take their bytes from the stream, one after the other. -/
def RandomStream.Feeds (stream : RandomStream) (draws : List Draw) : Prop :=
  ∀ index draw, draws[index]? = some draw →
    draw.value = byteAt stream.secret (stream.position + index) &&& draw.mask

theorem RandomStream.feeds_cons {stream : RandomStream} {draw : Draw} {draws : List Draw}
    (drawn : draw.value = stream.next.1 &&& draw.mask) (later : stream.next.2.Feeds draws) :
    stream.Feeds (draw :: draws) := by
  intro index other found
  cases index with
  | zero =>
      cases found
      exact drawn
  | succ index =>
      rw [← Nat.succ_add_eq_add_succ]
      exact later index other found

namespace Machine

/-- What the next step draws, if it executes `Cxkk`. -/
def draw? (machine : Machine) : Option Draw :=
  match machine.executed? with
  | some (.random x mask) => some ⟨x, mask, machine.step.machine.core.get x⟩
  | _ => none

variable {machine : Machine}

theorem IsAt.draw?_eq {x : Register} {mask : UInt8} (isAt : machine.IsAt (.random x mask)) :
    machine.draw? = some ⟨x, mask, machine.random.next.1 &&& mask⟩ := by
  have written : machine.step.machine.core.get x = machine.random.next.1 &&& mask := by
    rw [isAt.step_machine]
    exact Vector.getElem_set_self _
  rw [draw?, executed?_of_isAt isAt rfl]
  exact congrArg (fun value => some (Draw.mk x mask value)) written

theorem isAt_of_draw? {draw : Draw} (drawn : machine.draw? = some draw) :
    machine.IsAt (.random draw.register draw.mask) := by
  unfold draw? at drawn
  split at drawn
  next x mask executed =>
    cases drawn
    exact (isAt_of_executed? executed).1
  next => cases drawn

theorem value_of_draw? {draw : Draw} (drawn : machine.draw? = some draw) :
    draw.value = machine.random.next.1 &&& draw.mask := by
  rw [(isAt_of_draw? drawn).draw?_eq, Option.some.injEq] at drawn
  rw [← drawn]

/-- The stream moves on exactly if a byte is drawn. -/
theorem step_random (machine : Machine) :
    machine.step.machine.random =
      if machine.draw?.isSome then machine.random.next.2 else machine.random := by
  cases drawn : machine.draw? with
  | some draw =>
      rw [(isAt_of_draw? drawn).step_machine]
      rfl
  | none =>
      refine step_frame .random fun written => ?_
      obtain ⟨instruction, isAt, writes⟩ : ∃ instruction, machine.IsAt instruction ∧
          .random ∈ instruction.writes := by simpa using mem_stepWrites written
      cases instruction with
      | random x mask =>
          rw [isAt.draw?_eq] at drawn
          cases drawn
      | _ => simp [Instruction.writes] at writes

theorem SameInside.draw?_eq {first second : Machine} (same : SameInside first second) :
    first.draw? = second.draw? := by
  have random : first.random = second.random := same .random (by decide)
  cases drawn : first.draw? with
  | some draw =>
      have isAt := isAt_of_draw? drawn
      rw [← drawn, isAt.draw?_eq, (same.isAt isAt).draw?_eq, random]
  | none =>
      cases other : second.draw? with
      | none => rfl
      | some draw =>
          have isAt := same.symm.isAt (isAt_of_draw? other)
          rw [isAt.draw?_eq] at drawn
          cases drawn

theorem IsBlocked.draws_path (blocked : machine.IsBlocked) (count : Nat) :
    (machine.path count).filterMap draw? = [] := by
  have nothing : machine.draw? = none := by
    cases drawn : machine.draw? with
    | none => rfl
    | some draw =>
        have awaiting := blocked.awaiting
        rw [Core.isAwaitingKey, (isAt_of_draw? drawn).running] at awaiting
        cases awaiting
  have stops : isStopped machine.step = true := by
    rw [isStopped, blocked.step_eq]
    rfl
  cases count with
  | zero => rfl
  | succ count =>
      rw [path, if_pos stops, List.filterMap_cons, nothing]
      rfl

end Machine

namespace Console

variable {σ : Type} (beeper : Beeper σ)

/-- Apart from steps, no elementary request moves the stream, whether or not it fails. -/
theorem serve_random (console : Console σ) {request : Request} (elementary : request.isElementary)
    (other : request.isStep = false) :
    (console.serve beeper request).2.machine.random = console.machine.random := by
  have attempted : ∀ {α : Type} (result : Except Fault α) (next : α → Machine),
      (∀ value, (next value).random = console.machine.random) →
        (console.attempt (result.map next)).2.machine.random = console.machine.random :=
    fun result next =>
      attempt_map_keeps (fun machine => machine.random = console.machine.random) rfl
  cases request with
  | load program =>
      obtain ⟨memory, loaded⟩ := console.machine.load_machine program
      simp only [serve, withMachine, loaded]
      rfl
  | loadFile contents =>
      cases contents with
      | ok program =>
          obtain ⟨memory, loaded⟩ := console.machine.load_machine program
          simp only [serve, Machine.loadFile, withMachine, loaded]
          rfl
      | error cause => rfl
  | loadFont glyphs =>
      simp only [serve, Machine.loadFont_eq_map]
      exact attempted _ _ fun memory => rfl
  | tick =>
      simp only [serve, Machine.tick_machine]
      rfl
  | pop =>
      simp only [serve]
      cases console.machine.core.pop? <;> rfl
  | setRegister index value => exact attempted _ _ fun x => rfl
  | write address value => exact attempted _ _ fun memory => rfl
  | writeBlock address block => exact attempted _ _ fun core => rfl
  | push address => exact attempted _ _ fun core => rfl
  | run | frame => cases elementary
  | step => cases other
  | _ => rfl

/-! ## Runs -/

def draws (console : Console σ) (requests : List Request) : List Draw :=
  (console.steps beeper requests).filterMap Machine.draw?

/-- A run of elementary requests draws the bytes of the stream one after the other. -/
theorem run_feeds (requests : List Request) (console : Console σ)
    (elementary : ∀ request ∈ requests, request.isElementary) :
    let draws := (console.machinesAt beeper Request.isStep requests).filterMap Machine.draw?
    (console.run beeper requests).machine.random = console.machine.random.after draws.length ∧
      console.machine.random.Feeds draws := by
  induction requests generalizing console with
  | nil => exact ⟨rfl, nofun⟩
  | cons request requests ih =>
      have later := ih (console.serve beeper request).2
        fun other member => elementary other (.tail request member)
      rw [run_cons]
      cases step : request.isStep with
      | false =>
          have same := serve_random beeper console (elementary request (.head requests)) step
          simp only [machinesAt, step, Bool.false_eq_true, ↓reduceIte]
          rw [same] at later
          exact later
      | true =>
          cases request with
          | step =>
              have moved : (console.serve beeper .step).2.machine.random = _ :=
                console.machine.step_random
              simp only [machinesAt, step, ↓reduceIte, List.filterMap_cons]
              cases drawn : console.machine.draw? with
              | none =>
                  rw [drawn] at moved
                  rw [moved] at later
                  exact later
              | some draw =>
                  rw [drawn] at moved
                  rw [moved] at later
                  refine ⟨later.1.trans (RandomStream.after_succ ..), ?_⟩
                  exact RandomStream.feeds_cons (Machine.value_of_draw? drawn) later.2
          | _ => cases step

theorem draws_feeds (console : Console σ) (requests : List Request) :
    let draws := console.draws beeper requests
    (console.run beeper requests).machine.random = console.machine.random.after draws.length ∧
      console.machine.random.Feeds draws := by
  have elementary : ∀ element ∈ console.elements beeper requests, element.isElementary := by
    intro element member
    obtain ⟨request, _, machine, amounts⟩ := exists_of_mem_elements beeper member
    exact Request.isElementary_of_mem_elements amounts
  have feeds := run_feeds beeper (console.elements beeper requests) console elementary
  rw [run_elements] at feeds
  exact feeds

theorem draws_append (console : Console σ) (first second : List Request) :
    console.draws beeper (first ++ second) =
      console.draws beeper first ++ (console.run beeper first).draws beeper second := by
  rw [draws, steps_append, List.filterMap_append]
  rfl

theorem draws_append_congr {console : Console σ} {first segment other rest : List Request}
    (same : (console.run beeper first).draws beeper (segment ++ rest) =
      (console.run beeper first).draws beeper (other ++ rest)) :
    console.draws beeper (first ++ segment ++ rest) =
      console.draws beeper (first ++ other ++ rest) := by
  rw [List.append_assoc, List.append_assoc, draws_append beeper console first, same,
    draws_append beeper console first]

theorem draws_run (console : Console σ) (count : Nat) (requests : List Request) :
    console.draws beeper (.run count :: requests) =
      (console.machine.path count).filterMap Machine.draw? ++
        (console.withMachine (console.machine.runSteps count).machine).draws beeper requests := by
  rw [draws, steps_run, List.filterMap_append]
  rfl

/-- A run of steps draws the same in two parts, unless it fails in the first. -/
theorem draws_run_add (console : Console σ) (count more : Nat) (requests : List Request) :
    let start := console.machine.runSteps count
    (∀ fault, start.result = .error fault →
      console.draws beeper (.run (count + more) :: requests) =
        console.draws beeper (.run count :: requests)) ∧
    (∀ flow, start.result = .ok flow →
      console.draws beeper (.run (count + more) :: requests) =
        console.draws beeper (.run count :: .run more :: requests)) := by
  intro start
  obtain ⟨fails, succeeds⟩ := console.machine.runSteps_add count more
  constructor
  · intro fault failed
    have stopped : Machine.isStopped start = true := by
      rw [Machine.isStopped, failed]
    rw [draws_run, draws_run, Machine.path_add, if_pos stopped, List.append_nil,
      (fails fault failed).2.1]
  · intro flow done
    have rest : (if Machine.isStopped start then [] else start.machine.path more).filterMap
        Machine.draw? = (start.machine.path more).filterMap Machine.draw? := by
      cases stopped : Machine.isStopped start with
      | false => rfl
      | true =>
          -- The first part has come upon a wait, so that the second draws nothing.
          have waits : start.result = .ok .keyWait := by
            rw [Machine.isStopped, done] at stopped
            rw [done, eq_of_beq stopped]
          have positive : 0 < count := by
            refine Nat.pos_of_ne_zero ?_
            rintro rfl
            cases waits
          have blocked := (Machine.continueRun_isSettled positive _).blocked waits
          exact (blocked.draws_path more).symm
    have second := draws_run beeper (console.withMachine start.machine) more requests
    rw [draws_run, draws_run, second, Machine.path_add, List.filterMap_append, rest,
      ← (succeeds flow done).1, List.append_assoc]
    rfl

/-- As long as two runs read the same timers and keys, they draw the same. -/
theorem draws_isPrefix {first second : Console σ} {requests others : List Request}
    (same : Machine.SameInside first.machine second.machine)
    (driving : ∀ request ∈ requests, request.isDriving)
    (otherDriving : ∀ request ∈ others, request.isDriving)
    (readings : (first.steps beeper requests).map Machine.reading? <+:
      (second.steps beeper others).map Machine.reading?) :
    first.draws beeper requests <+: second.draws beeper others :=
  Machine.Leads.filterMap_isPrefix Machine.SameInside.draw?_eq same
    (leads_machinesAt beeper first fun _ => isPassing_of_mem_elements beeper driving)
    (leads_machinesAt beeper second fun _ => isPassing_of_mem_elements beeper otherDriving) readings

theorem draws_event {console : Console σ} {event : Request} {requests : List Request}
    (touches : event.touches ≠ []) (driving : ∀ request ∈ requests, request.isDriving)
    (unread : ∀ machine ∈ console.steps beeper requests, ∀ part ∈ event.touches,
      part ∉ machine.stepReads) :
    console.draws beeper (event :: requests) = console.draws beeper requests := by
  have later : console.draws beeper (event :: requests) =
      (console.serve beeper event).2.draws beeper requests := by
    rw [draws, steps_cons]
    cases event with
    | tick | setKey | clearKeys => rfl
    | _ => exact absurd rfl touches
  have same := serve_sameInside beeper console touches
  have readings : (console.steps beeper requests).map Machine.reading? =
      ((console.serve beeper event).2.steps beeper requests).map Machine.reading? := by
    refine readings_congr_off beeper driving (fun part => Request.mem_outer_of_touches) ?_ unread
    intro part untouched
    rw [serve_event beeper console touches]
    exact Part.agree_symm (event.effect_isLocal.frame _ part untouched)
  have before := draws_isPrefix beeper same driving driving (readings ▸ List.prefix_rfl)
  have after := draws_isPrefix beeper same.symm driving driving (readings ▸ List.prefix_rfl)
  rw [later]
  exact after.eq_of_length_le before.length_le

/-- **Random numbers are drawn by `Cxkk` alone.** Over the whole life of a machine, whatever is
asked of it and whether or not that fails, the position of its random stream is the number of
executed `Cxkk`, and each of them leaves the next byte of the stream, masked, in its register. So a
program sees the same random numbers however its steps are grouped into runs and frames, and
whatever timer ticks and key events happen that its steps do not read. -/
theorem run_draws (config : Config) (entropy : Secret) (bell : σ) (requests : List Request) :
    let console : Console σ := ⟨.create config entropy, bell⟩
    let secret := console.machine.random.secret
    let draws := console.draws beeper requests
    ((∀ seed, config.seed? = some seed → secret = RandomStream.secretOfSeed seed) ∧
      (console.run beeper requests).machine.random = ⟨secret, draws.length⟩ ∧
      ∀ index draw, draws[index]? = some draw →
        draw.value = RandomStream.byteAt secret index &&& draw.mask) ∧
    ((∀ machine : Machine, machine.step.machine.random =
        if machine.draw?.isSome then machine.random.next.2 else machine.random) ∧
      ∀ (console : Console σ) (request : Request), request.isElementary → request.isStep = false →
        (console.serve beeper request).2.machine.random = console.machine.random) ∧
    ∀ (console : Console σ) (first rest : List Request),
      let before := console.run beeper first
      let drawsAlike (segment other : List Request) := console.draws beeper
        (first ++ segment ++ rest) = console.draws beeper (first ++ other ++ rest)
      drawsAlike [.run 1] [.step] ∧
      (∀ count more,
        let start := before.machine.runSteps count
        ((∃ fault, start.result = .error fault) →
          drawsAlike [.run (count + more)] [.run count]) ∧
        ((∃ flow, start.result = .ok flow) →
          drawsAlike [.run (count + more)] [.run count, .run more])) ∧
      drawsAlike [.frame] [.tick, .run before.machine.config.cyclesPerFrame] ∧
      (∀ event : Request, event.touches ≠ [] → (∀ request ∈ rest, request.isDriving) →
        (∀ machine ∈ before.steps beeper rest, ∀ part ∈ event.touches,
          part ∉ machine.stepReads) →
        drawsAlike [event] []) ∧
      ∀ other : List Request, (∀ request ∈ rest ++ other, request.isDriving) →
        (before.steps beeper rest).map Machine.reading? <+:
          (before.steps beeper other).map Machine.reading? →
        console.draws beeper (first ++ rest) <+: console.draws beeper (first ++ other) := by
  intro console secret draws
  refine ⟨⟨?_, ?_⟩, ⟨Machine.step_random, serve_random beeper⟩, ?_⟩
  · intro seed chosen
    have random : console.machine.random = .start (RandomStream.secretOfSeed seed) := by
      simp only [console, Machine.create, chosen]
    exact congrArg RandomStream.secret random
  · obtain ⟨moved, feeds⟩ := draws_feeds beeper console requests
    have fresh : console.machine.random = ⟨secret, 0⟩ := rfl
    rw [fresh] at moved feeds
    constructor
    · rw [moved, RandomStream.after, Nat.zero_add]
    · intro index draw found
      rw [feeds index draw found, Nat.zero_add]
  · intro console first rest before drawsAlike
    have alike : ∀ {segment other : List Request}, before.draws beeper (segment ++ rest) =
        before.draws beeper (other ++ rest) → drawsAlike segment other :=
      fun same => draws_append_congr beeper same
    refine ⟨?_, ?_, ?_, ?_, ?_⟩
    · exact alike (congrArg (List.filterMap Machine.draw?) (steps_run_one beeper before rest))
    · intro count more start
      obtain ⟨fails, succeeds⟩ := draws_run_add beeper before count more rest
      constructor
      · rintro ⟨fault, failed⟩
        exact alike (fails fault failed)
      · rintro ⟨flow, done⟩
        exact alike (succeeds flow done)
    · exact alike (congrArg (List.filterMap Machine.draw?) (steps_frame beeper before rest))
    · intro event touches driving unread
      exact alike (draws_event beeper touches driving unread)
    · intro other driving readings
      obtain ⟨restDriving, otherDriving⟩ := List.forall_mem_append.mp driving
      rw [draws_append, draws_append]
      refine List.prefix_append_right_inj _ |>.mpr ?_
      exact draws_isPrefix beeper (fun part _ => part.agree_refl before.machine) restDriving
        otherDriving readings

end Console

end Chip8
