import Chip8.Proofs.Desktop.EventLoop

/-!
# The end of the application

An application goes on as long as no event stops it. The first event that does decides how it ends,
and nothing that comes later has any effect (`Host.run_ends_at_first_stop`).
-/

namespace Chip8.Desktop.Host

open Staged

variable (host : Host) (now : Nat)

/-- No event among the cues stops the application when it is reached. -/
def GoesOn (cues : List Cue) : Prop :=
  ∀ before event later, cues = before ++ .event event :: later →
    (host.run now before).stop? event = none

/-- The first event that stops the application is the one after the given cues. -/
structure StopsAfter (first : List Cue) (event : Event) (stop : Stop) : Prop where
  goesOn : host.GoesOn now first
  stops : (host.run now first).stop? event = some stop

variable {host} {now}

/-! ## One event -/

theorem isEnded_handle (running : host.isEnded = false) (event : Event) :
    (host.handle event).isEnded = (host.stop? event).isSome := by
  have control := (handle_reacts running event).control
  unfold isEnded at running ⊢
  rw [control]
  cases host.stop? event with
  | some stop => rfl
  | none =>
      cases event with
      | cleared check restart => rfl
      | redraw | window id event | other => exact running

theorem deadline_handle_cleared (running : host.isEnded = false) {check restart : Nat}
    (goesOn : host.stop? (.cleared check restart) = none) :
    (host.handle (.cleared check restart)).control =
      .waitUntil (host.handle (.cleared check restart)).clock.deadline := by
  have reacts := handle_reacts running (.cleared check restart)
  rw [reacts.control, goesOn, reacts.clock]
  rfl

theorem calls_handle_cleared (running : host.isEnded = false) (check restart : Nat) :
    ∃ records : List Record,
      (host.handle (.cleared check restart)).session.calls.toList =
        host.session.calls.toList ++ records.map (fun record => .log (.machine record)) ++
          if (host.clock.tick check restart).1 ∧ host.stop? (.cleared check restart) = none then
            [.requestRedraw]
          else [] := by
  let records := (host.machine.runFrame (Bell.ringing none) host.bell).1.records
  have logged : host.runFrame.2.session.calls.toList =
      host.session.calls.toList ++ records.toList.map fun record => .log (.machine record) := by
    rw [← Session.calls_recordAll, ← Session.logRecords_eq]
    rfl
  rw [handle_cleared running]
  cases ticks : (host.clock.tick check restart).1 with
  | false =>
      refine ⟨[], ?_⟩
      simp only [Bool.false_eq_true, false_and, ↓reduceIte, List.map_nil, List.append_nil]
      rfl
  | true =>
      refine ⟨records.toList, ?_⟩
      rw [← logged]
      simp only [↓reduceIte, true_and]
      cases ran : host.runFrame.1 with
      | error fault =>
          simp only [stop?, ticks, ↓reduceIte, ran, reduceCtorEq, List.append_nil]
          rfl
      | ok flow =>
          simp only [stop?, ticks, ↓reduceIte, ran]
          exact Array.toList_push

/-! ## Runs -/

variable {cues : List Cue}

theorem goesOn_of_running (running : (host.run now cues).isEnded = false) :
    host.GoesOn now cues := by
  intro before event later split
  rw [split, List.append_cons] at running
  have running := running_of_run_append host now running
  have reached := running_of_run_append host now running
  rw [run_concat, follow, isEnded_handle reached] at running
  have isNone := Option.isSome_eq_false_iff.mp running
  exact Option.isNone_iff_eq_none.mp isNone

theorem failure?_of_running (sound : host.failure? = none)
    (running : (host.run now cues).isEnded = false) : (host.run now cues).failure? = none := by
  induction cues using List.reverseRecOn with
  | nil => exact sound
  | append_singleton cues cue ih =>
      have reached := running_of_run_append host now running
      have none := ih reached
      cases cue with
      | fail operation | mend operation =>
          rw [run_concat]
          exact none
      | event event =>
          have goesOn := goesOn_of_running running cues event [] rfl
          rw [run_concat, follow, (handle_reacts reached event).failure?, goesOn, none]
          rfl

theorem exists_stopsAfter (poll : host.control = .poll)
    (ended : (host.run now cues).isEnded = true) :
    ∃ first event rest stop, cues = first ++ .event event :: rest ∧
      host.StopsAfter now first event stop := by
  induction cues using List.reverseRecOn with
  | nil =>
      have running : host.isEnded = false := by rw [isEnded, poll]
      rw [show host.run now [] = host.beginLoop now from rfl] at ended
      cases running.symm.trans ended
  | append_singleton cues cue ih =>
      cases reached : (host.run now cues).isEnded with
      | true =>
          -- The first event that stops is an earlier one, and this cue is among those after it.
          obtain ⟨first, event, rest, stop, rfl, stops⟩ := ih reached
          exact ⟨first, event, rest ++ [cue], stop, List.append_assoc .., stops⟩
      | false =>
          rw [run_concat] at ended
          cases cue with
          | fail operation | mend operation => cases reached.symm.trans ended
          | event event =>
              rw [follow, isEnded_handle reached, Option.isSome_iff_exists] at ended
              obtain ⟨stop, stops⟩ := ended
              exact ⟨cues, event, [], stop, rfl, goesOn_of_running reached, stops⟩

theorem isEnded_of_goesOn (poll : host.control = .poll) (goesOn : host.GoesOn now cues) :
    (host.run now cues).isEnded = false := by
  cases ended : (host.run now cues).isEnded with
  | false => rfl
  | true =>
      obtain ⟨first, event, rest, stop, split, stops⟩ := exists_stopsAfter poll ended
      cases (goesOn first event rest split).symm.trans stops.stops

namespace StopsAfter

variable {first : List Cue} {event : Event} {stop : Stop}

theorem running (poll : host.control = .poll) (stops : host.StopsAfter now first event stop) :
    (host.run now first).isEnded = false := isEnded_of_goesOn poll stops.goesOn

theorem isEnded (poll : host.control = .poll) (stops : host.StopsAfter now first event stop) :
    (host.run now (first ++ [.event event])).isEnded = true := by
  rw [run_concat, follow, isEnded_handle (stops.running poll), stops.stops]
  rfl

/-- Nothing but the stage changes after the first event that stops the application. -/
theorem run_eq (poll : host.control = .poll) (stops : host.StopsAfter now first event stop)
    (rest : List Cue) :
    ∃ stage, host.run now (first ++ .event event :: rest) =
      (host.run now (first ++ [.event event])).onStage fun _ => stage := by
  rw [List.append_cons, run_append]
  exact foldl_follow_of_isEnded (stops.isEnded poll) rest

theorem control_run (poll : host.control = .poll) (stops : host.StopsAfter now first event stop)
    (rest : List Cue) :
    (host.run now (first ++ .event event :: rest)).control = .exit stop.status := by
  obtain ⟨stage, same⟩ := stops.run_eq poll rest
  have reacts := handle_reacts (stops.running poll) event
  rw [same, run_concat, follow]
  change ((host.run now first).handle event).control = _
  rw [reacts.control, stops.stops]

theorem failure?_run (poll : host.control = .poll) (sound : host.failure? = none)
    (stops : host.StopsAfter now first event stop) (rest : List Cue) :
    (host.run now (first ++ .event event :: rest)).failure? = stop.failure? := by
  obtain ⟨stage, same⟩ := stops.run_eq poll rest
  have reacts := handle_reacts (stops.running poll) event
  rw [same, run_concat, follow]
  change ((host.run now first).handle event).failure? = _
  rw [reacts.failure?, stops.stops, failure?_of_running sound (stops.running poll)]
  exact Option.or_none

end StopsAfter

/-- **The first event that stops the application decides how it ends.** An application that starts
polling without a failure has ended exactly if some event stopped it, and reports a failure exactly
if the first such event is a frame or a redraw that fails in this way. What comes after that event
changes nothing but which operations work. Once all events are delivered an application that is not
stopped waits for the next tick; it asks for a redraw exactly if a frame was run and succeeded. -/
theorem run_ends_at_first_stop (poll : host.control = .poll) (sound : host.failure? = none)
    (now : Nat) (cues : List Cue) :
    let last := host.run now cues
    (last.isEnded = true ↔ ∃ first event rest stop,
      cues = first ++ .event event :: rest ∧ host.StopsAfter now first event stop) ∧
    (∀ failure, last.failure? = some failure ↔ ∃ first event rest,
      cues = first ++ .event event :: rest ∧ host.StopsAfter now first event (.failed failure)) ∧
    (∀ first event rest stop, cues = first ++ .event event :: rest →
      host.StopsAfter now first event stop →
      last.control = .exit stop.status ∧ last.failure? = stop.failure? ∧
        ∃ stage, last = (host.run now (first ++ [.event event])).onStage fun _ => stage) ∧
    ∀ before check restart later, cues = before ++ .event (.cleared check restart) :: later →
      let reached := host.run now before
      let after := host.run now (before ++ [.event (.cleared check restart)])
      let goesOn := reached.stop? (.cleared check restart) = none
      reached.isEnded = false →
        (goesOn → after.control = .waitUntil after.clock.deadline) ∧
        ∃ records : List Record, after.session.calls.toList =
          reached.session.calls.toList ++ records.map (fun record => .log (.machine record)) ++
            if (reached.clock.tick check restart).1 ∧ goesOn then [.requestRedraw] else [] := by
  intro last
  refine ⟨⟨exists_stopsAfter poll, ?_⟩, fun failure => ⟨?_, ?_⟩, ?_, ?_⟩
  · rintro ⟨first, event, rest, stop, rfl, stops⟩
    have ended := isEnded_run_append host now (stops.isEnded poll) rest
    rwa [← List.append_cons] at ended
  · intro failed
    cases ended : last.isEnded with
    | false => cases (failure?_of_running sound ended).symm.trans failed
    | true =>
        obtain ⟨first, event, rest, stop, split, stops⟩ := exists_stopsAfter poll ended
        have reported := stops.failure?_run poll sound rest
        rw [← split, show (host.run now cues).failure? = some failure from failed] at reported
        cases stop with
        | closed => cases reported
        | failed other =>
            cases reported
            exact ⟨first, event, rest, split, stops⟩
  · rintro ⟨first, event, rest, rfl, stops⟩
    exact stops.failure?_run poll sound rest
  · rintro first event rest stop rfl stops
    exact ⟨stops.control_run poll rest, stops.failure?_run poll sound rest, stops.run_eq poll rest⟩
  · intro before check restart later split reached after goesOn running
    rw [show after = reached.handle (.cleared check restart) from run_concat host now before _]
    exact ⟨deadline_handle_cleared running, calls_handle_cleared running check restart⟩

/-- A frame fails, then a redraw would fail and the window is closed. -/
theorem run_ends_at_failed_frame :
    let settings : Settings :=
      { rom? := some "return.ch8", config := { timerRate := ⟨2000000000⟩, seed? := some 0 } }
    let read : String → Except IoFault (List UInt8) := fun _ => .ok [0x00, 0xEE]
    let entropy : Secret := Vector.replicate 8 0
    let first : List Cue := [.event (.window 2 .closeRequested), .fail .current]
    let event : Event := .cleared 7 7
    let rest : List Cue := [.event .redraw, .event (.window mainWindow .closeRequested)]
    ∃ host after,
      outcome (create settings ⟨[]⟩ read entropy 0) (.start .willing) = (.ok host, after) ∧
        host.control = .poll ∧ host.failure? = none ∧
        host.StopsAfter 5 first event (.failed (.machine (.stackUnderflow 0x202))) ∧
        (host.run 5 (first ++ .event event :: rest)).control = .exit 1 ∧
        ∃ stage, host.run 5 (first ++ .event event :: rest) =
          (host.run 5 (first ++ [.event event])).onStage fun _ => stage := by
  intro settings read entropy first event rest
  have passes : (outcome (create settings ⟨[]⟩ read entropy 0) (.start .willing)).1.toOption.any
      (fun host => !(host.run 5 first).isEnded && (host.run 5 first).stop? event ==
        some (.failed (.machine (.stackUnderflow 0x202)))) = true := by
    decide +kernel
  obtain ⟨host, after, created, runs⟩ := exists_of_passes passes
  simp only [Bool.and_eq_true, Bool.not_eq_true', beq_iff_eq] at runs
  obtain ⟨-, rom, -, -, fresh⟩ := isFresh_of_create created
  have stops : host.StopsAfter 5 first event (.failed (.machine (.stackUnderflow 0x202))) :=
    ⟨goesOn_of_running runs.1, runs.2⟩
  have ends := run_ends_at_first_stop fresh.control fresh.failure? 5
    (first ++ .event event :: rest)
  obtain ⟨control, -, frozen⟩ := ends.2.2.1 first event rest _ rfl stops
  exact ⟨host, after, created, fresh.control, fresh.failure?, stops, control, frozen⟩

end Chip8.Desktop.Host
