import Chip8.Proofs.Desktop.Reaction
import Chip8.Proofs.Desktop.Starting
import Chip8.Proofs.Timers
import Mathlib.Data.List.Induction

/-!
# The event loop

A run of the application follows its cues one by one, and events after the end change nothing. Up to
and including the event that ends it, the application drives its machine as a host that has nothing
but the machine, its bell and a clock (`Host.run_console`). Its count of beeps and its deadlines stay
in range (`Host.beeps_run_le`, `Host.deadline?_run`).
-/

namespace Chip8.Desktop.Host

open Staged

/-! ## Runs -/

def Cue.event? : Cue → Option Event
  | .event delivered => some delivered
  | .fail _ | .mend _ => none

def events (cues : List Cue) : List Event := cues.filterMap Cue.event?

theorem events_concat (cues : List Cue) (cue : Cue) :
    events (cues ++ [cue]) = events cues ++ cue.event?.toList := by
  rw [events, List.filterMap_append]
  cases cue <;> rfl

variable (host : Host) (now : Nat)

theorem run_append (first second : List Cue) :
    host.run now (first ++ second) = second.foldl follow (host.run now first) :=
  List.foldl_append

theorem run_concat (cues : List Cue) (cue : Cue) :
    host.run now (cues ++ [cue]) = (host.run now cues).follow cue := run_append host now cues [cue]

/-- Once the application has ended only the stage changes. -/
theorem follow_of_isEnded {host : Host} (ended : host.isEnded = true) (cue : Cue) :
    ∃ stage, host.follow cue = host.onStage fun _ => stage := by
  cases cue with
  | event event => exact ⟨host.session.stage, if_pos ended⟩
  | fail operation => exact ⟨_, rfl⟩
  | mend operation => exact ⟨_, rfl⟩

theorem foldl_follow_of_isEnded {host : Host} (ended : host.isEnded = true) (cues : List Cue) :
    ∃ stage, cues.foldl follow host = host.onStage fun _ => stage := by
  induction cues generalizing host with
  | nil => exact ⟨host.session.stage, rfl⟩
  | cons cue cues ih =>
      obtain ⟨first, followed⟩ := follow_of_isEnded ended cue
      have later : (host.onStage fun _ => first).isEnded = true := ended
      obtain ⟨last, rest⟩ := ih later
      rw [List.foldl_cons, followed, rest]
      exact ⟨last, rfl⟩

theorem isEnded_run_append {first : List Cue} (ended : (host.run now first).isEnded = true)
    (second : List Cue) : (host.run now (first ++ second)).isEnded = true := by
  obtain ⟨stage, same⟩ := foldl_follow_of_isEnded ended second
  rw [run_append, same]
  exact ended

theorem running_of_run_append {first second : List Cue}
    (running : (host.run now (first ++ second)).isEnded = false) :
    (host.run now first).isEnded = false := by
  cases ended : (host.run now first).isEnded with
  | false => rfl
  | true =>
      rw [isEnded_run_append host now ended] at running
      cases running

theorem running_of_dropLast {cues : List Cue} (running : (host.run now cues).isEnded = false) :
    (host.run now cues.dropLast).isEnded = false := by
  cases cues using List.reverseRecOn with
  | nil => exact running
  | append_singleton first last =>
      rw [List.dropLast_concat]
      exact running_of_run_append host now running

/-! ## The machine -/

/-- What events ask of the machine, one after the other. -/
def requests (inputMap : InputMap) : Clock → List Event → List Request
  | _, [] => []
  | clock, event :: events =>
    (event.request? inputMap clock).toList ++ requests inputMap (event.clockAfter clock) events

theorem requests_append (inputMap : InputMap) (clock : Clock) (first second : List Event) :
    requests inputMap clock (first ++ second) =
      requests inputMap clock first ++
        requests inputMap (first.foldl Event.clockAfter clock) second := by
  induction first generalizing clock with
  | nil => rfl
  | cons event first ih =>
      rw [List.cons_append, requests, ih, requests, List.append_assoc]
      rfl

/-- The machine, the clock and the layout after a run that had not ended before its last cue. -/
theorem run_drives {cues : List Cue} (running : (host.run now cues.dropLast).isEnded = false) :
    let clock := host.clock.reset now
    let last := host.run now cues
    last.console =
        host.console.run (Bell.ringing none) (requests host.inputMap clock (events cues)) ∧
      last.clock = (events cues).foldl Event.clockAfter clock ∧ last.inputMap = host.inputMap := by
  intro clock last
  -- The last cue is the one that may end the application, so the others are followed first.
  induction cues using List.reverseRecOn with
  | nil => exact ⟨rfl, rfl, rfl⟩
  | append_singleton cues cue ih =>
      rw [List.dropLast_concat] at running
      obtain ⟨console, reading, layout⟩ := ih (running_of_dropLast host now running)
      have followed : last = (host.run now cues).follow cue := run_concat host now cues cue
      rw [followed, events_concat]
      cases cue with
      | fail operation | mend operation =>
          rw [Cue.event?, Option.toList_none, List.append_nil]
          exact ⟨console, reading, layout⟩
      | event event =>
          have reacts := handle_reacts running event
          rw [Cue.event?, Option.toList_some, requests_append, Console.run_append,
            List.foldl_append, ← console, ← reading, ← layout]
          refine ⟨?_, reacts.clock, reacts.inputMap⟩
          rw [follow, reacts.console, requests, requests, List.append_nil]

/-- The machine and the clock after any run are what events up to some cue make of them; those after
the end change nothing. -/
theorem exists_drives (cues : List Cue) :
    ∃ first rest, cues = first ++ rest ∧
      (host.run now cues).console = host.console.run (Bell.ringing none)
        (requests host.inputMap (host.clock.reset now) (events first)) ∧
      (host.run now cues).clock = (events first).foldl Event.clockAfter (host.clock.reset now) := by
  induction cues using List.reverseRecOn with
  | nil => exact ⟨[], [], rfl, rfl, rfl⟩
  | append_singleton cues cue ih =>
      cases ended : (host.run now cues).isEnded with
      | false =>
          have running : (host.run now (cues ++ [cue]).dropLast).isEnded = false := by
            rwa [List.dropLast_concat]
          obtain ⟨console, reading, -⟩ := run_drives host now running
          exact ⟨cues ++ [cue], [], (List.append_nil _).symm, console, reading⟩
      | true =>
          obtain ⟨first, rest, rfl, console, reading⟩ := ih
          obtain ⟨stage, same⟩ := follow_of_isEnded ended cue
          refine ⟨first, rest ++ [cue], List.append_assoc .., ?_⟩
          rw [run_concat, same]
          exact ⟨console, reading⟩

/-- **The application drives its machine as a bare one.** An application that starts has loaded the
program that the settings name. After any cues, up to and including the one that ends it, its
machine and its bell are those that a run of the loaded machine leaves: a frame for each time the
clock ticked when all events were delivered, a key set for each key of the keypad that a host key of
the window presses or releases, all keys cleared for each loss of the focus, in their order, and
nothing else. -/
theorem run_console {settings : Settings} {inputMap : InputMap}
    {read : String → Except IoFault (List UInt8)} {entropy : Secret} {start : Nat} {host : Host}
    {before after : Session}
    (created : outcome (create settings inputMap read entropy start) before = (.ok host, after))
    (now : Nat) {cues : List Cue} (running : (host.run now cues.dropLast).isEnded = false) :
    ∃ rom, settings.rom? = some rom ∧
      let loaded := (Machine.create settings.config entropy).loadFile (read rom)
      let bare : Console Bell := ⟨loaded.machine, {}⟩
      let clock : Clock := ⟨now, settings.config.timerRate.interval⟩
      loaded.result = .ok () ∧
        (host.run now cues).console =
          bare.run (Bell.ringing none) (requests inputMap clock (events cues)) := by
  obtain ⟨-, rom, named, loads, fresh⟩ := isFresh_of_create created
  refine ⟨rom, named, loads, ?_⟩
  have bare : host.console =
      ⟨((Machine.create settings.config entropy).loadFile (read rom)).machine, {}⟩ := by
    rw [console, fresh.machine, fresh.bell]
  have clock : host.clock.reset now = ⟨now, settings.config.timerRate.interval⟩ := by
    rw [fresh.clock]
    rfl
  rw [(run_drives host now running).1, bare, clock, fresh.inputMap]

/-- A key is awaited, pressed and let go with the focus, then a redraw fails. -/
theorem run_console_until_redraw :
    let settings : Settings :=
      { rom? := some "await.ch8", config := { timerRate := ⟨2000000000⟩, seed? := some 0 } }
    let read : String → Except IoFault (List UInt8) := fun _ => .ok [0xF0, 0x0A]
    let up : HostKey := ⟨"Up", by decide⟩
    let five : Key := ⟨5, by decide⟩
    let inputMap : InputMap := ⟨[(up, .key five)]⟩
    let entropy : Secret := Vector.replicate 8 0
    let loaded := (Machine.create settings.config entropy).loadFile (read "await.ch8")
    let cues : List Cue := [.event (.cleared 7 7), .event (.window 2 .closeRequested),
      .event (.window mainWindow (.key (some up) true)), .event (.cleared 9 9), .fail .current,
      .event (.window mainWindow (.focused false)), .event .redraw]
    ∃ host after,
      outcome (create settings inputMap read entropy 0) (.start .willing) = (.ok host, after) ∧
        (host.run 5 cues.dropLast).isEnded = false ∧ (host.run 5 cues).isEnded = true ∧
        (host.run 5 cues).console =
          (⟨loaded.machine, {}⟩ : Console Bell).run (Bell.ringing none)
            [.frame, .setKey five true, .frame, .clearKeys] := by
  intro settings read up five inputMap entropy loaded cues
  have passes : (outcome (create settings inputMap read entropy 0) (.start .willing)).1.toOption.any
      (fun host => !(host.run 5 cues.dropLast).isEnded && (host.run 5 cues).isEnded) = true := by
    decide +kernel
  obtain ⟨host, after, created, runs⟩ := exists_of_passes passes
  simp only [Bool.and_eq_true, Bool.not_eq_true'] at runs
  obtain ⟨rom, named, -, driven⟩ := run_console created 5 runs.1
  have rom : "await.ch8" = rom := Option.some.inj named
  have interval : settings.config.timerRate.interval = 0 := by decide
  have bound : inputMap.binding? up = some (.key five) := by decide +kernel
  have asked : requests inputMap ⟨5, 0⟩ (events cues) =
      [.frame] ++ ((WindowEvent.key (some up) true).request? inputMap).toList ++
        [.frame, .clearKeys] := rfl
  rw [interval, asked, WindowEvent.request?, bound] at driven
  exact ⟨host, after, created, runs.1, runs.2, driven⟩

/-! ## Counts and times in range -/

theorem isDriving_of_request? {inputMap : InputMap} {clock : Clock} {event : Event}
    {request : Request} (asks : event.request? inputMap clock = some request) :
    request.isDriving := by
  cases event with
  | cleared check restart =>
      rw [Event.request?] at asks
      split at asks
      · cases asks
        rfl
      · cases asks
  | window id event =>
      rw [Event.request?] at asks
      split at asks
      · unfold WindowEvent.request? at asks
        split at asks
        · obtain ⟨key, -, rfl⟩ := Option.map_eq_some_iff.mp asks
          rfl
        · cases asks
          rfl
        · cases asks
      · cases asks
  | redraw | other => cases asks

theorem isDriving_of_mem_requests {inputMap : InputMap} {clock : Clock} {events : List Event}
    {request : Request} (member : request ∈ requests inputMap clock events) :
    request.isDriving := by
  induction events generalizing clock with
  | nil => cases member
  | cons event events ih =>
      rcases List.mem_append.mp member with now | later
      · exact isDriving_of_request? (Option.mem_toList.mp now)
      · exact ih later

theorem length_requests_le (inputMap : InputMap) (clock : Clock) (events : List Event) :
    (requests inputMap clock events).length ≤ events.length := by
  induction events generalizing clock with
  | nil => exact Nat.le_refl 0
  | cons event events ih =>
      rw [requests, List.length_append, List.length_cons, Nat.add_comm]
      refine Nat.add_le_add (ih _) ?_
      cases event.request? inputMap clock with
      | none => exact Nat.zero_le 1
      | some request => exact Nat.le_refl 1

/-- The bell counts at most one beep for each event, so its counter of 64 bits does not overflow
within any number of events that such a word can count. -/
theorem beeps_run_le (cues : List Cue) :
    (host.run now cues).bell.beeps ≤ host.bell.beeps + (events cues).length := by
  obtain ⟨first, rest, rfl, driven, -⟩ := exists_drives host now cues
  have bell : (host.run now (first ++ rest)).bell =
      (host.run now (first ++ rest)).console.bell := rfl
  rw [bell, driven]
  refine Nat.le_trans (Console.beeps_run_le (fun _ => none) host.console
    fun request => isDriving_of_mem_requests) ?_
  refine Nat.add_le_add_left (Nat.le_trans (length_requests_le ..) ?_) _
  rw [events, events, List.filterMap_append, List.length_append]
  exact Nat.le_add_right ..

/-- A clock restarts only at readings that events make. -/
theorem foldl_clockAfter {bound : Nat} (events : List Event) {clock : Clock}
    (start : clock.last ≤ bound)
    (readings : ∀ check restart, .cleared check restart ∈ events → restart ≤ bound) :
    (events.foldl Event.clockAfter clock).last ≤ bound ∧
      (events.foldl Event.clockAfter clock).interval = clock.interval := by
  induction events generalizing clock with
  | nil => exact ⟨start, rfl⟩
  | cons event events ih =>
      have later := fun check restart member => readings check restart (.tail event member)
      cases event with
      | cleared check restart =>
          rw [List.foldl_cons, Event.clockAfter, Clock.tick]
          split
          · exact ih (readings check restart (.head events)) later
          · exact ih start later
      | redraw | window _ _ | other => exact ih start later

/-- The deadlines of an application are points in time, as long as there is a second left behind
each reading. -/
theorem deadline?_run {settings : Settings} {inputMap : InputMap}
    {read : String → Except IoFault (List UInt8)} {entropy : Secret} {start : Nat} {host : Host}
    {before after : Session}
    (created : outcome (create settings inputMap read entropy start) before = (.ok host, after))
    {now bound : Nat} (early : now ≤ bound) {cues : List Cue}
    (readings : ∀ check restart, .cleared check restart ∈ events cues → restart ≤ bound)
    (left : bound + Frequency.second ≤ Clock.latest) :
    (host.run now cues).clock.deadline? = some (host.run now cues).clock.deadline := by
  obtain ⟨-, rom, -, -, fresh⟩ := isFresh_of_create created
  obtain ⟨first, rest, rfl, -, reading⟩ := exists_drives host now cues
  have among : ∀ check restart, .cleared check restart ∈ events first → restart ≤ bound := by
    intro check restart member
    refine readings check restart ?_
    rw [events, List.filterMap_append]
    exact List.mem_append_left _ member
  have short : settings.config.timerRate.interval ≤ Frequency.second := by
    rw [Frequency.interval]
    split
    · exact Nat.zero_le _
    · exact Nat.div_le_self ..
  have restarted : (host.clock.reset now).last ≤ bound := early
  obtain ⟨last, interval⟩ := foldl_clockAfter (events first) restarted among
  rw [← reading] at last interval
  have same : (host.run now (first ++ rest)).clock.interval =
      settings.config.timerRate.interval := by
    rw [interval, fresh.clock]
    rfl
  rw [Clock.deadline?, Clock.instant?, if_pos]
  rw [Clock.deadline, same]
  omega

end Chip8.Desktop.Host
