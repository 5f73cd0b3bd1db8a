import Chip8.Proofs.Desktop.EventLoop
import Chip8.Proofs.KeyHistory

/-!
# Held keys of the host

A key of the keypad is one bit, but several host keys can be bound to it. The bit is what the latest
press or release of any of them has made it (`Host.run_isPressed`), so it is not always the case
that the key is pressed while one of them is held.
-/

namespace Chip8

namespace Desktop

/-! ## Strokes -/

namespace Event

/-- What an event tells about some host keys: one of them was pressed or released, or the window has
lost the focus and none of them counts as held. -/
def stroke? (kind : HostKey → Bool) : Event → Option Bool
  | .window id (.key (some hostKey) pressed) =>
    if id = mainWindow ∧ kind hostKey = true then some pressed else none
  | .window id (.focused false) => if id = mainWindow then some false else none
  | _ => none

/-- Whether the latest of some host keys to be pressed or released was pressed, since the window has
lost the focus. -/
def isHeld (kind : HostKey → Bool) (events : List Event) : Bool :=
  (events.filterMap (stroke? kind)).getLast?.getD false

theorem isHeld_concat (kind : HostKey → Bool) (events : List Event) (event : Event) :
    isHeld kind (events ++ [event]) = (event.stroke? kind).getD (isHeld kind events) := by
  rw [isHeld, getLast?_filterMap_concat, Option.getD_or]
  rfl

theorem stroke?_eq_some_true {kind : HostKey → Bool} {event : Event}
    (struck : event.stroke? kind = some true) :
    ∃ hostKey, kind hostKey = true ∧ event = .window mainWindow (.key (some hostKey) true) := by
  unfold stroke? at struck
  split at struck
  next id hostKey pressed =>
    split at struck
    next member =>
      obtain rfl : pressed = true := Option.some.inj struck
      exact ⟨hostKey, member.2, by rw [member.1]⟩
    next => cases struck
  next id => split at struck <;> cases struck
  next => cases struck

theorem stroke?_of_ne_mainWindow {kind : HostKey → Bool} {id : WindowId} (other : id ≠ mainWindow)
    {event : WindowEvent} : (Event.window id event).stroke? kind = none := by
  cases event with
  | key key? pressed =>
      cases key? with
      | none => rfl
      | some hostKey => exact if_neg fun struck => other struck.1
  | focused gained =>
      cases gained with
      | false => exact if_neg other
      | true => rfl
  | resized | closeRequested | other => rfl

theorem stroke?_eq_none_of_imp {kind fewer : HostKey → Bool}
    (included : ∀ hostKey, fewer hostKey = true → kind hostKey = true) {event : Event}
    (idle : event.stroke? kind = none) : event.stroke? fewer = none := by
  unfold stroke? at idle ⊢
  split
  next id hostKey pressed =>
    refine if_neg fun member => ?_
    have struck : (if id = mainWindow ∧ kind hostKey = true then some pressed else none) =
        some pressed := if_pos ⟨member.1, included hostKey member.2⟩
    cases struck.symm.trans idle
  next id => exact idle
  next => rfl

/-- If the latest of some host keys was pressed, then that one is held. -/
theorem exists_isHeld {kind : HostKey → Bool} {events : List Event}
    (held : isHeld kind events = true) :
    ∃ hostKey, kind hostKey = true ∧ isHeld (· == hostKey) events = true := by
  induction events using List.reverseRecOn with
  | nil => cases held
  | append_singleton events event ih =>
      rw [isHeld_concat] at held
      cases struck : event.stroke? kind with
      | none =>
          rw [struck] at held
          -- No host key of the kind was struck, so in particular not the one that is held.
          obtain ⟨hostKey, member, held⟩ := ih held
          refine ⟨hostKey, member, ?_⟩
          have included (other : HostKey) (same : (other == hostKey) = true) :
              kind other = true := by
            rw [eq_of_beq same]
            exact member
          rw [isHeld_concat, stroke?_eq_none_of_imp included struck]
          exact held
      | some pressed =>
          rw [struck] at held
          obtain rfl : pressed = true := held
          obtain ⟨hostKey, member, rfl⟩ := stroke?_eq_some_true struck
          refine ⟨hostKey, member, ?_⟩
          rw [isHeld_concat, stroke?, if_pos ⟨rfl, beq_self_eq_true hostKey⟩]
          rfl

end Event

/-- The host keys that a layout binds to a key of the keypad. -/
def presses (inputMap : InputMap) (key : Key) (hostKey : HostKey) : Bool :=
  inputMap.binding? hostKey == some (.key key)

theorem bind_verdict?_request?_window (inputMap : InputMap) (event : WindowEvent) (key : Key) :
    (event.request? inputMap).bind (Request.verdict? key.val) =
      (Event.window mainWindow event).stroke? (presses inputMap key) := by
  cases event with
  | resized width height => rfl
  | closeRequested | other => rfl
  | focused gained => cases gained <;> rfl
  | key key? pressed =>
      cases key? with
      | none => rfl
      | some hostKey =>
          simp only [WindowEvent.request?, Event.stroke?, presses, true_and, beq_iff_eq]
          cases inputMap.binding? hostKey with
          | none => rfl
          | some binding =>
              cases binding with
              | action name => rfl
              | key bound =>
                  by_cases same : bound = key
                  · subst same
                    exact (if_pos rfl).trans (if_pos rfl).symm
                  · refine (if_neg fun equal => same (Fin.ext equal)).trans (if_neg ?_).symm
                    exact fun equal => same (by cases equal; rfl)

/-- What an event tells about a key of the keypad is what it tells about the host keys for it. -/
theorem bind_verdict?_request? (inputMap : InputMap) (clock : Clock) (event : Event) (key : Key) :
    (event.request? inputMap clock).bind (Request.verdict? key.val) =
      event.stroke? (presses inputMap key) := by
  cases event with
  | cleared check restart =>
      rw [Event.request?]
      split <;> rfl
  | redraw | other => rfl
  | window id event =>
      by_cases main : id = mainWindow
      · subst main
        exact bind_verdict?_request?_window inputMap event key
      · rw [Event.request?, if_neg main, Event.stroke?_of_ne_mainWindow main]
        rfl

theorem filterMap_verdict?_requests (inputMap : InputMap) (clock : Clock) (events : List Event)
    (key : Key) :
    (Host.requests inputMap clock events).filterMap (Request.verdict? key.val) =
      events.filterMap (Event.stroke? (presses inputMap key)) := by
  induction events generalizing clock with
  | nil => rfl
  | cons event events ih =>
      have told := bind_verdict?_request? inputMap clock event key
      rw [Host.requests, List.filterMap_append, ih, List.filterMap_cons, ← told]
      cases event.request? inputMap clock with
      | none => rfl
      | some request =>
          rw [Option.toList_some, List.filterMap_cons, List.filterMap_nil, Option.bind_some]
          cases request.verdict? key.val <;> rfl

/-- The bit of a key is what the latest stroke of its host keys has made it. -/
theorem isPressed_requests (inputMap : InputMap) (clock : Clock) {console : Console Bell}
    (released : console.machine.core.keys = .released) (events : List Event) (key : Key) :
    let after := console.run (Bell.ringing none) (Host.requests inputMap clock events)
    after.machine.core.keys.isPressed key.val = Event.isHeld (presses inputMap key) events := by
  dsimp only
  rw [Console.isPressed_run, released, Keypad.isPressed_released, Request.lastVerdict?,
    filterMap_verdict?_requests, Event.isHeld]

namespace Host

open Staged

/-- **A key of the keypad follows the latest stroke of its host keys.** After any cues, up to and
including the one that ends the application, a key of the keypad is pressed exactly if the latest
press or release of the host keys bound to it, since the window has lost the focus, was a press. So
a pressed key has a host key that is held, and if at most one host key is bound to it, then it is
pressed exactly while that one is held. -/
theorem run_isPressed {settings : Settings} {inputMap : InputMap}
    {read : String → Except IoFault (List UInt8)} {entropy : Secret} {start : Nat} {host : Host}
    {before after : Session}
    (created : outcome (create settings inputMap read entropy start) before = (.ok host, after))
    (now : Nat) {cues : List Cue} (running : (host.run now cues.dropLast).isEnded = false)
    (key : Key) :
    let isPressed := (host.run now cues).machine.core.keys.isPressed key.val
    let bound := presses inputMap key
    let isHeld := fun hostKey => Event.isHeld (· == hostKey) (events cues)
    isPressed = Event.isHeld bound (events cues) ∧
      (isPressed = true → ∃ hostKey, bound hostKey = true ∧ isHeld hostKey = true) ∧
      ((∀ first second, bound first = true → bound second = true → first = second) →
        (isPressed = true ↔ ∃ hostKey, bound hostKey = true ∧ isHeld hostKey = true)) := by
  intro isPressed bound isHeld
  obtain ⟨-, rom, -, -, fresh⟩ := isFresh_of_create created
  have released : host.console.machine.core.keys = .released := by
    rw [console, fresh.machine]
    exact Machine.loadFile_keys (.create settings.config entropy) (read rom)
  have follows : isPressed = Event.isHeld bound (events cues) := by
    obtain ⟨driven, -, -⟩ := run_drives host now running
    have pressed := isPressed_requests host.inputMap (host.clock.reset now) released
      (events cues) key
    rwa [← driven, fresh.inputMap] at pressed
  have someHeld (pressed : isPressed = true) :
      ∃ hostKey, bound hostKey = true ∧ isHeld hostKey = true :=
    Event.exists_isHeld (follows.symm.trans pressed)
  refine ⟨follows, someHeld, fun unique => ⟨someHeld, ?_⟩⟩
  rintro ⟨hostKey, member, held⟩
  have alone : bound = (· == hostKey) := by
    funext other
    rw [Bool.eq_iff_iff, beq_iff_eq]
    constructor
    · intro otherMember
      exact unique other hostKey otherMember member
    · rintro rfl
      exact member
  rw [follows, alone]
  exact held

/-- Of two host keys for one key the first is held when the focus is lost, the second afterwards. -/
theorem run_isPressed_after_focus_loss :
    let settings : Settings :=
      { rom? := some "await.ch8", config := { timerRate := ⟨2000000000⟩, seed? := some 0 } }
    let read : String → Except IoFault (List UInt8) := fun _ => .ok [0xF0, 0x0A]
    let entropy : Secret := Vector.replicate 8 0
    let up : HostKey := ⟨"Up", by decide⟩
    let w : HostKey := ⟨"W", by decide⟩
    let five : Key := ⟨5, by decide⟩
    let inputMap : InputMap := ⟨[(up, .key five), (w, .key five)]⟩
    let cues : List Cue := [.event (.window mainWindow (.key (some up) true)),
      .event (.cleared 7 7), .event (.window mainWindow (.focused false)),
      .event (.window mainWindow (.key (some w) true)), .event (.cleared 9 9)]
    ∃ host after,
      outcome (create settings inputMap read entropy 0) (.start .willing) = (.ok host, after) ∧
        (host.run 5 cues.dropLast).isEnded = false ∧
        (host.run 5 cues).machine.core.keys.isPressed five.val = true ∧
        ∃ hostKey, presses inputMap five hostKey = true ∧
          Event.isHeld (· == hostKey) (events cues) = true := by
  intro settings read entropy up w five inputMap cues
  have passes : (outcome (create settings inputMap read entropy 0) (.start .willing)).1.toOption.any
      (fun host => !(host.run 5 cues.dropLast).isEnded) = true := by
    decide +kernel
  obtain ⟨host, after, created, runs⟩ := exists_of_passes passes
  rw [Bool.not_eq_true'] at runs
  have latest : Event.isHeld (presses inputMap five) (events cues) = true := by
    decide +kernel
  obtain ⟨follows, someHeld, -⟩ := run_isPressed created 5 runs five
  have pressed := follows.trans latest
  exact ⟨host, after, created, runs, pressed, someHeld pressed⟩

/-- A key counts as released while a host key for it is held: another one was let go. -/
theorem released_while_held :
    let settings : Settings :=
      { rom? := some "await.ch8", config := { timerRate := ⟨2000000000⟩, seed? := some 0 } }
    let read : String → Except IoFault (List UInt8) := fun _ => .ok [0xF0, 0x0A]
    let entropy : Secret := Vector.replicate 8 0
    let up : HostKey := ⟨"Up", by decide⟩
    let w : HostKey := ⟨"W", by decide⟩
    let five : Key := ⟨5, by decide⟩
    let inputMap : InputMap := ⟨[(up, .key five), (w, .key five)]⟩
    let cues : List Cue := [.event (.window mainWindow (.key (some up) true)),
      .event (.window mainWindow (.key (some w) true)),
      .event (.window mainWindow (.key (some up) false))]
    InputMap.ofDefinitions [{ key? := some five, hostKeys := [up, w] }] = .ok inputMap ∧
      ∃ host after,
        outcome (create settings inputMap read entropy 0) (.start .willing) = (.ok host, after) ∧
          (host.run 5 cues).isEnded = false ∧
          inputMap.binding? w = some (.key five) ∧
          Event.isHeld (· == w) (events cues) = true ∧
          (host.run 5 cues).machine.core.keys.isPressed five.val = false := by
  intro settings read entropy up w five inputMap cues
  have passes : (outcome (create settings inputMap read entropy 0) (.start .willing)).1.toOption.any
      (fun host => !(host.run 5 cues).isEnded &&
        !(host.run 5 cues).machine.core.keys.isPressed five.val) = true := by
    decide +kernel
  obtain ⟨host, after, created, runs⟩ := exists_of_passes passes
  simp only [Bool.and_eq_true, Bool.not_eq_true'] at runs
  have bound : inputMap.binding? w = some (.key five) := by
    decide +kernel
  have held : Event.isHeld (· == w) (events cues) = true := by
    decide +kernel
  exact ⟨rfl, host, after, created, runs.1, bound, held, runs.2⟩

end Host

end Desktop

end Chip8
