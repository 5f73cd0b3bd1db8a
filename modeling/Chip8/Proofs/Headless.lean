import Chip8.CommandLine
import Chip8.Proofs.Runs

/-!
# Headless runs

A headless run stops at the first frame that waits for a key. No key will ever be pressed, so from
then on every frame would wait as well and change nothing but the timers: the display that is
printed is the one after all frames (`CommandLine.play_shows_last_frame`).
-/

namespace Chip8

namespace Machine

/-! ## Frames -/

/-- A frame that nobody listens to. -/
def frame (machine : Machine) : Report Flow := (machine.runFrame (Beeper.silent Unit) ()).1

/-- The machine after a number of frames, whatever they result in. -/
def afterFrames (machine : Machine) : Nat → Machine
  | 0 => machine
  | count + 1 => (machine.afterFrames count).frame.machine

variable {machine : Machine}

theorem afterFrames_add (machine : Machine) (first second : Nat) :
    machine.afterFrames (first + second) = (machine.afterFrames first).afterFrames second := by
  induction second with
  | zero => rfl
  | succ second ih => rw [Nat.add_succ, afterFrames, afterFrames, ih]

/-- A frame that waits for a key leaves the machine blocked. -/
theorem frame_isBlocked (waits : machine.frame.result = .ok .keyWait) :
    machine.frame.machine.IsBlocked := by
  have positive : 0 < machine.config.cyclesPerFrame := Nat.le_max_right ..
  exact (continueRun_isSettled positive _).blocked waits

namespace IsBlocked

variable (blocked : machine.IsBlocked)

include blocked

theorem frame_eq :
    machine.frame.result = .ok .keyWait ∧
      machine.frame.machine = machine.withCore (machine.core.afterTicks 1) := by
  rw [frame, blocked.runFrame_eq, ← Core.countDown_snd]
  exact ⟨rfl, tick_machine ..⟩

/-- Frames of a blocked machine count its timers down. -/
theorem afterFrames_eq (count : Nat) :
    machine.afterFrames count = machine.withCore (machine.core.afterTicks count) ∧
      (machine.afterFrames count).IsBlocked := by
  induction count with
  | zero =>
      rw [afterFrames, Core.afterTicks_zero]
      exact ⟨rfl, blocked⟩
  | succ count ih =>
      obtain ⟨counted, still⟩ := ih
      obtain ⟨waits, ticked⟩ := still.frame_eq
      refine ⟨?_, frame_isBlocked waits⟩
      rw [afterFrames, ticked, counted]
      exact congrArg machine.withCore (Core.afterTicks_afterTicks ..)

end IsBlocked

end Machine

namespace CommandLine

open Machine

/-! ## The loop of a headless run -/

/-- The frame neither fails nor waits for a key. -/
def GoesOn (report : Report Flow) : Prop := ∃ flow, report.result = .ok flow ∧ flow ≠ .keyWait

theorem playFrames_succ (count : Nat) (machine : Machine) :
    playFrames (count + 1) machine =
      match machine.frame.result with
      | .error fault => .error fault
      | .ok .keyWait => .ok machine.frame.machine
      | .ok _ => playFrames count machine.frame.machine := rfl

theorem playFrames_of_goesOn {machine : Machine} (goesOn : GoesOn machine.frame) (count : Nat) :
    playFrames (count + 1) machine = playFrames count machine.frame.machine := by
  obtain ⟨flow, done, other⟩ := goesOn
  rw [playFrames_succ, done]
  cases flow with
  | keyWait => exact absurd rfl other
  | ok | jump | draw | sound => rfl

/-- The loop gets past frames that go on. -/
theorem playFrames_add {machine : Machine} {first : Nat}
    (goesOn : ∀ index < first, GoesOn (machine.afterFrames index).frame) (rest : Nat) :
    playFrames (first + rest) machine = playFrames rest (machine.afterFrames first) := by
  induction first generalizing rest with
  | zero => rw [Nat.zero_add, afterFrames]
  | succ first ih =>
      have earlier := fun index below => goesOn index (Nat.lt_succ_of_lt below)
      have last := goesOn first first.lt_succ_self
      rw [Nat.succ_add_eq_add_succ, ih earlier, playFrames_of_goesOn last]
      rfl

/-- The loop ends at the first frame that does not go on. -/
theorem playFrames_of_first {machine : Machine} {index count : Nat} (below : index < count)
    (goesOn : ∀ earlier < index, GoesOn (machine.afterFrames earlier).frame)
    (stops : ¬ GoesOn (machine.afterFrames index).frame) :
    playFrames count machine =
      match (machine.afterFrames index).frame.result with
      | .error fault => .error fault
      | .ok _ => .ok (machine.afterFrames (index + 1)) := by
  obtain ⟨rest, rfl⟩ := Nat.exists_eq_add_of_lt below
  rw [Nat.add_assoc, playFrames_add goesOn, playFrames_succ, afterFrames]
  cases result : (machine.afterFrames index).frame.result with
  | error fault => rfl
  | ok flow =>
      cases flow with
      | keyWait => rfl
      | ok | jump | draw | sound => exact absurd ⟨_, result, nofun⟩ stops

/-- From a frame that waits for a key on, all frames do, and only the timers change. -/
theorem frames_after_wait {machine : Machine} {index : Nat}
    (waits : (machine.afterFrames index).frame.result = .ok .keyWait) (later : Nat) :
    (machine.afterFrames (index + later)).frame.result = .ok .keyWait ∧
      machine.afterFrames (index + 1 + later) =
        (machine.afterFrames (index + 1)).withCore
          ((machine.afterFrames (index + 1)).core.afterTicks later) := by
  have blocked : (machine.afterFrames (index + 1)).IsBlocked := frame_isBlocked waits
  rw [afterFrames_add machine (index + 1)]
  refine ⟨?_, (blocked.afterFrames_eq later).1⟩
  cases later with
  | zero => exact waits
  | succ later =>
      rw [← Nat.succ_add_eq_add_succ, afterFrames_add machine (index + 1)]
      exact (blocked.afterFrames_eq later).2.frame_eq.1

/-! ## What is printed -/

theorem play_eq (contents : Except IoFault (List UInt8)) (count : Nat) (entropy : Secret) :
    let loaded := (Machine.create {} entropy).loadFile contents
    play contents count entropy =
      match loaded.result with
      | .error fault => .error fault
      | .ok () => (playFrames count loaded.machine).map (·.core.display) := by
  intro loaded
  change (loaded.result >>= fun _ =>
    playFrames count loaded.machine >>= fun machine => pure machine.core.display) = _
  cases loaded.result with
  | error fault => rfl
  | ok value => cases playFrames count loaded.machine <;> rfl

/-- **The early stop cannot be seen.** A headless run prints the display after all its frames, or
the fault of the first frame that fails before any waits for a key. If no frame stops it, it runs
all of them. If it stops because a frame waits for a key, then all later frames would wait as well
and change nothing but the timers. -/
theorem play_shows_last_frame (contents : Except IoFault (List UInt8)) (count : Nat)
    (entropy : Secret) :
    let loaded := (Machine.create {} entropy).loadFile contents
    let reached := loaded.machine.afterFrames
    let frame index := (reached index).frame
    let shown := play contents count entropy
    (∀ fault, loaded.result = .error fault → shown = .error fault) ∧
    (loaded.result = .ok () →
      ((∀ index < count, GoesOn (frame index)) →
        playFrames count loaded.machine = .ok (reached count) ∧
        shown = .ok (reached count).core.display) ∧
      (∀ index < count, (∀ earlier < index, GoesOn (frame earlier)) →
        ((frame index).result = .ok .keyWait →
          playFrames count loaded.machine = .ok (reached (index + 1)) ∧
          shown = .ok (reached count).core.display ∧
          ∀ later, (frame (index + later)).result = .ok .keyWait ∧
            reached (index + 1 + later) =
              (reached (index + 1)).withCore ((reached (index + 1)).core.afterTicks later)) ∧
        (∀ fault, (frame index).result = .error fault → shown = .error fault))) ∧
    (∀ display, shown = .ok display → played shown = ⟨0, display.text ++ "\n", ""⟩) ∧
    (∀ fault, shown = .error fault → (played shown).status = 1 ∧ (played shown).output = "") := by
  intro loaded reached frame shown
  have played := play_eq contents count entropy
  refine ⟨?_, ?_, ?_, ?_⟩
  · intro fault failed
    exact played.trans (by rw [failed])
  · intro sound
    have played : shown = (playFrames count loaded.machine).map (·.core.display) :=
      played.trans (by rw [sound])
    refine ⟨fun goesOn => ?_, fun index below goesOn => ⟨fun waits => ?_, fun fault failed => ?_⟩⟩
    · have all : playFrames count loaded.machine = .ok (reached count) := playFrames_add goesOn 0
      exact ⟨all, by rw [played, all]; rfl⟩
    · have stops : ¬ GoesOn (frame index) := by
        rintro ⟨flow, done, other⟩
        cases waits.symm.trans done
        exact other rfl
      have ended : playFrames count loaded.machine = .ok (reached (index + 1)) := by
        rw [playFrames_of_first below goesOn stops, show (frame index).result = _ from waits]
      have later := frames_after_wait waits
      refine ⟨ended, ?_, later⟩
      obtain ⟨rest, rfl⟩ := Nat.exists_eq_add_of_lt below
      have last : reached (index + 1 + rest) = _ := (later rest).2
      rw [played, ended, Nat.add_right_comm, last]
      rfl
    · have stops : ¬ GoesOn (frame index) := by
        rintro ⟨flow, done, -⟩
        cases failed.symm.trans done
      rw [played, playFrames_of_first below goesOn stops, show (frame index).result = _ from failed]
      rfl
  · intro display done
    rw [done]
    rfl
  · intro fault failed
    rw [failed]
    exact ⟨rfl, rfl⟩

end CommandLine

end Chip8
