import Chip8.Proofs.Waiting

/-!
# Runs of steps

A run of some steps that does not fail, followed by a run of more steps, is one run
(`Machine.runSteps_add`). This holds also if the first run stops early to wait for a key, as every
later step then waits again.
-/

namespace Chip8

namespace Machine

/-- The flow of a report tells whether its machine waits for a key, and while it waits, no key is
held. -/
structure IsSettled (report : Report Flow) : Prop where
  awaits : ∀ flow, report.result = .ok flow →
    (flow = .keyWait ↔ report.machine.core.isAwaitingKey = true)
  blocked : report.result = .ok .keyWait → report.machine.IsBlocked

theorem advance_isSettled (report : Report Flow) : IsSettled (advance report) :=
  ⟨fun _ => step_keyWait_iff, step_isBlocked⟩

/-- A run ends with the report of a step, unless it takes none. -/
theorem continueRun_isSettled {count : Nat} (positive : 0 < count) (report : Report Flow) :
    IsSettled (continueRun count report) := by
  induction count generalizing report with
  | zero => cases positive
  | succ count ih =>
      rw [continueRun]
      split
      · exact advance_isSettled report
      · cases count with
        | zero => exact advance_isSettled report
        | succ count => exact ih count.succ_pos (advance report)

/-- What a run does depends on its machine alone. -/
theorem continueRun_eq (count : Nat) (report : Report Flow) :
    let rest := report.machine.runSteps count
    continueRun count report =
      ⟨if count = 0 then report.result else rest.result, rest.machine,
        report.records ++ rest.records⟩ := by
  induction count generalizing report with
  | zero => simp only [continueRun, runSteps, ↓reduceIte, Array.append_empty]
  | succ count ih =>
      let start : Report Flow := ⟨.ok .ok, report.machine, #[]⟩
      have sameEnd : isStopped (advance start) = isStopped (advance report) := rfl
      simp only [runSteps, continueRun, Nat.succ_ne_zero, ↓reduceIte]
      cases stopped : isStopped (advance report) with
      | true =>
          rw [sameEnd, stopped, if_pos rfl, if_pos rfl]
          simp only [advance, Array.empty_append]
      | false =>
          rw [sameEnd, stopped, if_neg Bool.false_ne_true, if_neg Bool.false_ne_true, ih, ih]
          simp only [advance, Array.empty_append, Array.append_assoc]

/-- A frame is a tick and a run, with result and machine independent of the beeper. -/
theorem runFrame_eq_runSteps {σ : Type} (machine : Machine) (beeper : Beeper σ) (state : σ) :
    let frame := (machine.runFrame beeper state).1
    let run := (machine.withCore machine.core.countDown.2).runSteps machine.config.cyclesPerFrame
    frame.result = run.result ∧ frame.machine = run.machine := by
  have positive : machine.config.cyclesPerFrame ≠ 0 := Nat.ne_of_gt (Nat.le_max_right ..)
  simp only [runFrame, continueRun_eq, tick_machine, positive, ↓reduceIte, and_self]

/-- A run that goes on after some steps does so unless they have stopped it. -/
theorem continueRun_add (first second : Nat) {report : Report Flow}
    (going : isStopped report = false) :
    continueRun (first + second) report =
      if isStopped (continueRun first report) then continueRun first report
      else continueRun second (continueRun first report) := by
  induction first generalizing report with
  | zero => rw [Nat.zero_add, continueRun, going, if_neg Bool.false_ne_true]
  | succ first ih =>
      rw [Nat.succ_add, continueRun, continueRun]
      cases stopped : isStopped (advance report) with
      | true => simp only [stopped, ↓reduceIte]
      | false =>
          simp only [Bool.false_eq_true, ↓reduceIte]
          exact ih stopped

/-- **Runs compose.** If a run fails, a longer run fails in the same way and leaves the same
machine. Otherwise going on with a second run leaves the machine, and logs the records, of one run
of as many steps as both, and has its result if it takes a step at all. A run that takes a step and
succeeds tells that the machine waits for a key exactly if it does. -/
theorem runSteps_add (machine : Machine) (first second : Nat) :
    let whole := machine.runSteps (first + second)
    let start := machine.runSteps first
    let rest := start.machine.runSteps second
    (∀ fault, start.result = .error fault →
      whole.result = .error fault ∧ whole.machine = start.machine ∧
        whole.records = start.records) ∧
    (∀ flow, start.result = .ok flow →
      rest.machine = whole.machine ∧ start.records ++ rest.records = whole.records ∧
        (0 < second → rest.result = whole.result) ∧
        (0 < first → (flow = .keyWait ↔ start.machine.core.isAwaitingKey = true))) := by
  intro whole start rest
  have split : whole = if isStopped start then start else continueRun second start :=
    continueRun_add first second rfl
  constructor
  · intro fault failed
    have stopped : isStopped start = true := by
      rw [isStopped, failed]
    have same : whole = start := by
      rw [split, if_pos stopped]
    rw [same]
    exact ⟨failed, rfl, rfl⟩
  · intro flow done
    have awaits : 0 < first → (flow = .keyWait ↔ start.machine.core.isAwaitingKey = true) :=
      fun positive => (continueRun_isSettled positive _).awaits flow done
    by_cases waits : flow = .keyWait
    · -- The first run may have stopped early, but then the rest of it would only have waited.
      subst waits
      have stopped : isStopped start = true := by
        rw [isStopped, done]
        rfl
      have same : whole = start := by
        rw [split, if_pos stopped]
      have positive : 0 < first := by
        refine Nat.pos_of_ne_zero ?_
        rintro rfl
        cases done
      have blocked : start.machine.IsBlocked :=
        (continueRun_isSettled positive _).blocked done
      rw [same]
      cases second with
      | zero =>
          refine ⟨rfl, Array.append_empty, fun more => ?_, awaits⟩
          cases more
      | succ second =>
          have again : rest = ⟨.ok .keyWait, start.machine, #[]⟩ :=
            blocked.runSteps_eq second.succ_pos
          rw [again, done]
          exact ⟨rfl, Array.append_empty, fun _ => rfl, awaits⟩
    · have goes : whole = continueRun second start := by
        rw [split, isStopped, done]
        exact if_neg fun same => waits (eq_of_beq same)
      rw [goes, continueRun_eq]
      refine ⟨rfl, rfl, ?_, awaits⟩
      intro more
      exact (if_neg (Nat.ne_of_gt more)).symm

end Machine

end Chip8
