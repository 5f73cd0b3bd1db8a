import Chip8.Clock
import Mathlib.Data.List.Basic

/-!
# The clock keeps its interval

A host asks a clock to tick, to wait, to restart and to tell its deadline, in any order. The calls
take their readings one after the other from a source that never goes back; a list of readings
stands for the start of what the source will give. From the reading that a success stores to the one
that passes the next there is at least the interval, so no span of time holds more successes than
intervals fit into it, and one. A deadline is told exactly if there is such a point in time
(`Clock.run_spaces_successes`).
-/

namespace Chip8.Clock

/-! ## Calls -/

/-- What a host asks of a clock. -/
inductive Call where
  | tick
  | wait
  | reset
  | deadline

/-- A tick that passed or a wait that returned. -/
structure Success where
  /-- The reading at which the interval was over. -/
  passed : Nat
  /-- The reading at which the clock restarted. -/
  stored : Nat
  deriving DecidableEq

/-- What a call has come to. -/
inductive Outcome where
  | succeeded (success : Success)
  /-- A tick has come too early. -/
  | early (check : Nat)
  | restarted (reading : Nat)
  | told (deadline : Nat)
  /-- A deadline was asked for that is behind the last point in time. The call panics; who catches
  that goes on with the clock as it was. -/
  | panicked
  deriving DecidableEq

namespace Outcome

def success? : Outcome → Option Success
  | .succeeded success => some success
  | _ => none

theorem eq_of_success? {outcome : Outcome} {success : Success}
    (succeeds : outcome.success? = some success) : outcome = .succeeded success := by
  cases outcome with
  | succeeded other =>
      cases succeeds
      rfl
  | early | restarted | told | panicked => cases succeeds

/-- The reading that the clock has stored. -/
def stored? : Outcome → Option Nat
  | .succeeded success => some success.stored
  | .restarted reading => some reading
  | _ => none

end Outcome

/-- What a call comes to, the clock it leaves, and the readings after its own. If the readings do
not suffice, it has not returned yet. -/
def serve? (clock : Clock) (readings : List Nat) : Call → Option (Outcome × Clock × List Nat)
  | .tick =>
    match readings with
    | check :: restart :: later =>
      let ticked := clock.tick check restart
      if ticked.1 then some (.succeeded ⟨check, restart⟩, ticked.2, later)
      else some (.early check, ticked.2, restart :: later)
    | _ => none
  | .wait => do
    let passed ← readings.find? clock.isDue
    let (next, later) ← clock.wait? readings
    return (.succeeded ⟨passed, next.last⟩, next, later)
  | .reset =>
    match readings with
    | [] => none
    | reading :: later => some (.restarted reading, clock.reset reading, later)
  | .deadline =>
    match clock.deadline? with
    | some deadline => some (.told deadline, clock, readings)
    | none => some (.panicked, clock, readings)

/-- What calls come to, one after the other, the clock they leave and the readings after theirs; no
call is made behind one that does not return. -/
def run (clock : Clock) (readings : List Nat) : List Call → List Outcome × Clock × List Nat
  | [] => ([], clock, readings)
  | call :: calls =>
    match clock.serve? readings call with
    | none => ([], clock, readings)
    | some (outcome, next, later) =>
      let rest := run next later calls
      (outcome :: rest.1, rest.2)

/-! ## Single calls -/

theorem isDue_iff {clock : Clock} {reading : Nat} (notBefore : clock.last ≤ reading) :
    clock.isDue reading = true ↔ clock.deadline ≤ reading := by
  rw [isDue, decide_eq_true_eq, deadline]
  omega

@[simp] theorem instant?_eq_some_iff {time instant : Nat} :
    instant? time = some instant ↔ time = instant ∧ time ≤ latest := by
  rw [instant?, Option.ite_none_right_eq_some, Option.some.injEq, and_comm]

@[simp] theorem instant?_eq_none_iff {time : Nat} : instant? time = none ↔ latest < time := by
  rw [instant?, ite_eq_right_iff, ← Nat.not_le]
  simp only [reduceCtorEq, imp_false]

/-- At a point in time the interval is over exactly if a deadline can be told and has come. -/
theorem isDue_iff_deadline? {clock : Clock} {reading : Nat} (notBefore : clock.last ≤ reading)
    (representable : reading ≤ latest) :
    clock.isDue reading = true ↔
      ∃ deadline, clock.deadline? = some deadline ∧ deadline ≤ reading := by
  rw [isDue_iff notBefore]
  constructor
  · intro due
    exact ⟨clock.deadline, instant?_eq_some_iff.mpr ⟨rfl, Nat.le_trans due representable⟩, due⟩
  · rintro ⟨deadline, told, due⟩
    exact (instant?_eq_some_iff.mp told).1 ▸ due

theorem tick_of_due {clock : Clock} {check : Nat} (due : clock.isDue check = true)
    (restart : Nat) : clock.tick check restart = (true, clock.reset restart) := if_pos due

theorem tick_of_early {clock : Clock} {check : Nat} (early : clock.isDue check = false)
    (restart : Nat) : clock.tick check restart = (false, clock) :=
  if_neg (Bool.eq_false_iff.mp early)

/-- A wait passes over the readings that are too early, and stores the one after the first that is
not. -/
theorem exists_of_wait? {clock next : Clock} {readings later : List Nat}
    (returned : clock.wait? readings = some (next, later)) :
    ∃ skipped passed stored, readings = skipped ++ passed :: stored :: later ∧
      readings.find? clock.isDue = some passed ∧ clock.isDue passed = true ∧
      next = clock.reset stored := by
  induction readings with
  | nil => cases returned
  | cons reading readings ih =>
      cases due : clock.isDue reading with
      | true =>
          cases readings with
          | nil =>
              simp only [wait?, due, ↓reduceIte] at returned
              cases returned
          | cons stored rest =>
              simp only [wait?, due, ↓reduceIte] at returned
              cases returned
              exact ⟨[], reading, stored, rfl, List.find?_cons_of_pos due, due, rfl⟩
      | false =>
          simp only [wait?, due, Bool.false_eq_true, ↓reduceIte] at returned
          obtain ⟨skipped, passed, stored, split, found, isDue, restarted⟩ := ih returned
          have early : ¬ clock.isDue reading = true := Bool.eq_false_iff.mp due
          refine ⟨reading :: skipped, passed, stored, congrArg (reading :: ·) split, ?_, isDue,
            restarted⟩
          rw [List.find?_cons_of_neg early, found]

/-- What a call has done to the clock, if time has not gone back. -/
structure Serves (clock : Clock) (outcome : Outcome) (next : Clock) (later : List Nat) : Prop where
  interval : next.interval = clock.interval
  last : next.last = outcome.stored?.getD clock.last
  forward : clock.last ≤ next.last
  ordered : (next.last :: later).Pairwise (· ≤ ·)
  told : ∀ deadline, outcome = .told deadline → clock.deadline? = some deadline
  panicked : outcome = .panicked → clock.deadline? = none
  succeeded : ∀ success, outcome = .succeeded success →
    clock.deadline ≤ success.passed ∧ success.passed ≤ success.stored

section

variable {clock : Clock} {readings : List Nat}
  (ordered : (clock.last :: readings).Pairwise (· ≤ ·))

include ordered

/-- A clock that restarts at a reading behind one that is due. -/
theorem serves_success {skipped later : List Nat} {passed stored : Nat}
    (split : readings = skipped ++ passed :: stored :: later) (due : clock.isDue passed = true) :
    Serves clock (.succeeded ⟨passed, stored⟩) (clock.reset stored) later := by
  subst split
  obtain ⟨first, rest⟩ := List.pairwise_cons.mp ordered
  have notBefore : clock.last ≤ passed := first passed (by simp)
  have tail : (passed :: stored :: later).Pairwise (· ≤ ·) :=
    rest.sublist (List.sublist_append_right skipped _)
  have after : passed ≤ stored := List.rel_of_pairwise_cons tail (.head later)
  refine ⟨rfl, rfl, Nat.le_trans notBefore after, tail.of_cons, nofun, nofun, ?_⟩
  rintro success ⟨⟩
  exact ⟨(isDue_iff notBefore).mp due, after⟩

theorem serves_of_serve? {call : Call} {outcome : Outcome} {next : Clock} {later : List Nat}
    (served : clock.serve? readings call = some (outcome, next, later)) :
    Serves clock outcome next later := by
  cases call with
  | tick =>
      cases readings with
      | nil => cases served
      | cons check readings =>
          cases readings with
          | nil => cases served
          | cons restart readings =>
              cases due : clock.isDue check with
              | true =>
                  simp only [serve?, tick_of_due due, ↓reduceIte] at served
                  cases served
                  exact serves_success ordered (List.nil_append _).symm due
              | false =>
                  simp only [serve?, tick_of_early due, Bool.false_eq_true, ↓reduceIte] at served
                  cases served
                  have rest :=
                    ordered.sublist ((List.sublist_cons_self check _).cons_cons clock.last)
                  exact ⟨rfl, rfl, Nat.le_refl _, rest, nofun, nofun, nofun⟩
  | wait =>
      cases returned : clock.wait? readings with
      | none => simp [serve?, returned] at served
      | some result =>
          obtain ⟨after, rest⟩ := result
          obtain ⟨skipped, passed, stored, split, found, due, rfl⟩ := exists_of_wait? returned
          simp only [serve?, found, returned] at served
          cases served
          exact serves_success ordered split due
  | reset =>
      cases readings with
      | nil => cases served
      | cons reading readings =>
          cases served
          have forward : clock.last ≤ reading := List.rel_of_pairwise_cons ordered (.head _)
          exact ⟨rfl, rfl, forward, ordered.of_cons, nofun, nofun, nofun⟩
  | deadline =>
      cases told : clock.deadline? with
      | none =>
          simp only [serve?, told] at served
          cases served
          exact ⟨rfl, rfl, Nat.le_refl _, ordered, nofun, fun _ => told, nofun⟩
      | some deadline =>
          simp only [serve?, told] at served
          cases served
          refine ⟨rfl, rfl, Nat.le_refl _, ordered, ?_, nofun, nofun⟩
          rintro other ⟨⟩
          exact told

end

/-! ## Runs of calls -/

/-- Calls that were served one after the other. -/
inductive Course : Clock → List Outcome → Clock → List Nat → Prop where
  | done {clock : Clock} {readings : List Nat}
      (ordered : (clock.last :: readings).Pairwise (· ≤ ·)) : Course clock [] clock readings
  | served {clock next final : Clock} {outcome : Outcome} {outcomes : List Outcome}
      {later rest : List Nat} (serves : Serves clock outcome next later)
      (course : Course next outcomes final rest) : Course clock (outcome :: outcomes) final rest

theorem course_run {clock : Clock} {readings : List Nat}
    (ordered : (clock.last :: readings).Pairwise (· ≤ ·)) (calls : List Call) :
    let ran := clock.run readings calls
    Course clock ran.1 ran.2.1 ran.2.2 := by
  induction calls generalizing clock readings with
  | nil => exact .done ordered
  | cons call calls ih =>
      cases served : clock.serve? readings call with
      | none =>
          simp only [run, served]
          exact .done ordered
      | some result =>
          obtain ⟨outcome, next, later⟩ := result
          have serves := serves_of_serve? ordered served
          simp only [run, served]
          exact .served serves (ih serves.ordered)

namespace Course

variable {clock final : Clock} {outcomes : List Outcome} {rest : List Nat}

theorem interval (course : Course clock outcomes final rest) :
    final.interval = clock.interval := by
  induction course with
  | done => rfl
  | served serves course ih => exact ih.trans serves.interval

theorem ordered (course : Course clock outcomes final rest) :
    (final.last :: rest).Pairwise (· ≤ ·) := by
  induction course with
  | done ordered => exact ordered
  | served serves course ih => exact ih

theorem getLastD_cons_stored? (outcome : Outcome) (outcomes : List Outcome) (start : Nat) :
    ((outcome :: outcomes).filterMap Outcome.stored?).getLastD start =
      (outcomes.filterMap Outcome.stored?).getLastD (outcome.stored?.getD start) := by
  cases stored : outcome.stored? with
  | none => rw [List.filterMap_cons_none stored, Option.getD_none]
  | some reading => rw [List.filterMap_cons_some stored, List.getLastD_cons, Option.getD_some]

/-- The clock holds the reading stored last. -/
theorem last (course : Course clock outcomes final rest) :
    final.last = (outcomes.filterMap Outcome.stored?).getLastD clock.last := by
  induction course with
  | done => rfl
  | served serves course ih => rw [ih, serves.last, getLastD_cons_stored?]

/-- At any time of a course the clock holds the reading stored last before, and the calls from then
on are made on it. -/
theorem exists_of_split (course : Course clock outcomes final rest) {before after : List Outcome}
    (split : outcomes = before ++ after) :
    ∃ current, current.last = (before.filterMap Outcome.stored?).getLastD clock.last ∧
      current.interval = clock.interval ∧ Course current after final rest := by
  induction course generalizing before with
  | done ordered =>
      obtain ⟨rfl, rfl⟩ := List.append_eq_nil_iff.mp split.symm
      exact ⟨_, rfl, rfl, .done ordered⟩
  | served serves course ih =>
      cases before with
      | nil =>
          rw [List.nil_append] at split
          subst split
          exact ⟨_, rfl, rfl, .served serves course⟩
      | cons first before =>
          obtain ⟨rfl, later⟩ := List.cons.inj split
          obtain ⟨current, last, interval, remaining⟩ := ih later
          refine ⟨current, ?_, interval.trans serves.interval, remaining⟩
          rw [last, serves.last, getLastD_cons_stored?]

/-- What a deadline call comes to: it tells the time an interval behind the reading stored last
before, and panics if that is not a point in time. -/
theorem told (course : Course clock outcomes final rest) {before after : List Outcome}
    {outcome : Outcome} (split : outcomes = before ++ outcome :: after) :
    let due := (before.filterMap Outcome.stored?).getLastD clock.last + clock.interval
    (∀ deadline, outcome = .told deadline → deadline = due ∧ due ≤ latest) ∧
      (outcome = .panicked → latest < due) := by
  obtain ⟨current, last, interval, remaining⟩ := course.exists_of_split split
  cases remaining with
  | served serves _ =>
      rw [← last, ← interval]
      refine ⟨fun deadline same => ?_, fun same => ?_⟩
      · obtain ⟨due, representable⟩ := instant?_eq_some_iff.mp (serves.told deadline same)
        exact ⟨due.symm, representable⟩
      · exact instant?_eq_none_iff.mp (serves.panicked same)

/-- No success comes before the deadline at the start. -/
theorem deadline_le (course : Course clock outcomes final rest) {success : Success}
    (member : success ∈ outcomes.filterMap Outcome.success?) :
    clock.deadline ≤ success.passed ∧ success.passed ≤ success.stored := by
  induction course with
  | done => cases member
  | served serves course ih =>
      obtain ⟨other, found, succeeds⟩ := List.mem_filterMap.mp member
      have same := Outcome.eq_of_success? succeeds
      rcases List.mem_cons.mp found with rfl | later
      · exact serves.succeeded success same
      · obtain ⟨passes, stores⟩ := ih (List.mem_filterMap.mpr ⟨other, later, succeeds⟩)
        have forward := serves.forward
        rw [deadline, serves.interval] at passes
        exact ⟨Nat.le_trans (Nat.add_le_add_right forward _) passes, stores⟩

/-- From each success to every later one the interval passes. -/
theorem spaced (course : Course clock outcomes final rest) :
    (outcomes.filterMap Outcome.success?).Pairwise fun earlier later =>
      earlier.stored + clock.interval ≤ later.passed := by
  induction course with
  | done => exact .nil
  | @served clock next _ outcome _ _ _ serves course ih =>
      rw [serves.interval] at ih
      cases succeeds : outcome.success? with
      | none => rwa [List.filterMap_cons_none succeeds]
      | some success =>
          rw [List.filterMap_cons_some succeeds]
          refine .cons (fun later member => ?_) ih
          have restarted : next.last = success.stored := by
            rw [serves.last, Outcome.eq_of_success? succeeds]
            rfl
          have passes := (course.deadline_le member).1
          rwa [deadline, serves.interval, restarted] at passes

end Course

/-! ## Spans of time -/

/-- Whether a success falls into a span of time, be it only with the time from the reading that
passed to the one that was stored. -/
def Success.isWithin (opening span : Nat) (success : Success) : Bool :=
  success.passed ≤ opening + span && opening ≤ success.stored

/-- Behind the first of some successes that pass within a bound there is an interval for each other
one. -/
theorem intervals_le {interval : Nat} (bound : Nat) {first : Success} {others : List Success}
    (spaced : (first :: others).Pairwise fun earlier later =>
      earlier.stored + interval ≤ later.passed)
    (bounded : ∀ success ∈ others, success.passed ≤ bound ∧ success.passed ≤ success.stored) :
    others.length * interval ≤ bound - first.stored := by
  induction others generalizing first with
  | nil =>
      rw [List.length_nil, Nat.zero_mul]
      exact Nat.zero_le _
  | cons second others ih =>
      obtain ⟨apart, rest⟩ := List.pairwise_cons.mp spaced
      have gap := apart second (.head others)
      obtain ⟨passes, stores⟩ := bounded second (.head others)
      have shorter := ih rest fun success member => bounded success (.tail second member)
      rw [List.length_cons, Nat.succ_mul]
      omega

theorem length_le_of_spaced {interval : Nat} (positive : 0 < interval) {successes : List Success}
    (spaced : successes.Pairwise fun earlier later => earlier.stored + interval ≤ later.passed)
    (stores : ∀ success ∈ successes, success.passed ≤ success.stored) (opening span : Nat) :
    (successes.filter (Success.isWithin opening span)).length ≤ span / interval + 1 := by
  have within : ∀ success ∈ successes.filter (Success.isWithin opening span),
      success.passed ≤ opening + span ∧ opening ≤ success.stored ∧
        success.passed ≤ success.stored := by
    intro success member
    obtain ⟨found, falls⟩ := List.mem_filter.mp member
    simp only [Success.isWithin, Bool.and_eq_true, decide_eq_true_eq] at falls
    exact ⟨falls.1, falls.2, stores success found⟩
  have apart := spaced.filter (Success.isWithin opening span)
  cases found : successes.filter (Success.isWithin opening span) with
  | nil => exact Nat.zero_le _
  | cons first others =>
      rw [found] at within apart
      have opens := (within first (.head others)).2.1
      have fits := intervals_le (opening + span) apart fun success member =>
        ⟨(within success (.tail first member)).1, (within success (.tail first member)).2.2⟩
      refine Nat.succ_le_succ ((Nat.le_div_iff_mul_le positive).mpr ?_)
      omega

/-- **A clock never ticks faster than its interval.** Whatever calls are made, as long as readings
do not go back: the next tick succeeds exactly if its first reading is not before the deadline, and
otherwise changes nothing. The deadline is always an interval behind the reading stored last. It is
told exactly if that is a point in time, and asking for it panics otherwise, also on the way; then
no tick succeeds at any point in time. From the reading that a success stores to the reading that
passes any later one there is at least an interval, so a span of time holds at most one success more
than intervals fit into it. The intervals of a second at a frequency fit into the second. -/
theorem run_spaces_successes (interval start : Nat) {readings : List Nat}
    (ordered : (start :: readings).Pairwise (· ≤ ·)) (calls : List Call) :
    let ran := (Clock.mk start interval).run readings calls
    let outcomes := ran.1
    let clock := ran.2.1
    let successes := outcomes.filterMap Outcome.success?
    let stored := fun outcomes : List Outcome =>
      (outcomes.filterMap Outcome.stored?).getLastD start
    (∀ check ∈ ran.2.2, ∀ restart,
      let ticked := clock.tick check restart
      (ticked.1 = true ↔ clock.deadline ≤ check) ∧
        (check ≤ latest →
          (ticked.1 = true ↔ ∃ deadline, clock.deadline? = some deadline ∧ deadline ≤ check)) ∧
        (ticked.1 = false → ticked.2 = clock)) ∧
    (clock.deadline = stored outcomes + interval ∧
      (∀ deadline, clock.deadline? = some deadline ↔
        deadline = stored outcomes + interval ∧ stored outcomes + interval ≤ latest) ∧
      (∀ before deadline after, outcomes = before ++ .told deadline :: after →
        deadline = stored before + interval ∧ stored before + interval ≤ latest) ∧
      ∀ before after, outcomes = before ++ .panicked :: after →
        latest < stored before + interval) ∧
    (∀ success ∈ successes, success.passed ≤ success.stored) ∧
    successes.Pairwise (fun earlier later => earlier.stored + interval ≤ later.passed) ∧
    (0 < interval → ∀ opening span,
      (successes.filter (Success.isWithin opening span)).length ≤ span / interval + 1) ∧
    ∀ frequency : Frequency, 0 < frequency.perSecond →
      frequency.perSecond * frequency.interval ≤ Frequency.second := by
  intro ran outcomes clock successes stored
  have course : Course (Clock.mk start interval) outcomes clock ran.2.2 := course_run ordered calls
  have stores : ∀ success ∈ successes, success.passed ≤ success.stored :=
    fun success member => (course.deadline_le member).2
  have due : clock.deadline = stored outcomes + interval := by
    rw [deadline, course.last, course.interval]
  refine ⟨?_, ⟨due, fun deadline => ?_, fun before deadline after split => ?_,
    fun before after split => (course.told split).2 rfl⟩, stores, course.spaced,
    fun positive => length_le_of_spaced positive course.spaced stores, ?_⟩
  · intro check member restart
    have notBefore : clock.last ≤ check := List.rel_of_pairwise_cons course.ordered member
    have passes : (clock.tick check restart).1 = true ↔ clock.isDue check = true := by
      cases due : clock.isDue check with
      | true => simp [tick_of_due due]
      | false => simp [tick_of_early due]
    refine ⟨passes.trans (isDue_iff notBefore), fun representable =>
      passes.trans (isDue_iff_deadline? notBefore representable), fun fails => ?_⟩
    have early := Bool.eq_false_iff.mpr fun due => Bool.eq_false_iff.mp fails (passes.mpr due)
    rw [tick_of_early early]
  · rw [deadline?, instant?_eq_some_iff, due, eq_comm]
  · exact (course.told split).1 deadline rfl
  · intro frequency positive
    rw [Frequency.interval, if_neg (Nat.ne_of_gt positive)]
    exact Nat.mul_div_le ..

/-- An interval that is longer than all the time there is. -/
example : ((Clock.mk 5 latest).run [9, 10] [.tick, .deadline]).1 = [.early 9, .panicked] := by
  decide

/-- Early and late ticks, a long wait and a restart. After the wait two successes are as close as
they can be. -/
theorem run_spaces_successes_after_wait :
    let readings := [3, 12, 13, 14, 50, 51, 52, 60, 61, 62, 63, 71, 72, 73]
    let calls : List Call :=
      [.tick, .tick, .deadline, .wait, .tick, .tick, .tick, .reset, .tick]
    let ran := (Clock.mk 0 10).run readings calls
    let successes := ran.1.filterMap Outcome.success?
    (0 :: readings).Pairwise (· ≤ ·) ∧
      ran.1 = [.early 3, .succeeded ⟨12, 13⟩, .told 23, .succeeded ⟨50, 51⟩, .early 52, .early 60,
        .succeeded ⟨61, 62⟩, .restarted 63, .early 71] ∧
      ran.2.1.deadline? = some 73 ∧
      (∀ restart, (ran.2.1.tick 72 restart).1 = false) ∧
      successes.Pairwise (fun earlier later => earlier.stored + 10 ≤ later.passed) ∧
      (successes.filter (Success.isWithin 51 10)).length = 2 ∧
      (successes.filter (Success.isWithin 51 10)).length ≤ 10 / 10 + 1 := by
  intro readings calls ran successes
  have ordered : (0 :: readings).Pairwise (· ≤ ·) := by decide
  obtain ⟨ticks, ⟨due, told, -⟩, -, spaced, within, -⟩ := run_spaces_successes 10 0 ordered calls
  have stored : ran.2.1.deadline = 73 := due
  refine ⟨ordered, by decide, (told 73).mpr ⟨rfl, by decide⟩, fun restart => ?_, spaced, by decide,
    within (by decide) 51 10⟩
  have early := (ticks 72 (by decide) restart).1
  rw [stored] at early
  exact Bool.eq_false_iff.mpr fun passes => absurd (early.mp passes) (by decide)

end Chip8.Clock
