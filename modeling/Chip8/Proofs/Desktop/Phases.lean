import Chip8.Proofs.Desktop.Session
import Mathlib.Data.List.Nodup

/-!
# Phases of a launch

The windowed program starts in phases that run in a fixed order. Each makes calls of its own, and
none is made after the first phase that fails. That an action goes through phases in this way
(`Staged.Follows`) is put together from its parts.
-/

namespace Chip8.Desktop

/-- The phases of a launch. -/
inductive Phase where
  /-- The arguments are read as text. -/
  | arguments
  /-- The settings are read, from a file that is also checked, or are the default ones. -/
  | settings
  /-- The keyboard layout is read, or is the built-in one. -/
  | inputMap
  /-- The event loop is created. -/
  | eventLoop
  /-- The settings are checked, wherever they come from. -/
  | validation
  /-- The settings or the arguments name a program. -/
  | romNamed
  | romLoaded
  | window
  | renderer
  | events
  deriving DecidableEq

namespace Phase

/-- The phases in their order. -/
def all : List Phase :=
  [.arguments, .settings, .inputMap, .eventLoop, .validation, .romNamed, .romLoaded, .window,
    .renderer, .events]

def before (phase : Phase) : List Phase := all.takeWhile (· != phase)

theorem before_of_split {phase : Phase} {first later : List Phase}
    (split : all = first ++ phase :: later) : phase.before = first := by
  have distinct : all.Nodup := by decide
  rw [split, List.nodup_middle, List.nodup_cons, List.mem_append] at distinct
  have others : ∀ other ∈ first, (other != phase) = true := by
    intro other member
    refine bne_iff_ne.mpr fun same => ?_
    rw [same] at member
    exact distinct.1 (.inl member)
  rw [before, split, List.takeWhile_append_of_pos others,
    List.takeWhile_cons_of_neg (by simp only [bne_self_eq_false, Bool.false_eq_true,
      not_false_eq_true]), List.append_nil]

end Phase

/-- The phases that log a notice. -/
def Notice.phases : Notice → List Phase
  | .loadingSettings _ => [.settings]
  | .loadingInputMap _ => [.inputMap]
  | .loadingRom _ => [.romLoaded]
  | .machine (.loaded _) => [.romLoaded, .events]
  | .machine _ => [.events]
  | .considered _ | .picked _ | .finalizing => [.window]
  | .fallingBack _ | .settingVsync | .vsyncFailed _ => [.window]
  | .rendererCreated _ => [.renderer]
  | .keypad _ _ | .unbound _ | .exit | .played _ => [.events]
  | .starting | .finished | .failed _ => []

/-- The phases that make a call. -/
def Call.phases : Call → List Phase
  | .log notice => notice.phases
  | .createEventLoop => [.eventLoop]
  | .buildDisplay _ | .pickConfig _ | .finalizeWindow _ _ => [.window]
  | .createContext _ _ | .createSurface _ | .makeFirstCurrent | .setVsync => [.window]
  | .graphics _ | .releaseContext => [.renderer, .events]
  | .makeCurrent | .swapBuffers | .resizeSurface _ _ | .requestRedraw => [.events]

/-- What a result failed with. -/
def failureOf {cause α : Type} : Except cause α → Option cause
  | .error stop => some stop
  | .ok _ => none

theorem failureOf_mapError {cause other α : Type} (result : Except cause α)
    (change : cause → other) :
    failureOf (result.mapError change) = (failureOf result).map change := by
  cases result <;> rfl

/-- What an operation stops with, if the stage refuses it. -/
def Stage.refusal? {cause : Type} (stage : Stage) (operation : Operation)
    (stopped : String → cause) : Option cause :=
  if stage.refuses operation then some (stopped operation.refusal) else none

/-! ## Passages -/

/-- What is known of the phases of a launch: which of them fail, and what calls each of them makes
if it begins. -/
structure Course where
  failure? : Phase → Option Halt
  makes : Phase → List Call → Prop

/-- The first failure of phases that follow one another. -/
def Course.failureIn? (course : Course) (phases : List Phase) : Option Halt :=
  phases.findSome? course.failure?

/-- The calls that are made while one phase follows the other: those of each phase up to and
including the first one that fails. -/
inductive Passage (course : Course) : List Phase → List Call → Prop where
  | done : Passage course [] []
  | fails {phase : Phase} {later : List Phase} {calls : List Call} {failure : Halt}
      (failed : course.failure? phase = some failure) (made : course.makes phase calls) :
      Passage course (phase :: later) calls
  | passes {phase : Phase} {later : List Phase} {calls rest : List Call}
      (passed : course.failure? phase = none) (made : course.makes phase calls)
      (others : Passage course later rest) : Passage course (phase :: later) (calls ++ rest)

namespace Course

variable {course : Course} {phase : Phase} {first later : List Phase} {failure : Halt}

theorem failureIn?_cons (passed : course.failure? phase = none) :
    course.failureIn? (phase :: later) = course.failureIn? later := by
  rw [failureIn?, List.findSome?_cons, passed]
  rfl

theorem failureIn?_append_of_fails (failed : course.failureIn? first = some failure) :
    course.failureIn? (first ++ later) = some failure := by
  rw [failureIn?, List.findSome?_append, ← failureIn?, failed]
  rfl

theorem failureIn?_append_of_passes (passed : course.failureIn? first = none) :
    course.failureIn? (first ++ later) = course.failureIn? later := by
  rw [failureIn?, List.findSome?_append, ← failureIn?, passed]
  rfl

theorem failureIn?_eq_none_iff :
    course.failureIn? first = none ↔ ∀ phase ∈ first, course.failure? phase = none :=
  List.findSome?_eq_none_iff

end Course

namespace Passage

variable {course : Course} {phase : Phase} {phases later : List Phase} {calls rest : List Call}

theorem single (made : course.makes phase calls) : Passage course [phase] calls := by
  cases failed : course.failure? phase with
  | some failure => exact .fails failed made
  | none =>
      rw [← List.append_nil calls]
      exact .passes failed made .done

theorem makes_of_single (passage : Passage course [phase] calls) : course.makes phase calls := by
  cases passage with
  | fails _ made => exact made
  | passes _ made others =>
      cases others
      rwa [List.append_nil]

/-- A passage that fails is one through any phases that would follow. -/
theorem append_of_fails {failure : Halt} (failed : course.failureIn? phases = some failure)
    (passage : Passage course phases calls) : Passage course (phases ++ later) calls := by
  induction passage with
  | done => cases failed
  | fails first made => exact .fails first made
  | passes passed made _ ih =>
      rw [Course.failureIn?_cons passed] at failed
      exact .passes passed made (ih failed)

theorem append_of_passes (passed : course.failureIn? phases = none)
    (first : Passage course phases calls) (second : Passage course later rest) :
    Passage course (phases ++ later) (calls ++ rest) := by
  induction first with
  | done => exact second
  | fails failed made =>
      rw [Course.failureIn?, List.findSome?_cons, failed] at passed
      cases passed
  | passes free made _ ih =>
      rw [Course.failureIn?_cons free] at passed
      rw [List.append_assoc]
      exact .passes free made (ih passed)

/-- Phases that pass are left behind, with their calls first. -/
theorem split_of_passes (passed : course.failureIn? phases = none)
    (passage : Passage course (phases ++ later) calls) :
    ∃ first second, calls = first ++ second ∧ Passage course phases first ∧
      Passage course later second := by
  induction phases generalizing calls with
  | nil => exact ⟨[], calls, rfl, .done, passage⟩
  | cons phase phases ih =>
      cases passage with
      | fails failed made =>
          rw [Course.failureIn?, List.findSome?_cons, failed] at passed
          cases passed
      | passes free made others =>
          rw [Course.failureIn?_cons free] at passed
          obtain ⟨first, second, rfl, before, after⟩ := ih passed others
          exact ⟨_, second, (List.append_assoc ..).symm, .passes free made before, after⟩

/-- A phase before which none fails makes its calls. -/
theorem exists_of_passes (passed : course.failureIn? phases = none)
    (passage : Passage course (phases ++ phase :: later) calls) :
    ∃ first own last, calls = first ++ own ++ last ∧ course.makes phase own := by
  obtain ⟨first, second, rfl, -, others⟩ := passage.split_of_passes passed
  cases others with
  | fails _ made => exact ⟨first, second, [], (List.append_nil _).symm, made⟩
  | passes _ made _ => exact ⟨first, _, _, (List.append_assoc ..).symm, made⟩

/-- A call is made by a phase before which none fails. -/
theorem exists_of_mem {call : Call} (passage : Passage course phases calls) (mem : call ∈ calls) :
    ∃ first phase last own, phases = first ++ phase :: last ∧ course.makes phase own ∧
      call ∈ own ∧ course.failureIn? first = none := by
  induction passage with
  | done => cases mem
  | fails failed made => exact ⟨[], _, _, _, rfl, made, mem, rfl⟩
  | @passes phase others _ _ passed made _ ih =>
      rcases List.mem_append.mp mem with here | further
      · exact ⟨[], _, _, _, rfl, made, here, rfl⟩
      · obtain ⟨first, found, last, own, rfl, makes, member, free⟩ := ih further
        refine ⟨phase :: first, found, last, own, rfl, makes, member, ?_⟩
        rw [Course.failureIn?_cons passed]
        exact free

end Passage

namespace Staged

variable {cause α β : Type}

/-! ## Actions within a phase -/

/-- On sessions with a stage an action fails as stated, and all it does is to make calls of a
phase. -/
def Does (stage : Stage) (phase : Phase) (action : StagedWith cause α) (failure? : Option cause) :
    Prop :=
  ∀ session : Session, session.stage = stage → ∃ calls : List Call,
    (∀ call ∈ calls, phase ∈ call.phases) ∧
      (outcome action session).2 = session.recordAll calls ∧
      failureOf (outcome action session).1 = failure?

namespace Does

variable {stage : Stage} {phase : Phase} {action : StagedWith cause α}
  {next : α → StagedWith cause β} {first? second? : Option cause}

theorem pure (value : α) : Does stage phase (pure value : StagedWith cause α) none :=
  fun _ _ => ⟨[], List.forall_mem_nil _, rfl, rfl⟩

theorem throw (stop : cause) : Does stage phase (throw stop : StagedWith cause α) (some stop) :=
  fun _ _ => ⟨[], List.forall_mem_nil _, rfl, rfl⟩

theorem call {made : Call} (own : phase ∈ made.phases) :
    Does stage phase (call made : StagedWith cause Unit) none :=
  fun _ _ => ⟨[made], List.forall_mem_singleton.mpr own, rfl, rfl⟩

theorem attempt {made : Call} (own : phase ∈ made.phases) {operation : Operation}
    {stopped : String → cause} :
    Does stage phase (attempt operation made stopped) (stage.refusal? operation stopped) := by
  intro session same
  refine ⟨[made], List.forall_mem_singleton.mpr own, ?_, ?_⟩
  · rw [outcome_attempt]
    rfl
  · rw [outcome_attempt, same, Stage.refusal?]
    cases stage.refuses operation <;> rfl

theorem bind (first : Does stage phase action first?)
    (second : ∀ value, Does stage phase (next value) second?) :
    Does stage phase (action >>= next) (first?.or second?) := by
  intro session same
  obtain ⟨calls, own, recorded, failed⟩ := first session same
  rw [outcome_bind]
  rcases ran : outcome action session with ⟨failure | value, after⟩
  · rw [ran] at recorded failed
    subst failed
    exact ⟨calls, own, recorded, rfl⟩
  · rw [ran] at recorded failed
    subst failed recorded
    obtain ⟨more, others, later, result⟩ :=
      second value (session.recordAll calls) ((Session.stage_recordAll ..).trans same)
    refine ⟨calls ++ more, ?_, ?_, result⟩
    · intro made member
      exact (List.mem_append.mp member).elim (own made) (others made)
    · rw [Session.recordAll_append]
      exact later

/-- What follows an action that cannot fail. -/
theorem andThen (first : Does stage phase action none)
    (second : ∀ value, Does stage phase (next value) second?) :
    Does stage phase (action >>= next) second? := bind first second

theorem get_bind {next : Session → StagedWith cause β} {failure? : Option cause}
    (reads : ∀ session : Session, session.stage = stage →
      Does stage phase (next session) failure?) :
    Does stage phase (get >>= next) failure? := by
  intro session same
  rw [outcome_bind]
  exact reads session same session same

theorem fails_bind {operation : Operation} {next : Bool → StagedWith cause β}
    {failure? : Option cause}
    (asks : Does stage phase (next (stage.refuses operation)) failure?) :
    Does stage phase (fails operation >>= next) failure? := by
  intro session same
  rw [outcome_bind, outcome_fails, same]
  exact asks session same

theorem raise {action : Staged α} {failure? : Option Failure}
    (does : Does stage phase action failure?) :
    Does stage phase (raise action) (failure?.map .failed) := by
  intro session same
  obtain ⟨calls, own, recorded, failed⟩ := does session same
  refine ⟨calls, own, recorded, ?_⟩
  rw [outcome_raise, failureOf_mapError, failed]

end Does

/-! ## Actions that go through phases -/

/-- An action goes through phases: its calls are a passage through them, it fails as the first of
them that does, and no phase but that of the renderer creates graphics objects. -/
structure Follows (course : Course) (phases : List Phase) (action : Starting α)
    (session : Session) : Prop where
  stage : (outcome action session).2.stage = session.stage
  created : .renderer ∉ phases → (outcome action session).2.created = session.created
  calls : ∃ calls, (outcome action session).2.calls.toList = session.calls.toList ++ calls ∧
    Passage course phases calls
  result : failureOf (outcome action session).1 = course.failureIn? phases

namespace Follows

variable {course : Course} {phases later : List Phase} {phase : Phase} {action : Starting α}
  {session : Session}

theorem of_outcome {calls : List Call} {result : Except Halt α} {after : Session}
    (done : outcome action session = (result, after)) (stage : after.stage = session.stage)
    (created : phase ≠ .renderer → after.created = session.created)
    (recorded : after.calls.toList = session.calls.toList ++ calls)
    (made : course.makes phase calls) (failed : failureOf result = course.failure? phase) :
    Follows course [phase] action session := by
  refine ⟨?_, fun absent => ?_, ⟨calls, ?_, .single made⟩, ?_⟩
  · rw [done, stage]
  · rw [done, created fun same => absent (List.mem_singleton.mpr same.symm)]
  · rw [done, recorded]
  · rw [done, failed, Course.failureIn?, List.findSome?_singleton]

/-- An action that only makes the calls of one phase. -/
theorem of_recorded {calls : List Call} {result : Except Halt α}
    (done : outcome action session = (result, session.recordAll calls))
    (made : course.makes phase calls) (failed : failureOf result = course.failure? phase) :
    Follows course [phase] action session :=
  .of_outcome done (Session.stage_recordAll ..) (fun _ => Session.created_recordAll ..)
    (Session.calls_recordAll ..) made failed

theorem of_silent {result : Except Halt α} (done : outcome action session = (result, session))
    (made : course.makes phase []) (failed : failureOf result = course.failure? phase) :
    Follows course [phase] action session := by
  have recorded : outcome action session = (result, session.recordAll []) := done
  exact .of_recorded recorded made failed

theorem of_does (does : Does session.stage phase action (course.failure? phase))
    (makes : ∀ calls, (∀ call ∈ calls, phase ∈ call.phases) → course.makes phase calls) :
    Follows course [phase] action session := by
  obtain ⟨calls, own, recorded, failed⟩ := does session rfl
  exact .of_recorded (Prod.ext rfl recorded) (makes calls own) failed

theorem keeps {value : α} {after : Session} (follows : Follows course phases action session)
    (done : outcome action session = (.ok value, after)) :
    after.stage = session.stage ∧ (.renderer ∉ phases → after.created = session.created) := by
  obtain ⟨stage, created, -, -⟩ := follows
  rw [done] at stage created
  exact ⟨stage, created⟩

theorem bind {next : α → Starting β} (first : Follows course phases action session)
    (second : ∀ value after, outcome action session = (.ok value, after) →
      after.stage = session.stage → (.renderer ∉ phases → after.created = session.created) →
      Follows course later (next value) after) :
    Follows course (phases ++ later) (action >>= next) session := by
  obtain ⟨stage, created, ⟨calls, made, passage⟩, result⟩ := first
  rcases ran : outcome action session with ⟨failure | value, after⟩
  · have bound : outcome (action >>= next) session = (.error failure, after) := by
      rw [outcome_bind, ran]
    rw [ran] at made stage created result
    refine ⟨?_, fun absent => ?_, ⟨calls, ?_, passage.append_of_fails result.symm⟩, ?_⟩
    · rw [bound, ← stage]
    · rw [bound, ← created fun member => absent (List.mem_append_left _ member)]
    · rw [bound, ← made]
    · rw [bound, Course.failureIn?_append_of_fails result.symm]
      rfl
  · have bound : outcome (action >>= next) session = outcome (next value) after := by
      rw [outcome_bind, ran]
    rw [ran] at made stage created result
    obtain ⟨laterStage, laterCreated, ⟨more, added, others⟩, last⟩ :=
      second value after ran stage created
    refine ⟨?_, fun absent => ?_, ⟨calls ++ more, ?_, passage.append_of_passes result.symm others⟩,
      ?_⟩
    · rw [bound, laterStage, ← stage]
    · rw [bound, laterCreated fun member => absent (List.mem_append_right _ member),
        ← created fun member => absent (List.mem_append_left _ member)]
    · rw [bound, added, made, List.append_assoc]
    · rw [bound, last, Course.failureIn?_append_of_passes result.symm]

/-- What follows an action may use its value and look at the session. -/
theorem bind_silent {next : α → Starting β} {result : α → Session → β}
    (silent : ∀ value after, outcome (next value) after = (.ok (result value after), after))
    (follows : Follows course phases action session) :
    Follows course phases (action >>= next) session := by
  rw [← List.append_nil phases]
  apply follows.bind
  intro value after _ _ _
  refine ⟨?_, fun _ => ?_, ⟨[], ?_, .done⟩, ?_⟩
  · rw [silent]
  · rw [silent]
  · rw [silent, List.append_nil]
  · rw [silent]
    rfl

/-- After a phase that fails no other one begins. -/
theorem append_of_fails {failure : Halt} (failed : course.failureIn? phases = some failure)
    (follows : Follows course phases action session) :
    Follows course (phases ++ later) action session where
  stage := follows.stage
  created := fun absent => follows.created fun member => absent (List.mem_append_left _ member)
  calls := by
    obtain ⟨calls, made, passage⟩ := follows.calls
    exact ⟨calls, made, passage.append_of_fails failed⟩
  result := by
    rw [follows.result, failed, Course.failureIn?_append_of_fails failed]

/-- A phase that only checks something, and passes, leaves no trace. -/
theorem cons_of_passes (passed : course.failure? phase = none) (silent : course.makes phase [])
    (follows : Follows course later action session) :
    Follows course (phase :: later) action session where
  stage := follows.stage
  created := fun absent => follows.created fun member => absent (List.mem_cons_of_mem _ member)
  calls := by
    obtain ⟨calls, made, passage⟩ := follows.calls
    exact ⟨[] ++ calls, made, .passes passed silent passage⟩
  result := by
    rw [follows.result, Course.failureIn?_cons passed]

end Follows

end Staged

end Chip8.Desktop
