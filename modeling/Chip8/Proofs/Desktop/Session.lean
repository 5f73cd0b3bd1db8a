import Chip8.Desktop.Stage

/-!
# Actions on sessions

The session that an action leaves, also if it is stopped, is computed from the actions that it is
made of. Making calls adds them to those made before and leaves the stage alone.
-/

namespace Chip8.Desktop

/-- Whether an operation fails on the stage. -/
def Stage.refuses (stage : Stage) (operation : Operation) : Bool := stage.failing.contains operation

namespace Session

/-- Adds calls, one after the other. -/
def recordAll (session : Session) (calls : List Call) : Session := calls.foldl record session

theorem recordAll_append (session : Session) (first second : List Call) :
    session.recordAll (first ++ second) = (session.recordAll first).recordAll second :=
  List.foldl_append

@[simp] theorem stage_recordAll (session : Session) (calls : List Call) :
    (session.recordAll calls).stage = session.stage := by
  induction calls generalizing session with
  | nil => rfl
  | cons call calls ih => exact ih (session.record call)

@[simp] theorem created_recordAll (session : Session) (calls : List Call) :
    (session.recordAll calls).created = session.created := by
  induction calls generalizing session with
  | nil => rfl
  | cons call calls ih => exact ih (session.record call)

@[simp] theorem calls_recordAll (session : Session) (calls : List Call) :
    (session.recordAll calls).calls.toList = session.calls.toList ++ calls := by
  induction calls generalizing session with
  | nil => exact (List.append_nil _).symm
  | cons call calls ih =>
      have tail := ih (session.record call)
      rw [record, Array.toList_push, List.append_assoc] at tail
      exact tail

theorem logRecords_eq (session : Session) (records : Array Record) :
    session.logRecords records =
      session.recordAll (records.toList.map fun record => .log (.machine record)) := by
  rw [logRecords, recordAll, List.foldl_map, Array.foldl_toList]

end Session

namespace Staged

variable {cause α β : Type}

/-- The result of an action on a session, and the session it leaves, also if it is stopped. -/
def outcome (action : StagedWith cause α) (session : Session) : Except cause α × Session :=
  action.run session

@[simp] theorem outcome_pure (value : α) (session : Session) :
    outcome (pure value : StagedWith cause α) session = (.ok value, session) := rfl

@[simp] theorem outcome_throw (stop : cause) (session : Session) :
    outcome (throw stop : StagedWith cause α) session = (.error stop, session) := rfl

@[simp] theorem outcome_get (session : Session) :
    outcome (get : StagedWith cause Session) session = (.ok session, session) := rfl

@[simp] theorem outcome_modify (change : Session → Session) (session : Session) :
    outcome (modify change : StagedWith cause PUnit) session = (.ok ⟨⟩, change session) := rfl

@[simp] theorem outcome_call (made : Call) (session : Session) :
    outcome (call made : StagedWith cause Unit) session = (.ok ⟨⟩, session.record made) := rfl

@[simp] theorem outcome_log (notice : Notice) (session : Session) :
    outcome (log notice : StagedWith cause Unit) session =
      (.ok ⟨⟩, session.record (.log notice)) := rfl

@[simp] theorem outcome_command (given : Command) (session : Session) :
    outcome (command given : StagedWith cause Unit) session =
      (.ok ⟨⟩, session.record (.graphics given)) := rfl

@[simp] theorem outcome_fails (operation : Operation) (session : Session) :
    outcome (fails operation : StagedWith cause Bool) session =
      (.ok (session.stage.refuses operation), session) := rfl

/-- A sequence stops with its first part, and the session is the one that part leaves. -/
@[simp] theorem outcome_bind (action : StagedWith cause α) (next : α → StagedWith cause β)
    (session : Session) :
    outcome (action >>= next) session =
      match outcome action session with
      | (.ok value, after) => outcome (next value) after
      | (.error stop, after) => (.error stop, after) := by
  change (match outcome action session with
    | (result, after) => ExceptT.bindCont next result after) = _
  rcases outcome action session with ⟨_ | _, _⟩ <;> rfl

@[simp] theorem outcome_ite (condition : Prop) [Decidable condition]
    (first second : StagedWith cause α) (session : Session) :
    outcome (if condition then first else second) session =
      if condition then outcome first session else outcome second session :=
  apply_ite (outcome · session) condition first second

@[simp] theorem outcome_attempt (operation : Operation) (made : Call) (stopped : String → cause)
    (session : Session) :
    outcome (attempt operation made stopped) session =
      (if session.stage.refuses operation then .error (stopped operation.refusal) else .ok ⟨⟩,
        session.record made) := by
  simp only [attempt, outcome_bind, outcome_call, outcome_fails, outcome_ite, outcome_throw,
    outcome_pure]
  cases refused : session.stage.refuses operation with
  | true => exact if_pos refused
  | false => exact if_neg (Bool.eq_false_iff.mp refused)

/-- A failure that is raised stays the same failure. -/
@[simp] theorem outcome_raise (action : Staged α) (session : Session) :
    outcome (raise action) session =
      ((outcome action session).1.mapError .failed, (outcome action session).2) := rfl

theorem outcome_of_raise {action : Staged α} {before after : Session} {value : α}
    (done : outcome (raise action) before = (.ok value, after)) :
    outcome action before = (.ok value, after) := by
  rw [outcome_raise] at done
  rcases ran : outcome action before with ⟨failure | other, session⟩
  · rw [ran] at done
    cases done
  · rw [ran] at done
    cases done
    rfl

/-- A sequence that succeeds is made of parts that succeed. -/
theorem exists_of_outcome_bind {action : StagedWith cause α} {next : α → StagedWith cause β}
    {before after : Session} {value : β}
    (done : outcome (action >>= next) before = (.ok value, after)) :
    ∃ middle session, outcome action before = (.ok middle, session) ∧
      outcome (next middle) session = (.ok value, after) := by
  rw [outcome_bind] at done
  rcases first : outcome action before with ⟨stop | middle, session⟩
  · rw [first] at done
    cases done
  · rw [first] at done
    exact ⟨middle, session, rfl, done⟩

/-- An action whose value passes a test succeeds. -/
theorem exists_of_passes {action : StagedWith cause α} {session : Session} {test : α → Bool}
    (passes : (outcome action session).1.toOption.any test = true) :
    ∃ value after, outcome action session = (.ok value, after) ∧ test value = true := by
  rcases done : outcome action session with ⟨stop | value, after⟩
  · rw [done] at passes
    cases passes
  · rw [done] at passes
    exact ⟨value, after, rfl, passes⟩

@[simp] theorem outcome_tryCatch (action : StagedWith cause α)
    (handler : cause → StagedWith cause α) (session : Session) :
    outcome (tryCatch action handler) session =
      match outcome action session with
      | (.ok value, after) => (.ok value, after)
      | (.error stop, after) => outcome (handler stop) after := by
  change (match outcome action session with
    | (result, after) => (ExceptT.tryCatch (ExceptT.mk (pure result)) handler).run after) = _
  rcases outcome action session with ⟨_ | _, _⟩ <;> rfl

end Staged

end Chip8.Desktop
