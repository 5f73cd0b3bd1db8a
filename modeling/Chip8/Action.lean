import Chip8.Fault

/-!
# Actions

Computations that read and change a state, and may fail on the way. A failure ends the computation
but takes nothing back: what was changed before it stays changed.
-/

namespace Chip8

/-- A computation on a state that may fail. -/
abbrev Action (σ α : Type) := ExceptT Fault (StateM σ) α

namespace Action

variable {σ α β : Type}

/-- The result of an action on a state, and the state it leaves, also after a failure. -/
def outcome (action : Action σ α) (before : σ) : Except Fault α × σ :=
  Id.run (StateT.run (ExceptT.run action) before)

/-- The current state. -/
def state : Action σ σ := get

/-- Replaces the state. -/
def replace (next : σ) : Action σ Unit := set next

/-- Takes the next state from an operation. -/
def update (operation : σ → Except Fault σ) : Action σ Unit := do
  replace (← operation (← state))

@[simp] theorem outcome_pure (value : α) (before : σ) :
    outcome (pure value) before = (.ok value, before) := rfl

@[simp] theorem outcome_throw (fault : Fault) (before : σ) :
    outcome (throw fault : Action σ α) before = (.error fault, before) := rfl

@[simp] theorem outcome_state (before : σ) : outcome state before = (.ok before, before) := rfl

@[simp] theorem outcome_replace (next before : σ) :
    outcome (replace next) before = (.ok ⟨⟩, next) := rfl

@[simp] theorem outcome_modify (change : σ → σ) (before : σ) :
    outcome (modify change) before = (.ok ⟨⟩, change before) := rfl

@[simp] theorem outcome_lift (result : Except Fault α) (before : σ) :
    outcome (liftM result) before = (result, before) := rfl

/-- A sequence stops at the failure of its first part, with the state that part leaves. -/
@[simp] theorem outcome_bind (action : Action σ α) (next : α → Action σ β) (before : σ) :
    outcome (action >>= next) before =
      match outcome action before with
      | (.ok value, after) => outcome (next value) after
      | (.error fault, after) => (.error fault, after) := by
  change (match outcome action before with
    | (result, after) => ExceptT.bindCont next result after) = _
  rcases outcome action before with ⟨_ | _, _⟩ <;> rfl

/-- A failing operation leaves the state alone. -/
@[simp] theorem outcome_update (operation : σ → Except Fault σ) (before : σ) :
    outcome (update operation) before =
      match operation before with
      | .ok next => (.ok ⟨⟩, next)
      | .error fault => (.error fault, before) := by
  simp only [update, outcome_bind, outcome_state, outcome_lift]
  cases operation before <;> rfl

end Action

end Chip8
