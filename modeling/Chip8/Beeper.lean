import Chip8.Record

/-!
# Beepers

What plays the tone of the sound timer. A beeper is called once for each timer tick on which the
sound timer counts down, and keeps a state of its own.
-/

namespace Chip8

/-- How a beeper with states `σ` answers a beep: its next state and what it logs. -/
structure Beeper (σ : Type) where
  beep : σ → σ × Array Record

namespace Beeper

/-- Plays nothing. -/
def silent (σ : Type) : Beeper σ := ⟨fun state => (state, #[])⟩

/-- Counts the beeps. -/
def counting : Beeper Nat := ⟨fun count => (count + 1, #[])⟩

end Beeper

/-- The state of the terminal bell. -/
structure Bell where
  /-- Ticks on which a tone was asked for. -/
  beeps : Nat := 0
  /-- Bell characters that reached the terminal. -/
  rung : Nat := 0
  deriving DecidableEq, Repr, Inhabited

namespace Bell

/-- Rings the terminal bell, which fails if the terminal refuses the write; the tick counts either
way. -/
def ringing (refusal? : Option IoFault) : Beeper Bell where
  beep bell :=
    match refusal? with
    | none => ({ beeps := bell.beeps + 1, rung := bell.rung + 1 }, #[.beep])
    | some cause => ({ bell with beeps := bell.beeps + 1 }, #[.beep, .bellFailed cause])

end Bell

end Chip8
