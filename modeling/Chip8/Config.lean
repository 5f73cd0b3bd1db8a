import Chip8.Clock

/-!
# Configuration

The pace of the machine and the seed of its random numbers.
-/

namespace Chip8

/-- Parameters of a machine. -/
structure Config where
  /-- Instructions executed in each second of emulated time. -/
  instructionRate : Frequency := ⟨600⟩
  /-- Rate at which the delay and sound timers count down. -/
  timerRate : Frequency := ⟨60⟩
  /-- Seed of the random numbers; without one they come from outside. -/
  seed? : Option Nat := none
  deriving DecidableEq, Repr

namespace Config

instance : Inhabited Config := ⟨{}⟩

/-- Instructions executed for each timer tick, at least one. -/
def cyclesPerFrame (config : Config) : Nat :=
  let perTick :=
    if config.timerRate.perSecond = 0 then config.instructionRate.perSecond
    else config.instructionRate.perSecond / config.timerRate.perSecond
  max perTick 1

/-- The diagnostic form. -/
def diagnostic (config : Config) : String :=
  let seed :=
    match config.seed? with
    | none => "None"
    | some seed => s!"Some({seed})"
  "Chip8Conf \x7b instructions_per_second: " ++ config.instructionRate.diagnostic
    ++ ", timer_frequency: " ++ config.timerRate.diagnostic ++ ", rng_seed: " ++ seed ++ " \x7d"

end Config

end Chip8
