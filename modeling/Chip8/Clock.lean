import Chip8.Numeral

/-!
# Clock

Frequencies, and the clock by which a host paces timer ticks. Time is a number of nanoseconds read
from some clock of the host; every operation takes the readings it makes as arguments. After a tick
the clock restarts at the current reading, so a late tick is never made up for. An interval can be
longer than all the time there is; then no deadline can be told (`Clock.deadline?`).
-/

namespace Chip8

/-- A frequency, in events for each second. -/
structure Frequency where
  perSecond : Nat
  deriving DecidableEq, Repr

namespace Frequency

/-- Nanoseconds in a second. -/
def second : Nat := 1000000000

/-- Nanoseconds between two events, rounded down; zero for the frequency zero. -/
def interval (frequency : Frequency) : Nat :=
  if frequency.perSecond = 0 then 0 else second / frequency.perSecond

/-- The diagnostic form. -/
def diagnostic (frequency : Frequency) : String := s!"Hz({frequency.perSecond})"

end Frequency

/-- A clock: the reading stored last, and the interval between two ticks. -/
structure Clock where
  last : Nat
  interval : Nat
  deriving DecidableEq, Repr

namespace Clock

/-- Restarts the clock at a reading. -/
def reset (clock : Clock) (reading : Nat) : Clock := { clock with last := reading }

/-- The last point in time there is: its seconds are a signed word of 64 bits. -/
def latest : Nat := Numeral.span64 / 2 * Frequency.second - 1

/-- A point in time, unless it is behind the last one. -/
def instant? (time : Nat) : Option Nat := if time ≤ latest then some time else none

/-- The time at which the next tick is due, be there such a point in time or not. -/
def deadline (clock : Clock) : Nat := clock.last + clock.interval

/-- Tells the deadline. To add up an interval that leads behind the last point in time is a failure
of the caller, `none`. -/
def deadline? (clock : Clock) : Option Nat := instant? clock.deadline

/-- Whether an interval has passed at a reading; readings before the stored one count as it. -/
def isDue (clock : Clock) (reading : Nat) : Bool := clock.interval ≤ reading - clock.last

/-- Checks without waiting whether a tick is due at one reading; if so, the clock restarts at a
second reading. -/
def tick (clock : Clock) (check restart : Nat) : Bool × Clock :=
  if clock.isDue check then (true, clock.reset restart) else (false, clock)

/-- Waits until a tick is due: readings are taken one after the other until one passes the
interval, and the clock restarts at the reading after it. Without enough readings it still waits. -/
def wait? (clock : Clock) : List Nat → Option (Clock × List Nat)
  | [] => none
  | reading :: readings =>
    if clock.isDue reading then
      match readings with
      | [] => none
      | restart :: later => some (clock.reset restart, later)
    else clock.wait? readings

end Clock

end Chip8
