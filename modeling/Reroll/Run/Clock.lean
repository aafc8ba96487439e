import Reroll.Run.Device

/-!
# A counted clock

Time can be counted instead of measured: a clock of nanoseconds that moves only when a run sleeps,
and never by less than one of them. Lengths of time are reckoned in seconds as doubles.
-/

namespace Reroll

/-- A clock that has counted so many nanoseconds. -/
structure Clock where
  nanos : Int := 0
  deriving DecidableEq, Repr

namespace Clock

/-- Nanoseconds in a second. -/
def perSecond : Float := 1000000000.0

/-- The seconds that the clock shows. -/
def shown (c : Clock) : Float := (Decimal.floatOfInt? c.nanos).getD 0.0 / perSecond

/-- The whole nanoseconds that cover a length of time; one that is no number of seconds has none. -/
def nanosOf (seconds : Float) : Int :=
  match Decimal.intOfFloat Rat.ceil (seconds * perSecond) with
  | .ok n => n
  | .error _ => 0

/-- The clock after a sleep. -/
def after (c : Clock) (seconds : Float) : Clock := ⟨c.nanos + max 1 (nanosOf seconds)⟩

/-- A number of milliseconds in seconds. -/
def secondsOf (millis : Number) : Except ConversionError Float :=
  (millis.toFloat).map fun x => x / 1000.0

/-- The whole milliseconds in a length of time. -/
def millisOf (seconds : Float) : Int :=
  match Decimal.intOfFloat Decimal.truncate (seconds * 1000.0) with
  | .ok n => n
  | .error _ => 0

/-- More looks at the clock than any wait takes when each sleep lasts a nanosecond at least: the
nanoseconds of the total, and as many again for the start, whose size limits how fine the clock
shows. A total without end has no such bound and gets a large one. -/
def roundsOf (total started : Float) : Nat :=
  match Decimal.intOfFloat Rat.ceil (total * perSecond) with
  | .ok n => 2 * n.toNat + 2 * (nanosOf started).toNat + 16
  | .error _ => Nat.pow 2 64

/-- Seconds as doubles. -/
def reckoning : Reckoning Float where
  ofMillis := secondsOf
  minus := fun a b => a - b
  below := fun a b => decide (a < b)
  atMost := fun a b => decide (a ≤ b)
  millis := millisOf
  rounds := roundsOf

end Clock

end Reroll
