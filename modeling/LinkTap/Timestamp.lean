/-
Points in time, as an offset from the Unix epoch.

The offset is a whole number of seconds, negative before the epoch, plus a fraction in nanoseconds
that is never negative. A kernel time with a fraction of a second or more carries into the seconds,
so a time has one representation.
-/
import LinkTap.Text.Numeral

set_option autoImplicit false

namespace LinkTap

/-- Nanoseconds in a second. -/
def nanosPerSecond : Nat := 1000000000

/-- The point `seconds + nanos / 10^9` after the epoch. -/
structure Timestamp where
  /-- Whole seconds, rounded down. -/
  seconds : Int
  /-- The rest, below one second. -/
  nanos : Nat
  deriving DecidableEq, Repr, Inhabited

namespace Timestamp

/-- The point `seconds + nanos / 10^9` after the epoch, for any number of nanoseconds. -/
def sinceEpoch (seconds nanos : Nat) : Timestamp :=
  ⟨seconds + nanos / nanosPerSecond, nanos % nanosPerSecond⟩

/-- The distance from the epoch in nanoseconds. -/
def toNanos (t : Timestamp) : Int := t.seconds * nanosPerSecond + t.nanos

/-- Nanoseconds from `start` to `now`; zero when `start` lies in the future. -/
def elapsed (start now : Timestamp) : Nat := (now.toNanos - start.toNanos).toNat

/-- Seconds and milliseconds after the epoch; there is no such text for an earlier time. -/
def text? (t : Timestamp) : Option String :=
  if t.seconds < 0 then none
  else some s!"{t.seconds}.{Numeral.decimalPadded 3 (t.nanos / 1000000)}"

end Timestamp

end LinkTap
