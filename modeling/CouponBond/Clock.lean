import CouponBond.Unsigned

/-!
# The clock of a replay

Every date rule is judged against one reading that a replay moves by hand.

## Main Definitions

* `Clock.advance` — move forward by a number of seconds, modulo the 64-bit range
* `Clock.set` — jump to a time that is not earlier
* `Clock.week`, `Clock.year` — lengths of time in seconds
-/

namespace CouponBond

/-- A clock that moves only when told to. -/
structure Clock where
  /-- The current reading. -/
  now : Timestamp
deriving DecidableEq, Repr

/-- The refusal to move a clock back. -/
structure ClockError where
  /-- The reading that is kept. -/
  now : Timestamp
  /-- The earlier time that was asked for. -/
  requested : Timestamp
deriving DecidableEq, Repr

/-- The text of a refusal. -/
def ClockError.message (e : ClockError) : String :=
  s!"clock cannot move backwards ({e.now} -> {e.requested})"

namespace Clock

/-- Seconds in one week. -/
def week : UInt64 := 604800

/-- Seconds in a year of 365 days, the day-count basis of coupons. -/
def year : UInt64 := 31536000

/-- Move forward by a number of seconds; the reading wraps around at 2^64. -/
def advance (c : Clock) (seconds : UInt64) : Clock := ⟨c.now + seconds⟩

/-- Jump to a time that is not earlier than the reading. -/
def set (c : Clock) (time : Timestamp) : Except ClockError Clock :=
  if time < c.now then .error ⟨c.now, time⟩ else .ok ⟨time⟩

end Clock

end CouponBond
