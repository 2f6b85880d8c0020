import CouponBond.Unsigned

/-!
# Coupons and dividends

The two payments a bond schedules, and the rules on the dates of a coupon.

## Main Definitions

* `Coupon`, `Dividend` — the scheduled payments
* `Coupon.period` — length of the accrual period in seconds
* `Coupon.checkDates` — whether the dates are in order and not in the past

## Design Notes

The order of the dates is judged before their freshness, so a coupon that breaks
both rules is reported as out of order.
-/

namespace CouponBond

/-- Whether the rate of a coupon is final. -/
inductive RateStatus where
  /-- The rate is fixed on the fixing date. -/
  | pending
  | fixed
deriving DecidableEq, Repr

/-- A scheduled interest payment. -/
structure Coupon where
  /-- Date at which the entitled balances are fixed. -/
  recordDate : Timestamp
  /-- Date of the payment. -/
  executionDate : Timestamp
  /-- Start of the accrual period. -/
  startDate : Timestamp
  /-- End of the accrual period. -/
  endDate : Timestamp
  /-- Date at which the rate is fixed. -/
  fixingDate : Timestamp
  /-- Interest rate, scaled by `rateDecimals` places. -/
  rate : UInt64
  rateDecimals : Decimals
  rateStatus : RateStatus
deriving DecidableEq, Repr

/-- A cash distribution per unit. -/
structure Dividend where
  /-- Date at which the entitled balances are fixed. -/
  recordDate : Timestamp
  /-- Date of the payment. -/
  executionDate : Timestamp
  /-- Cash per unit, scaled by `amountDecimals` places. -/
  amount : Amount
  amountDecimals : Decimals
deriving DecidableEq, Repr

/-- Why the dates of a coupon are refused. -/
inductive DateError where
  /-- The dates are not in chronological order. -/
  | outOfOrder
  /-- A date lies in the past. -/
  | inThePast
deriving DecidableEq, Repr

/-- The text of a date error. -/
def DateError.message : DateError → String
  | .outOfOrder => "Wrong dates: coupon dates are not in chronological order"
  | .inThePast => "Wrong timestamp: coupon date lies in the past"

namespace Coupon

/-- Length of the accrual period in seconds; zero if it is inverted. -/
def period (c : Coupon) : UInt64 := Unsigned.subFloored c.endDate c.startDate

/-- The dates are in order: the record date before the payment, the rate fixed by then, and
a period that does not end before it starts. -/
def Ordered (c : Coupon) : Prop :=
  c.recordDate < c.executionDate ∧ c.fixingDate ≤ c.executionDate ∧ c.startDate ≤ c.endDate

/-- Neither the record date nor the fixing date has passed. -/
def Fresh (c : Coupon) (now : Timestamp) : Prop :=
  now ≤ c.fixingDate ∧ now ≤ c.recordDate

instance (c : Coupon) : Decidable c.Ordered := by
  unfold Ordered
  infer_instance

instance (c : Coupon) (now : Timestamp) : Decidable (c.Fresh now) := by
  unfold Fresh
  infer_instance

/-- Whether the dates of a coupon can be accepted at a time. -/
def checkDates (c : Coupon) (now : Timestamp) : Except DateError Unit :=
  if ¬ c.Ordered then .error .outOfOrder
  else if ¬ c.Fresh now then .error .inThePast
  else .ok ()

end Coupon

end CouponBond
