import CouponBond.Unsigned

/-!
# Terms of a bond

What the bond promises: its face value and scale, its currency, and its maturity
date, which only ever moves forward.

## Main Definitions

* `Terms` — the terms
* `Terms.extend?` — move the maturity date to a later one
* `Terms.isMatured` — whether a time lies behind the maturity date
-/

namespace CouponBond

/-- The terms of a bond. -/
structure Terms where
  /-- Currency code of three letters. -/
  currency : String
  /-- Face value of one token, scaled by `nominalValueDecimals` places. -/
  nominalValue : UInt64
  nominalValueDecimals : Decimals
  /-- Decimal places of the token itself. -/
  tokenDecimals : Decimals
  startingDate : Timestamp
  /-- The maturity date in force. -/
  maturityDate : Timestamp
  /-- Whether partitions other than the default one may be used. -/
  isMultiPartition : Bool
deriving DecidableEq, Repr

namespace Terms

/-- The terms with a strictly later maturity date. -/
def extend? (t : Terms) (date : Timestamp) : Option Terms :=
  if t.maturityDate < date then some { t with maturityDate := date } else none

/-- Whether a time lies behind the maturity date. -/
def isMatured (t : Terms) (now : Timestamp) : Bool := t.maturityDate < now

end Terms

end CouponBond
