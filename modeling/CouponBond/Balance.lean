import CouponBond.Unsigned

/-!
# Balances

The units of one holder in one partition, split by what may be done with them.

## Main Definitions

* `Balance` — the five buckets
* `Balance.total`, `Balance.available` — units owned, and units that can be spent
* `Balance.credit?`, `Balance.debit?`, `Balance.move?` — exact changes of buckets

## Design Notes

`cleared` is no bucket of its own units: it says how many of the `free` units are
reserved by pending clearing operations, so it never counts towards the total.
-/

namespace CouponBond

/-- A part of a balance. -/
inductive Bucket where
  /-- Unencumbered units, the cleared ones among them. -/
  | free
  /-- Units locked until a date. -/
  | locked
  /-- Units held in escrow. -/
  | held
  /-- Units frozen by an operator. -/
  | frozen
  /-- Free units reserved by clearing operations. -/
  | cleared
deriving DecidableEq, Repr

/-- The word for a bucket. -/
def Bucket.text : Bucket → String
  | .free => "free"
  | .locked => "locked"
  | .held => "held"
  | .frozen => "frozen"
  | .cleared => "cleared"

/-- The buckets of one holder in one partition. -/
structure Balance where
  free : Amount
  locked : Amount
  held : Amount
  frozen : Amount
  cleared : Amount
deriving DecidableEq, Repr

namespace Balance

/-- The balance of someone who owns nothing. -/
def zero : Balance := ⟨0, 0, 0, 0, 0⟩

instance : Inhabited Balance := ⟨zero⟩

/-- The units in a bucket. -/
def get (b : Balance) : Bucket → Amount
  | .free => b.free
  | .locked => b.locked
  | .held => b.held
  | .frozen => b.frozen
  | .cleared => b.cleared

/-- The balance with another content of a bucket. -/
def set (b : Balance) (bucket : Bucket) (units : Amount) : Balance :=
  match bucket with
  | .free => { b with free := units }
  | .locked => { b with locked := units }
  | .held => { b with held := units }
  | .frozen => { b with frozen := units }
  | .cleared => { b with cleared := units }

/-- Units that count towards entitlement, as a natural number. -/
def sum (b : Balance) : Nat :=
  b.free.toNat + b.locked.toNat + b.held.toNat + b.frozen.toNat

/-- Units that count towards entitlement, cut off at the largest amount. -/
def total (b : Balance) : Amount :=
  Unsigned.addCapped (Unsigned.addCapped (Unsigned.addCapped b.free b.locked) b.held) b.frozen

/-- Free units that no clearing operation has reserved. -/
def available (b : Balance) : Amount := Unsigned.subFloored b.free b.cleared

/-- Whether no unit counts towards entitlement. -/
def isEmpty (b : Balance) : Bool := b.total == 0

/-- Put units into a bucket. -/
def credit? (b : Balance) (bucket : Bucket) (units : Amount) : Option Balance :=
  (Unsigned.add? (b.get bucket) units).map (b.set bucket)

/-- Take units out of a bucket. -/
def debit? (b : Balance) (bucket : Bucket) (units : Amount) : Option Balance :=
  (Unsigned.sub? (b.get bucket) units).map (b.set bucket)

/-- Move units from one bucket to another. -/
def move? (b : Balance) (source target : Bucket) (units : Amount) : Option Balance :=
  (b.debit? source units).bind fun b => b.credit? target units

end Balance

end CouponBond
