import CouponBond.Clock
import CouponBond.Rational
import CouponBond.Snapshot
import CouponBond.Terms

/-!
# Coupon entitlement

What a holder is owed, as an exact fraction.  For a coupon that is

    balance * nominal value * rate * period
    ---------------------------------------------------------
    10 ^ (token + nominal + rate decimals) * seconds in a year

with the balance of the record date.

## Main Definitions

* `Accrual` — a bond as it stands at a time
* `Accrual.couponFor`, `Accrual.couponAmountFor` — the balance that counts, and the amount
* `Accrual.principalFor` — the face value of what is owned now
* `Accrual.couponHolders`, `Accrual.couponHolderCount` — who is entitled

## Design Notes

Before the record date nothing counts and the amount is undefined.  From then on the
balances of the snapshot count, or those of the ledger while none is taken.
-/

namespace CouponBond

/-- Why an entitlement is not answered. -/
inductive AccrualError where
  | wrongIndex (id : UInt64)
  | arithmeticOverflow
deriving DecidableEq, Repr

/-- The text of a refusal. -/
def AccrualError.message : AccrualError → String
  | .wrongIndex id => ActionError.message ⟨id⟩
  | .arithmeticOverflow => "Arithmetic overflow computing entitlement"

/-- The balance that counts for a coupon. -/
structure CouponFor where
  tokenBalance : Amount
  recordDateReached : Bool
  coupon : Coupon
deriving DecidableEq, Repr

/-- The amount of a coupon. -/
structure CouponAmountFor where
  amount : Rational
  recordDateReached : Bool
deriving DecidableEq, Repr

/-- A bond as it stands at a time. -/
structure Accrual where
  actions : ActionStore
  snapshots : SnapshotBook
  ledger : Ledger
  terms : Terms
  now : Timestamp

namespace Accrual

/-- A value that fits, or the report that it does not. -/
def fitting {α : Type} : Option α → Except AccrualError α
  | some a => .ok a
  | none => .error .arithmeticOverflow

/-- A power of ten. -/
def scale (decimals : Nat) : Except AccrualError Word256 :=
  fitting (Word256.pow? 10 decimals)

/-- The coupon with an action number, and the snapshot taken for it. -/
def coupon (v : Accrual) (id : ActionId) : Except AccrualError (Coupon × Option Snapshot) :=
  match v.actions.get? id with
  | .error e => .error (.wrongIndex e.id)
  | .ok action =>
    match action.kind with
    | .coupon c => .ok (c, v.snapshots.get? action.snapshotId)
    | .dividend _ => .error (.wrongIndex id)

/-- The balance of a holder that counts for a coupon. -/
def couponFor (v : Accrual) (id : ActionId) (holder : Address) :
    Except AccrualError CouponFor := do
  let (coupon, snapshot) ← v.coupon id
  if v.now < coupon.recordDate then return ⟨0, false, coupon⟩
  match snapshot with
  | some s => return ⟨s.holdings.balanceOf holder, true, coupon⟩
  | none => return ⟨v.ledger.holdingOf holder, true, coupon⟩

/-- The amount of a coupon that a holder is owed. -/
def couponAmountFor (v : Accrual) (id : ActionId) (holder : Address) :
    Except AccrualError CouponAmountFor := do
  let share ← v.couponFor id holder
  if !share.recordDateReached then return ⟨.undefined, false⟩
  let numerator ← fitting (Word256.product?
    [.ofUInt64 share.tokenBalance, .ofUInt64 v.terms.nominalValue,
      .ofUInt64 share.coupon.rate, .ofUInt64 share.coupon.period])
  let power ← scale (v.terms.tokenDecimals.toNat + v.terms.nominalValueDecimals.toNat +
    share.coupon.rateDecimals.toNat)
  let denominator ← fitting (Word256.mul? power (.ofUInt64 Clock.year))
  return ⟨⟨numerator, denominator⟩, true⟩

/-- The face value of what a holder owns now. -/
def principalFor (v : Accrual) (holder : Address) : Except AccrualError Rational := do
  let numerator ← fitting (Word256.product?
    [.ofUInt64 (v.ledger.holdingOf holder), .ofUInt64 v.terms.nominalValue])
  let denominator ← scale (v.terms.tokenDecimals.toNat + v.terms.nominalValueDecimals.toNat)
  return ⟨numerator, denominator⟩

/-- A page of the holders entitled to a coupon. -/
def couponHolders (v : Accrual) (id : ActionId) (start stop : Nat) :
    Except AccrualError (List Address) := do
  let (_, snapshot) ← v.coupon id
  match snapshot with
  | some s => return s.holdings.slice start stop
  | none => return v.ledger.registry.sliceAll start stop

/-- Number of holders entitled to a coupon. -/
def couponHolderCount (v : Accrual) (id : ActionId) : Except AccrualError Nat := do
  let (_, snapshot) ← v.coupon id
  match snapshot with
  | some s => return s.holdings.holders.length
  | none => return v.ledger.registry.totalCount

end Accrual

end CouponBond
