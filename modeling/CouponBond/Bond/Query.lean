import CouponBond.Bond.Basic

/-!
# Queries

Every question that a bond answers.  Answering changes nothing.

## Main Definitions

* `Query`, `Answer` — the questions and their answers
* `Bond.query` — answer a question at a time
* `Bond.describe` — a bond in one line
-/

namespace CouponBond

/-- A question asked of a bond; coupons are named by their number among the coupons. -/
inductive Query where
  | coupon (couponId : UInt64)
  | couponFor (couponId : UInt64) (holder : Address)
  | couponAmountFor (couponId : UInt64) (holder : Address)
  | couponHolders (couponId start stop : UInt64)
  | totalCouponHolders (couponId : UInt64)
  | couponCount
  | principalFor (holder : Address)
  | terms
  | balanceOf (holder : Address) (partition : Partition)
  | totalBalanceOf (holder : Address)
  | totalSupply (partition : Partition)
  | snapshot (snapshotId : SnapshotId)
deriving DecidableEq, Repr

/-- A coupon as it is kept. -/
structure RegisteredCoupon where
  /-- Its number among the coupons. -/
  couponId : UInt64
  /-- Its number among all actions. -/
  actionId : ActionId
  coupon : Coupon
  /-- The snapshot taken at the record date, 0 before it is taken. -/
  snapshotId : SnapshotId
deriving DecidableEq, Repr

/-- The answer to a question. -/
inductive Answer where
  | coupon (coupon : RegisteredCoupon)
  | couponFor (share : CouponFor)
  | couponAmountFor (amount : CouponAmountFor)
  | holders (holders : List Address)
  | count (count : Nat)
  | principal (amount : Rational)
  | terms (terms : Terms)
  | balance (balance : Balance)
  | amount (amount : Amount)
  | snapshot (snapshot : Option Snapshot)
deriving DecidableEq

namespace Bond

/-- The bond as it stands at a time. -/
def accrual (b : Bond) (now : Timestamp) : Accrual :=
  ⟨b.actions, b.snapshots, b.ledger, b.terms, now⟩

/-- Answer a question about a coupon through its action number. -/
def aboutCoupon {α : Type} (b : Bond) (couponId : UInt64)
    (answer : ActionId → Except AccrualError α) : Except BondError α :=
  match b.actions.idOfIndex? .coupon couponId with
  | .error e => .error (.action e)
  | .ok actionId =>
    match answer actionId with
    | .error e => .error (.ofAccrual e)
    | .ok a => .ok a

/-- The coupon with a number, as it is kept. -/
def couponOf (b : Bond) (couponId : UInt64) : Except BondError RegisteredCoupon :=
  match b.actions.idOfIndex? .coupon couponId with
  | .error e => .error (.action e)
  | .ok actionId =>
    match b.actions.get? actionId with
    | .error e => .error (.action e)
    | .ok action =>
      match action.kind.coupon? with
      | some coupon => .ok ⟨couponId, actionId, coupon, action.snapshotId⟩
      | none => .error (.action ⟨couponId⟩)

/-- The balance of a holder that counts for a coupon. -/
def couponFor (b : Bond) (now : Timestamp) (couponId : UInt64) (holder : Address) :
    Except BondError CouponFor :=
  b.aboutCoupon couponId fun id => (b.accrual now).couponFor id holder

/-- The amount of a coupon that a holder is owed. -/
def couponAmountFor (b : Bond) (now : Timestamp) (couponId : UInt64) (holder : Address) :
    Except BondError CouponAmountFor :=
  b.aboutCoupon couponId fun id => (b.accrual now).couponAmountFor id holder

/-- A page of the holders entitled to a coupon. -/
def couponHolders (b : Bond) (now : Timestamp) (couponId : UInt64) (start stop : Nat) :
    Except BondError (List Address) :=
  b.aboutCoupon couponId fun id => (b.accrual now).couponHolders id start stop

/-- Number of holders entitled to a coupon. -/
def couponHolderCount (b : Bond) (now : Timestamp) (couponId : UInt64) :
    Except BondError Nat :=
  b.aboutCoupon couponId fun id => (b.accrual now).couponHolderCount id

/-- The face value of what a holder owns now. -/
def principalFor (b : Bond) (now : Timestamp) (holder : Address) : Except BondError Rational :=
  match (b.accrual now).principalFor holder with
  | .ok r => .ok r
  | .error e => .error (.ofAccrual e)

/-- Answer a question at a time. -/
def query (b : Bond) (now : Timestamp) : Query → Except BondError Answer
  | .coupon couponId => return .coupon (← b.couponOf couponId)
  | .couponFor couponId holder => return .couponFor (← b.couponFor now couponId holder)
  | .couponAmountFor couponId holder =>
    return .couponAmountFor (← b.couponAmountFor now couponId holder)
  | .couponHolders couponId start stop =>
    return .holders (← b.couponHolders now couponId start.toNat stop.toNat)
  | .totalCouponHolders couponId => return .count (← b.couponHolderCount now couponId)
  | .couponCount => return .count (b.actions.countOf .coupon)
  | .principalFor holder => return .principal (← b.principalFor now holder)
  | .terms => return .terms b.terms
  | .balanceOf holder partition => return .balance (b.ledger.balanceOf holder partition)
  | .totalBalanceOf holder => return .amount (b.ledger.holdingOf holder)
  | .totalSupply partition => return .amount (b.ledger.totalSupply partition)
  | .snapshot snapshotId => return .snapshot (b.snapshots.get? snapshotId)

/-! ### Description -/

/-- The terms in one line. -/
def describeTerms (t : Terms) : String :=
  "BondDetails \x7b currency: " ++ Quoted.string t.currency ++
    s!", nominal_value: {t.nominalValue}" ++
    s!", nominal_value_decimals: {t.nominalValueDecimals}" ++
    s!", token_decimals: {t.tokenDecimals}, starting_date: {t.startingDate}" ++
    s!", current_maturity_date: {t.maturityDate}" ++
    s!", is_multi_partition: {t.isMultiPartition} \x7d"

/-- The bond in one line, behind a chain of guards of a length. -/
def describe (b : Bond) (guards : Nat) : String :=
  let actions := b.actions.count
  let snapshots := b.snapshots.count
  "Bond \x7b bond_id: " ++ b.config.bondId.text ++ ", details: " ++ describeTerms b.terms ++
    s!", actions: {actions}, snapshots: {snapshots}, guards: " ++
    GuardChain.describe guards ++ " \x7d"

end Bond

end CouponBond
