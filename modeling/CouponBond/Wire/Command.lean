import CouponBond.Bond.Command
import CouponBond.Bond.Query
import CouponBond.Wire.Ledger

/-!
# Wire forms of commands, queries and their answers

## Main Definitions

* Instances of `Wire` for commands, outcomes and queries
* `Answer.toJson` — the written form of the answer to a query

## Design Notes

The partition of a command or a query may be absent and is then the default one.
-/

namespace CouponBond

/-! ### Commands -/

namespace Command

/-- The members of a command, in their order. -/
def fields : Command → List (String × Json)
  | .setCoupon coupon => [("coupon", encode coupon)]
  | .updateMaturityDate date => [("maturity_date", encode date)]
  | .issue holder partition amount =>
    [("to", encode holder), ("partition", encode partition), ("amount", encode amount)]
  | .transfer source destination partition amount =>
    [("from", encode source), ("to", encode destination), ("partition", encode partition),
      ("amount", encode amount)]
  | .redeem holder partition amount =>
    [("from", encode holder), ("partition", encode partition), ("amount", encode amount)]
  | .lock holder partition amount expiration =>
    [("holder", encode holder), ("partition", encode partition), ("amount", encode amount),
      ("expiration", encode expiration)]
  | .releaseLock id => [("lock_id", encode id)]
  | .createHold holder partition amount escrow destination expiration =>
    [("holder", encode holder), ("partition", encode partition), ("amount", encode amount),
      ("escrow", encode escrow), ("to", encode destination), ("expiration", encode expiration)]
  | .executeHold id destination amount =>
    [("hold_id", encode id), ("to", encode destination), ("amount", encode amount)]
  | .releaseHold id amount => [("hold_id", encode id), ("amount", encode amount)]
  | .freeze holder partition amount =>
    [("holder", encode holder), ("partition", encode partition), ("amount", encode amount)]
  | .unfreeze holder partition amount =>
    [("holder", encode holder), ("partition", encode partition), ("amount", encode amount)]
  | .createClearing source destination partition amount expiration =>
    [("from", encode source), ("to", encode destination), ("partition", encode partition),
      ("amount", encode amount), ("expiration", encode expiration)]
  | .approveClearing id => [("clearing_id", encode id)]
  | .cancelClearing id => [("clearing_id", encode id)]
  | .redeemAtMaturity holder partition amount =>
    [("holder", encode holder), ("partition", encode partition), ("amount", encode amount)]
  | .redeemAllAtMaturity holder => [("holder", encode holder)]

/-- The kinds of commands in their order, with the names of their members. -/
def layout : Layout :=
  [("set_coupon", ["coupon"]),
    ("update_maturity_date", ["maturity_date"]),
    ("issue", ["to", "partition", "amount"]),
    ("transfer", ["from", "to", "partition", "amount"]),
    ("redeem", ["from", "partition", "amount"]),
    ("lock", ["holder", "partition", "amount", "expiration"]),
    ("release_lock", ["lock_id"]),
    ("create_hold", ["holder", "partition", "amount", "escrow", "to", "expiration"]),
    ("execute_hold", ["hold_id", "to", "amount"]),
    ("release_hold", ["hold_id", "amount"]),
    ("freeze", ["holder", "partition", "amount"]),
    ("unfreeze", ["holder", "partition", "amount"]),
    ("create_clearing", ["from", "to", "partition", "amount", "expiration"]),
    ("approve_clearing", ["clearing_id"]),
    ("cancel_clearing", ["clearing_id"]),
    ("redeem_at_maturity_by_partition", ["holder", "partition", "amount"]),
    ("full_redeem_at_maturity", ["holder"])]

/-- The command of a kind with the given members. -/
def ofRecord? (kind : String) (r : Record) : Option Command :=
  match kind with
  | "set_coupon" => return .setCoupon (← r.required "coupon")
  | "update_maturity_date" => return .updateMaturityDate (← r.required "maturity_date")
  | "issue" =>
    return .issue (← r.required "to") (← r.withDefault "partition" .default)
      (← r.required "amount")
  | "transfer" =>
    return .transfer (← r.required "from") (← r.required "to")
      (← r.withDefault "partition" .default) (← r.required "amount")
  | "redeem" =>
    return .redeem (← r.required "from") (← r.withDefault "partition" .default)
      (← r.required "amount")
  | "lock" =>
    return .lock (← r.required "holder") (← r.withDefault "partition" .default)
      (← r.required "amount") (← r.required "expiration")
  | "release_lock" => return .releaseLock (← r.required "lock_id")
  | "create_hold" =>
    return .createHold (← r.required "holder") (← r.withDefault "partition" .default)
      (← r.required "amount") (← r.required "escrow") (← r.optional "to")
      (← r.required "expiration")
  | "execute_hold" =>
    return .executeHold (← r.required "hold_id") (← r.required "to") (← r.required "amount")
  | "release_hold" => return .releaseHold (← r.required "hold_id") (← r.required "amount")
  | "freeze" =>
    return .freeze (← r.required "holder") (← r.withDefault "partition" .default)
      (← r.required "amount")
  | "unfreeze" =>
    return .unfreeze (← r.required "holder") (← r.withDefault "partition" .default)
      (← r.required "amount")
  | "create_clearing" =>
    return .createClearing (← r.required "from") (← r.required "to")
      (← r.withDefault "partition" .default) (← r.required "amount") (← r.required "expiration")
  | "approve_clearing" => return .approveClearing (← r.required "clearing_id")
  | "cancel_clearing" => return .cancelClearing (← r.required "clearing_id")
  | "redeem_at_maturity_by_partition" =>
    return .redeemAtMaturity (← r.required "holder") (← r.withDefault "partition" .default)
      (← r.required "amount")
  | "full_redeem_at_maturity" => return .redeemAllAtMaturity (← r.required "holder")
  | _ => none

end Command

instance : Wire Command where
  encode c := .obj (("command", .str c.text) :: c.fields)
  read? site t := do
    let (kind, r) ← t.variant? site "command" Command.layout
    Command.ofRecord? kind r

/-! ### Outcomes -/

/-- The kinds of outcomes in their order, with the names of their members. -/
def Outcome.layout : Layout :=
  [("applied", []),
    ("coupon_set", ["coupon_id"]),
    ("maturity_date_updated", ["previous"]),
    ("locked", ["lock_id"]),
    ("hold_created", ["hold_id"]),
    ("clearing_created", ["clearing_id"]),
    ("fully_redeemed", ["redeemed"])]

instance : Wire Outcome where
  encode
    | .applied => .obj [("outcome", .str "applied")]
    | .couponSet couponId =>
      .obj [("outcome", .str "coupon_set"), ("coupon_id", encode couponId)]
    | .maturityDateUpdated previous =>
      .obj [("outcome", .str "maturity_date_updated"), ("previous", encode previous)]
    | .locked id => .obj [("outcome", .str "locked"), ("lock_id", encode id)]
    | .holdCreated id => .obj [("outcome", .str "hold_created"), ("hold_id", encode id)]
    | .clearingCreated id =>
      .obj [("outcome", .str "clearing_created"), ("clearing_id", encode id)]
    | .fullyRedeemed redeemed =>
      .obj [("outcome", .str "fully_redeemed"), ("redeemed", encode redeemed)]
  read? site t := do
    match ← t.variant? site "outcome" Outcome.layout with
    | ("applied", _) => return .applied
    | ("coupon_set", r) => return .couponSet (← r.required "coupon_id")
    | ("maturity_date_updated", r) => return .maturityDateUpdated (← r.required "previous")
    | ("locked", r) => return .locked (← r.required "lock_id")
    | ("hold_created", r) => return .holdCreated (← r.required "hold_id")
    | ("clearing_created", r) => return .clearingCreated (← r.required "clearing_id")
    | ("fully_redeemed", r) => return .fullyRedeemed (← r.required "redeemed")
    | _ => none

/-! ### Queries -/

namespace Query

/-- The word for a kind of query. -/
def text : Query → String
  | .coupon .. => "coupon"
  | .couponFor .. => "coupon_for"
  | .couponAmountFor .. => "coupon_amount_for"
  | .couponHolders .. => "coupon_holders"
  | .totalCouponHolders .. => "total_coupon_holders"
  | .couponCount => "coupon_count"
  | .principalFor .. => "principal_for"
  | .terms => "bond_details"
  | .balanceOf .. => "balance_of"
  | .totalBalanceOf .. => "total_balance_of"
  | .totalSupply .. => "total_supply"
  | .snapshot .. => "snapshot"

/-- The members of a query, in their order. -/
def fields : Query → List (String × Json)
  | .coupon couponId => [("coupon_id", encode couponId)]
  | .couponFor couponId holder => [("coupon_id", encode couponId), ("holder", encode holder)]
  | .couponAmountFor couponId holder =>
    [("coupon_id", encode couponId), ("holder", encode holder)]
  | .couponHolders couponId start stop =>
    [("coupon_id", encode couponId), ("start", encode start), ("end", encode stop)]
  | .totalCouponHolders couponId => [("coupon_id", encode couponId)]
  | .couponCount => []
  | .principalFor holder => [("holder", encode holder)]
  | .terms => []
  | .balanceOf holder partition =>
    [("holder", encode holder), ("partition", encode partition)]
  | .totalBalanceOf holder => [("holder", encode holder)]
  | .totalSupply partition => [("partition", encode partition)]
  | .snapshot snapshotId => [("snapshot_id", encode snapshotId)]

/-- The kinds of queries in their order, with the names of their members. -/
def layout : Layout :=
  [("coupon", ["coupon_id"]),
    ("coupon_for", ["coupon_id", "holder"]),
    ("coupon_amount_for", ["coupon_id", "holder"]),
    ("coupon_holders", ["coupon_id", "start", "end"]),
    ("total_coupon_holders", ["coupon_id"]),
    ("coupon_count", []),
    ("principal_for", ["holder"]),
    ("bond_details", []),
    ("balance_of", ["holder", "partition"]),
    ("total_balance_of", ["holder"]),
    ("total_supply", ["partition"]),
    ("snapshot", ["snapshot_id"])]

end Query

instance : Wire Query where
  encode q := .obj (("query", .str q.text) :: q.fields)
  read? site t := do
    match ← t.variant? site "query" Query.layout with
    | ("coupon", r) => return .coupon (← r.required "coupon_id")
    | ("coupon_for", r) =>
      return .couponFor (← r.required "coupon_id") (← r.required "holder")
    | ("coupon_amount_for", r) =>
      return .couponAmountFor (← r.required "coupon_id") (← r.required "holder")
    | ("coupon_holders", r) =>
      return .couponHolders (← r.required "coupon_id") (← r.required "start")
        (← r.required "end")
    | ("total_coupon_holders", r) => return .totalCouponHolders (← r.required "coupon_id")
    | ("coupon_count", _) => return .couponCount
    | ("principal_for", r) => return .principalFor (← r.required "holder")
    | ("bond_details", _) => return .terms
    | ("balance_of", r) =>
      return .balanceOf (← r.required "holder") (← r.withDefault "partition" .default)
    | ("total_balance_of", r) => return .totalBalanceOf (← r.required "holder")
    | ("total_supply", r) => return .totalSupply (← r.withDefault "partition" .default)
    | ("snapshot", r) => return .snapshot (← r.required "snapshot_id")
    | _ => none

/-! ### Answers -/

/-- The written form of a coupon as it is kept. -/
def RegisteredCoupon.toJson (c : RegisteredCoupon) : Json := .obj
  [("coupon_id", encode c.couponId),
    ("action_id", encode c.actionId),
    ("coupon", encode c.coupon),
    ("snapshot_id", encode c.snapshotId)]

/-- The written form of an answer. -/
def Answer.toJson : Answer → Json
  | .coupon c => c.toJson.withTag "result" "coupon"
  | .couponFor c => c.toJson.withTag "result" "coupon_for"
  | .couponAmountFor c => c.toJson.withTag "result" "coupon_amount_for"
  | .holders hs => .obj [("result", .str "holders"), ("holders", encode hs)]
  | .count n => .obj [("result", .str "count"), ("count", .nat n)]
  | .principal q => (encode q).withTag "result" "principal"
  | .terms t => (encode t).withTag "result" "bond_details"
  | .balance b => (encode b).withTag "result" "balance"
  | .amount a => .obj [("result", .str "amount"), ("amount", encode a)]
  | .snapshot s => .obj [("result", .str "snapshot"), ("snapshot", encode s)]

end CouponBond
