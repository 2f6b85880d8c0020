import CouponBond.Event
import CouponBond.Wire.Basic

/-!
# Wire form of events

## Main Definitions

* `Fact.fields` — the members of a fact behind the type and the time
* An instance of `Wire` for events
* `EventLog.toJson`, `EventLog.read?` — the wire form of a log
-/

namespace CouponBond

namespace Fact

/-- The members of a fact, in their order. -/
def fields : Fact → List (String × Json)
  | .issued holder partition amount =>
    [("holder", encode holder), ("partition", encode partition), ("amount", encode amount)]
  | .transferred source destination partition amount =>
    [("from", encode source), ("to", encode destination), ("partition", encode partition),
      ("amount", encode amount)]
  | .redeemed holder partition amount =>
    [("holder", encode holder), ("partition", encode partition), ("amount", encode amount)]
  | .locked id holder partition amount expiration =>
    [("lock_id", encode id), ("holder", encode holder), ("partition", encode partition),
      ("amount", encode amount), ("expiration", encode expiration)]
  | .lockReleased id holder partition amount =>
    [("lock_id", encode id), ("holder", encode holder), ("partition", encode partition),
      ("amount", encode amount)]
  | .holdCreated id holder partition amount escrow =>
    [("hold_id", encode id), ("holder", encode holder), ("partition", encode partition),
      ("amount", encode amount), ("escrow", encode escrow)]
  | .holdExecuted id holder destination partition amount =>
    [("hold_id", encode id), ("holder", encode holder), ("to", encode destination),
      ("partition", encode partition), ("amount", encode amount)]
  | .holdReleased id holder partition amount =>
    [("hold_id", encode id), ("holder", encode holder), ("partition", encode partition),
      ("amount", encode amount)]
  | .frozen holder partition amount =>
    [("holder", encode holder), ("partition", encode partition), ("amount", encode amount)]
  | .unfrozen holder partition amount =>
    [("holder", encode holder), ("partition", encode partition), ("amount", encode amount)]
  | .clearingCreated id source destination partition amount =>
    [("clearing_id", encode id), ("from", encode source), ("to", encode destination),
      ("partition", encode partition), ("amount", encode amount)]
  | .clearingApproved id source destination partition amount =>
    [("clearing_id", encode id), ("from", encode source), ("to", encode destination),
      ("partition", encode partition), ("amount", encode amount)]
  | .clearingCancelled id source partition amount =>
    [("clearing_id", encode id), ("from", encode source), ("partition", encode partition),
      ("amount", encode amount)]
  | .couponSet couponId actionId recordDate executionDate =>
    [("coupon_id", encode couponId), ("action_id", encode actionId),
      ("record_date", encode recordDate), ("execution_date", encode executionDate)]
  | .snapshotTaken snapshotId actionId holders =>
    [("snapshot_id", encode snapshotId), ("action_id", encode actionId),
      ("holders", encode holders)]
  | .maturityDateUpdated previous next =>
    [("previous", encode previous), ("new", encode next)]
  | .redeemedAtMaturity holder partition amount =>
    [("holder", encode holder), ("partition", encode partition), ("amount", encode amount)]

/-- The kinds of facts in their order, with the names of their members behind the time. -/
def layout : Layout :=
  [("Issued", ["holder", "partition", "amount"]),
    ("Transferred", ["from", "to", "partition", "amount"]),
    ("Redeemed", ["holder", "partition", "amount"]),
    ("Locked", ["lock_id", "holder", "partition", "amount", "expiration"]),
    ("LockReleased", ["lock_id", "holder", "partition", "amount"]),
    ("HoldCreated", ["hold_id", "holder", "partition", "amount", "escrow"]),
    ("HoldExecuted", ["hold_id", "holder", "to", "partition", "amount"]),
    ("HoldReleased", ["hold_id", "holder", "partition", "amount"]),
    ("Frozen", ["holder", "partition", "amount"]),
    ("Unfrozen", ["holder", "partition", "amount"]),
    ("ClearingCreated", ["clearing_id", "from", "to", "partition", "amount"]),
    ("ClearingApproved", ["clearing_id", "from", "to", "partition", "amount"]),
    ("ClearingCancelled", ["clearing_id", "from", "partition", "amount"]),
    ("CouponSet", ["coupon_id", "action_id", "record_date", "execution_date"]),
    ("SnapshotTaken", ["snapshot_id", "action_id", "holders"]),
    ("MaturityDateUpdated", ["previous", "new"]),
    ("RedeemedAtMaturity", ["holder", "partition", "amount"])]

/-- The fact of a kind with the given members. -/
def ofRecord? (type : String) (r : Record) : Option Fact :=
  match type with
  | "Issued" =>
    return .issued (← r.required "holder") (← r.required "partition") (← r.required "amount")
  | "Transferred" =>
    return .transferred (← r.required "from") (← r.required "to") (← r.required "partition")
      (← r.required "amount")
  | "Redeemed" =>
    return .redeemed (← r.required "holder") (← r.required "partition") (← r.required "amount")
  | "Locked" =>
    return .locked (← r.required "lock_id") (← r.required "holder") (← r.required "partition")
      (← r.required "amount") (← r.required "expiration")
  | "LockReleased" =>
    return .lockReleased (← r.required "lock_id") (← r.required "holder")
      (← r.required "partition") (← r.required "amount")
  | "HoldCreated" =>
    return .holdCreated (← r.required "hold_id") (← r.required "holder")
      (← r.required "partition") (← r.required "amount") (← r.required "escrow")
  | "HoldExecuted" =>
    return .holdExecuted (← r.required "hold_id") (← r.required "holder") (← r.required "to")
      (← r.required "partition") (← r.required "amount")
  | "HoldReleased" =>
    return .holdReleased (← r.required "hold_id") (← r.required "holder")
      (← r.required "partition") (← r.required "amount")
  | "Frozen" =>
    return .frozen (← r.required "holder") (← r.required "partition") (← r.required "amount")
  | "Unfrozen" =>
    return .unfrozen (← r.required "holder") (← r.required "partition") (← r.required "amount")
  | "ClearingCreated" =>
    return .clearingCreated (← r.required "clearing_id") (← r.required "from")
      (← r.required "to") (← r.required "partition") (← r.required "amount")
  | "ClearingApproved" =>
    return .clearingApproved (← r.required "clearing_id") (← r.required "from")
      (← r.required "to") (← r.required "partition") (← r.required "amount")
  | "ClearingCancelled" =>
    return .clearingCancelled (← r.required "clearing_id") (← r.required "from")
      (← r.required "partition") (← r.required "amount")
  | "CouponSet" =>
    return .couponSet (← r.required "coupon_id") (← r.required "action_id")
      (← r.required "record_date") (← r.required "execution_date")
  | "SnapshotTaken" =>
    return .snapshotTaken (← r.required "snapshot_id") (← r.required "action_id")
      (← r.required "holders")
  | "MaturityDateUpdated" =>
    return .maturityDateUpdated (← r.required "previous") (← r.required "new")
  | "RedeemedAtMaturity" =>
    return .redeemedAtMaturity (← r.required "holder") (← r.required "partition")
      (← r.required "amount")
  | _ => none

end Fact

/-- The kinds of events in their order, with the names of their members. -/
def Event.layout : Layout := Fact.layout.map fun (type, names) => (type, "timestamp" :: names)

instance : Wire Event where
  encode e := .obj
    (("type", .str e.fact.typeText) :: ("timestamp", encode e.timestamp) :: e.fact.fields)
  read? site t := do
    let (type, r) ← t.variant? site "type" Event.layout
    return {
      timestamp := ← r.required "timestamp"
      fact := ← Fact.ofRecord? type r }

/-- The field names of a log. -/
def EventLog.fieldNames : FieldNames := ["events"]

/-- The written form of a log. -/
def EventLog.toJson (log : EventLog) : Json := .obj [("events", encode (log : List Event))]

/-- The log that is written. -/
def EventLog.read? (site : Site) (t : Json.Tree) : Option EventLog := do
  let r ← t.record? site EventLog.fieldNames
  r.required "events"

end CouponBond
