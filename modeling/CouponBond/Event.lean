import CouponBond.Identifier
import CouponBond.Unsigned

/-!
# Events

The log of everything that was applied to a bond.  Commands that were refused leave no
trace in it.

## Main Definitions

* `Fact` — what happened
* `Event` — a fact and its time
* `EventLog` — the events in the order in which they were applied
* `Fact.involves` — the parties of a fact
-/

namespace CouponBond

/-- What happened to a bond. -/
inductive Fact where
  | issued (holder : Address) (partition : Partition) (amount : Amount)
  | transferred (source destination : Address) (partition : Partition) (amount : Amount)
  | redeemed (holder : Address) (partition : Partition) (amount : Amount)
  | locked (id : LockId) (holder : Address) (partition : Partition) (amount : Amount)
      (expiration : Timestamp)
  | lockReleased (id : LockId) (holder : Address) (partition : Partition) (amount : Amount)
  | holdCreated (id : HoldId) (holder : Address) (partition : Partition) (amount : Amount)
      (escrow : Address)
  | holdExecuted (id : HoldId) (holder destination : Address) (partition : Partition)
      (amount : Amount)
  | holdReleased (id : HoldId) (holder : Address) (partition : Partition) (amount : Amount)
  | frozen (holder : Address) (partition : Partition) (amount : Amount)
  | unfrozen (holder : Address) (partition : Partition) (amount : Amount)
  | clearingCreated (id : ClearingId) (source destination : Address) (partition : Partition)
      (amount : Amount)
  | clearingApproved (id : ClearingId) (source destination : Address) (partition : Partition)
      (amount : Amount)
  | clearingCancelled (id : ClearingId) (source : Address) (partition : Partition)
      (amount : Amount)
  /-- A coupon was accepted. -/
  | couponSet (couponId : UInt64) (actionId : ActionId) (recordDate executionDate : Timestamp)
  /-- The balances of a record date were kept. -/
  | snapshotTaken (snapshotId : SnapshotId) (actionId : ActionId) (holders : UInt64)
  /-- The maturity date was moved forward. -/
  | maturityDateUpdated (previous next : Timestamp)
  | redeemedAtMaturity (holder : Address) (partition : Partition) (amount : Amount)
deriving DecidableEq, Repr

/-- A fact and the time at which it was applied. -/
structure Event where
  timestamp : Timestamp
  fact : Fact
deriving DecidableEq, Repr

namespace Fact

/-- The word for a kind of fact. -/
def typeText : Fact → String
  | .issued .. => "Issued"
  | .transferred .. => "Transferred"
  | .redeemed .. => "Redeemed"
  | .locked .. => "Locked"
  | .lockReleased .. => "LockReleased"
  | .holdCreated .. => "HoldCreated"
  | .holdExecuted .. => "HoldExecuted"
  | .holdReleased .. => "HoldReleased"
  | .frozen .. => "Frozen"
  | .unfrozen .. => "Unfrozen"
  | .clearingCreated .. => "ClearingCreated"
  | .clearingApproved .. => "ClearingApproved"
  | .clearingCancelled .. => "ClearingCancelled"
  | .couponSet .. => "CouponSet"
  | .snapshotTaken .. => "SnapshotTaken"
  | .maturityDateUpdated .. => "MaturityDateUpdated"
  | .redeemedAtMaturity .. => "RedeemedAtMaturity"

/-- The parties of a fact. -/
def parties : Fact → List Address
  | .issued holder _ _ => [holder]
  | .transferred source destination _ _ => [source, destination]
  | .redeemed holder _ _ => [holder]
  | .locked _ holder _ _ _ => [holder]
  | .lockReleased _ holder _ _ => [holder]
  | .holdCreated _ holder _ _ escrow => [holder, escrow]
  | .holdExecuted _ holder destination _ _ => [holder, destination]
  | .holdReleased _ holder _ _ => [holder]
  | .frozen holder _ _ => [holder]
  | .unfrozen holder _ _ => [holder]
  | .clearingCreated _ source destination _ _ => [source, destination]
  | .clearingApproved _ source destination _ _ => [source, destination]
  | .clearingCancelled _ source _ _ => [source]
  | .couponSet .. => []
  | .snapshotTaken .. => []
  | .maturityDateUpdated .. => []
  | .redeemedAtMaturity holder _ _ => [holder]

/-- Whether an account is a party of a fact. -/
def involves (f : Fact) (account : Address) : Bool := decide (account ∈ f.parties)

end Fact

/-- The events of a bond, the earliest first. -/
abbrev EventLog := List Event

namespace EventLog

/-- The events from a time on. -/
def since (log : EventLog) (time : Timestamp) : List Event :=
  log.filter fun e => time ≤ e.timestamp

/-- The events of one kind. -/
def ofType (log : EventLog) (type : String) : List Event :=
  log.filter fun e => e.fact.typeText == type

/-- The events to which an account is a party. -/
def forHolder (log : EventLog) (account : Address) : List Event :=
  log.filter fun e => e.fact.involves account

end EventLog

end CouponBond
