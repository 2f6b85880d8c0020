import CouponBond.Bond.Basic

/-!
# Commands

Every change that a holder, an operator or the issuer can ask of a bond.

## Main Definitions

* `Command` — the changes
* `Outcome` — what an applied change answers
* `Bond.execute` — apply a command

## Design Notes

A command is judged in this order: its accounts and partition, or the record that it
names; the guards; the rules of the change itself.

Issue, transfer and redemption of zero units are applied without a trace in the log.

A coupon that no number is left for is refused as `LedgerError.outOfRange`, which stands for a
system that stops, as it does in the ledger.
-/

namespace CouponBond

/-- A change asked of a bond. -/
inductive Command where
  | setCoupon (coupon : Coupon)
  | updateMaturityDate (maturityDate : Timestamp)
  | issue (holder : Address) (partition : Partition) (amount : Amount)
  | transfer (source destination : Address) (partition : Partition) (amount : Amount)
  | redeem (holder : Address) (partition : Partition) (amount : Amount)
  | lock (holder : Address) (partition : Partition) (amount : Amount) (expiration : Timestamp)
  | releaseLock (id : LockId)
  | createHold (holder : Address) (partition : Partition) (amount : Amount) (escrow : Address)
      (destination : Option Address) (expiration : Timestamp)
  | executeHold (id : HoldId) (destination : Address) (amount : Amount)
  | releaseHold (id : HoldId) (amount : Amount)
  | freeze (holder : Address) (partition : Partition) (amount : Amount)
  | unfreeze (holder : Address) (partition : Partition) (amount : Amount)
  | createClearing (source destination : Address) (partition : Partition) (amount : Amount)
      (expiration : Timestamp)
  | approveClearing (id : ClearingId)
  | cancelClearing (id : ClearingId)
  | redeemAtMaturity (holder : Address) (partition : Partition) (amount : Amount)
  | redeemAllAtMaturity (holder : Address)
deriving DecidableEq, Repr

/-- The word for a kind of command. -/
def Command.text : Command → String
  | .setCoupon .. => "set_coupon"
  | .updateMaturityDate .. => "update_maturity_date"
  | .issue .. => "issue"
  | .transfer .. => "transfer"
  | .redeem .. => "redeem"
  | .lock .. => "lock"
  | .releaseLock .. => "release_lock"
  | .createHold .. => "create_hold"
  | .executeHold .. => "execute_hold"
  | .releaseHold .. => "release_hold"
  | .freeze .. => "freeze"
  | .unfreeze .. => "unfreeze"
  | .createClearing .. => "create_clearing"
  | .approveClearing .. => "approve_clearing"
  | .cancelClearing .. => "cancel_clearing"
  | .redeemAtMaturity .. => "redeem_at_maturity_by_partition"
  | .redeemAllAtMaturity .. => "full_redeem_at_maturity"

/-- What an applied change answers. -/
inductive Outcome where
  | applied
  | couponSet (couponId : UInt64)
  | maturityDateUpdated (previous : Timestamp)
  | locked (id : LockId)
  | holdCreated (id : HoldId)
  | clearingCreated (id : ClearingId)
  /-- Everything available was redeemed, with the amount of each partition. -/
  | fullyRedeemed (redeemed : List (Partition × Amount))
deriving DecidableEq, Repr

namespace Bond

/-! ### Terms -/

/-- Accept a coupon; the answer is its number among the coupons. -/
def setCoupon (desk : Desk) (coupon : Coupon) : BondChange UInt64 :=
  run desk (contextAt desk .setCoupon [] none) do
    demand (match coupon.checkDates desk.now with
      | .ok () => .ok ()
      | .error e => .error (.dates e))
    if maxDecimals < coupon.rateDecimals then
      throw (.rateDecimalsOutOfRange coupon.rateDecimals maxDecimals)
    let b ← get
    let (actionId, actions) ← onLedger (Ledger.exactly (b.actions.append? (.coupon coupon)))
    let couponId := UInt64.ofNat (actions.countOf .coupon)
    set { b with actions, snapshots := b.snapshots.schedule actionId coupon.recordDate }
    return (couponId, [.couponSet couponId actionId coupon.recordDate coupon.executionDate])

/-- Move the maturity date forward; the answer is the previous date. -/
def updateMaturityDate (desk : Desk) (date : Timestamp) : BondChange Timestamp :=
  run desk (contextAt desk .updateMaturityDate [] none) do
    let b ← get
    let previous := b.terms.maturityDate
    match b.terms.extend? date with
    | none => throw (.maturityDateWrong previous date)
    | some terms =>
      set { b with terms }
      return (previous, [.maturityDateUpdated previous date])

/-! ### Issue, transfer, redemption -/

/-- The facts of a change of some units; none if there are no units. -/
def factOfUnits (amount : Amount) (fact : Fact) : List Fact :=
  if amount = 0 then [] else [fact]

/-- Create units. -/
def issue (desk : Desk) (holder : Address) (partition : Partition) (amount : Amount) :
    BondChange Unit := do
  requireHolder holder
  requirePartition partition
  run desk (contextAt desk .issue [holder] partition) do
    onLedger (Ledger.issue holder partition amount)
    return ((), factOfUnits amount (.issued holder partition amount))

/-- Move units from one holder to another. -/
def transfer (desk : Desk) (source destination : Address) (partition : Partition)
    (amount : Amount) : BondChange Unit := do
  requireHolder source
  requireHolder destination
  requirePartition partition
  run desk (contextAt desk .transfer [source, destination] partition) do
    onLedger (Ledger.transfer source destination partition amount)
    return ((), factOfUnits amount (.transferred source destination partition amount))

/-- Destroy units. -/
def redeem (desk : Desk) (holder : Address) (partition : Partition) (amount : Amount) :
    BondChange Unit := do
  requireHolder holder
  requirePartition partition
  run desk (contextAt desk .redeem [holder] partition) do
    onLedger (Ledger.redeem holder partition amount)
    return ((), factOfUnits amount (.redeemed holder partition amount))

/-- Destroy units of one partition after maturity. -/
def redeemAtMaturity (desk : Desk) (holder : Address) (partition : Partition)
    (amount : Amount) : BondChange Unit := do
  requireHolder holder
  requirePartition partition
  run desk (contextAt desk .redeemAtMaturity [holder] partition) do
    requireMatured desk.now
    onLedger (Ledger.redeem holder partition amount)
    return ((), factOfUnits amount (.redeemedAtMaturity holder partition amount))

/-- What a holder can redeem in each partition; partitions with nothing are left out. -/
def redeemable (l : Ledger) (holder : Address) : List (Partition × Amount) :=
  ((l.partitionsOf holder).map fun p => (p, (l.balanceOf holder p).available)).filter
    fun entry => entry.2 != 0

/-- Redeem the amounts of a plan one after the other. -/
def redeemEach (holder : Address) : List (Partition × Amount) → Ledger.Mutation Unit
  | [] => pure ()
  | (partition, amount) :: rest => do
    Ledger.redeem holder partition amount
    redeemEach holder rest

/-- Destroy all available units of a holder after maturity; the answer is the amount of each
partition. -/
def redeemAllAtMaturity (desk : Desk) (holder : Address) :
    BondChange (List (Partition × Amount)) := do
  requireHolder holder
  run desk (contextAt desk .redeemAtMaturity [holder] none) do
    requireMatured desk.now
    let plan := redeemable (← get).ledger holder
    onLedger (redeemEach holder plan)
    return (plan, plan.map fun entry => .redeemedAtMaturity holder entry.1 entry.2)

/-! ### Encumbrances -/

/-- The lock with a number. -/
def lockRecord (id : LockId) : BondChange Lock := do
  onLedger (Ledger.orRefuse (.lockNotFound id) ((← get).ledger.locks.get? id))

/-- The hold with a number. -/
def holdRecord (id : HoldId) : BondChange Hold := do
  onLedger (Ledger.orRefuse (.holdNotFound id) ((← get).ledger.holds.get? id))

/-- The clearing with a number. -/
def clearingRecord (id : ClearingId) : BondChange Clearing := do
  onLedger (Ledger.orRefuse (.clearingNotFound id) ((← get).ledger.clearings.get? id))

/-- Lock units; the answer is the number of the lock. -/
def lock (desk : Desk) (holder : Address) (partition : Partition) (amount : Amount)
    (expiration : Timestamp) : BondChange LockId := do
  requireHolder holder
  requirePartition partition
  run desk (contextAt desk .lock [holder] partition) do
    let id ← onLedger (Ledger.lock holder partition amount expiration)
    return (id, [.locked id holder partition amount expiration])

/-- End a lock that has expired. -/
def releaseLock (desk : Desk) (id : LockId) : BondChange Unit := do
  let named ← lockRecord id
  run desk (contextAt desk .releaseLock [named.holder] named.partition) do
    let record ← onLedger (Ledger.releaseLock id desk.now)
    return ((), [.lockReleased id record.holder record.partition record.amount])

/-- Put units in escrow; the answer is the number of the hold. -/
def createHold (desk : Desk) (holder : Address) (partition : Partition) (amount : Amount)
    (escrow : Address) (destination : Option Address) (expiration : Timestamp) :
    BondChange HoldId := do
  requireHolder holder
  requireHolder escrow
  match destination with
  | some account => requireHolder account
  | none => pure ()
  requirePartition partition
  run desk (contextAt desk .createHold [holder] partition) do
    let id ← onLedger (Ledger.createHold holder partition amount escrow destination expiration)
    return (id, [.holdCreated id holder partition amount escrow])

/-- Pay held units out. -/
def executeHold (desk : Desk) (id : HoldId) (destination : Address) (amount : Amount) :
    BondChange Unit := do
  requireHolder destination
  let named ← holdRecord id
  run desk (contextAt desk .executeHold [named.holder, destination] named.partition) do
    onLedger (Ledger.executeHold id destination amount desk.now)
    return ((), [.holdExecuted id named.holder destination named.partition amount])

/-- Give held units back to their holder. -/
def releaseHold (desk : Desk) (id : HoldId) (amount : Amount) : BondChange Unit := do
  let named ← holdRecord id
  run desk (contextAt desk .releaseHold [named.holder] named.partition) do
    onLedger (Ledger.releaseHold id amount)
    return ((), [.holdReleased id named.holder named.partition amount])

/-- Freeze units. -/
def freeze (desk : Desk) (holder : Address) (partition : Partition) (amount : Amount) :
    BondChange Unit := do
  requireHolder holder
  requirePartition partition
  run desk (contextAt desk .freeze [holder] partition) do
    onLedger (Ledger.freeze holder partition amount)
    return ((), [.frozen holder partition amount])

/-- Set frozen units free. -/
def unfreeze (desk : Desk) (holder : Address) (partition : Partition) (amount : Amount) :
    BondChange Unit := do
  requireHolder holder
  requirePartition partition
  run desk (contextAt desk .unfreeze [holder] partition) do
    onLedger (Ledger.unfreeze holder partition amount)
    return ((), [.unfrozen holder partition amount])

/-- Reserve units for a transfer that awaits approval; the answer is its number. -/
def createClearing (desk : Desk) (source destination : Address) (partition : Partition)
    (amount : Amount) (expiration : Timestamp) : BondChange ClearingId := do
  requireHolder source
  requireHolder destination
  requirePartition partition
  run desk (contextAt desk .createClearing [source, destination] partition) do
    let id ← onLedger
      (Ledger.createClearing source destination partition amount expiration)
    return (id, [.clearingCreated id source destination partition amount])

/-- Carry out a clearing. -/
def approveClearing (desk : Desk) (id : ClearingId) : BondChange Unit := do
  let named ← clearingRecord id
  run desk
    (contextAt desk .approveClearing [named.source, named.destination] named.partition) do
    let record ← onLedger (Ledger.approveClearing id desk.now)
    return ((), [.clearingApproved id record.source record.destination record.partition
      record.amount])

/-- Drop a clearing. -/
def cancelClearing (desk : Desk) (id : ClearingId) : BondChange Unit := do
  let named ← clearingRecord id
  run desk (contextAt desk .cancelClearing [named.source] named.partition) do
    let record ← onLedger (Ledger.cancelClearing id)
    return ((), [.clearingCancelled id record.source record.partition record.amount])

/-! ### Dispatch -/

/-- Apply a command. -/
def execute (desk : Desk) : Command → BondChange Outcome
  | .setCoupon coupon => return .couponSet (← setCoupon desk coupon)
  | .updateMaturityDate date => return .maturityDateUpdated (← updateMaturityDate desk date)
  | .issue holder partition amount => do
    issue desk holder partition amount
    return .applied
  | .transfer source destination partition amount => do
    transfer desk source destination partition amount
    return .applied
  | .redeem holder partition amount => do
    redeem desk holder partition amount
    return .applied
  | .lock holder partition amount expiration =>
    return .locked (← lock desk holder partition amount expiration)
  | .releaseLock id => do
    releaseLock desk id
    return .applied
  | .createHold holder partition amount escrow destination expiration =>
    return .holdCreated
      (← createHold desk holder partition amount escrow destination expiration)
  | .executeHold id destination amount => do
    executeHold desk id destination amount
    return .applied
  | .releaseHold id amount => do
    releaseHold desk id amount
    return .applied
  | .freeze holder partition amount => do
    freeze desk holder partition amount
    return .applied
  | .unfreeze holder partition amount => do
    unfreeze desk holder partition amount
    return .applied
  | .createClearing source destination partition amount expiration =>
    return .clearingCreated
      (← createClearing desk source destination partition amount expiration)
  | .approveClearing id => do
    approveClearing desk id
    return .applied
  | .cancelClearing id => do
    cancelClearing desk id
    return .applied
  | .redeemAtMaturity holder partition amount => do
    redeemAtMaturity desk holder partition amount
    return .applied
  | .redeemAllAtMaturity holder => return .fullyRedeemed (← redeemAllAtMaturity desk holder)

end Bond

end CouponBond
