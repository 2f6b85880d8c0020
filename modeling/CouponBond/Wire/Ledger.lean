import CouponBond.Ledger.Basic
import CouponBond.Snapshot
import CouponBond.Wire.Payment

/-!
# Wire forms of the ledger and of snapshots

## Main Definitions

* Instances of `Wire` for records, registry, books, the ledger, snapshots and their book

## Design Notes

A roster is written as an array; reading one, a repeated account keeps its first place.
The agenda of record dates is not written: it follows from the actions.
-/

namespace CouponBond

/-! ### Records -/

/-- The field names of a lock. -/
def Lock.fieldNames : FieldNames := ["id", "holder", "partition", "amount", "expiration"]

instance : Wire Lock where
  encode l := .obj
    [("id", encode l.id),
      ("holder", encode l.holder),
      ("partition", encode l.partition),
      ("amount", encode l.amount),
      ("expiration", encode l.expiration)]
  read? site t := do
    let r ← t.record? site Lock.fieldNames
    return {
      id := ← r.required "id"
      holder := ← r.required "holder"
      partition := ← r.required "partition"
      amount := ← r.required "amount"
      expiration := ← r.required "expiration" }

/-- The field names of a hold. -/
def Hold.fieldNames : FieldNames :=
  ["id", "holder", "partition", "amount", "escrow", "to", "expiration"]

instance : Wire Hold where
  encode h := .obj
    [("id", encode h.id),
      ("holder", encode h.holder),
      ("partition", encode h.partition),
      ("amount", encode h.amount),
      ("escrow", encode h.escrow),
      ("to", encode h.destination),
      ("expiration", encode h.expiration)]
  read? site t := do
    let r ← t.record? site Hold.fieldNames
    return {
      id := ← r.required "id"
      holder := ← r.required "holder"
      partition := ← r.required "partition"
      amount := ← r.required "amount"
      escrow := ← r.required "escrow"
      destination := ← r.optional "to"
      expiration := ← r.required "expiration" }

/-- The field names of a clearing. -/
def Clearing.fieldNames : FieldNames :=
  ["id", "from", "to", "partition", "amount", "expiration"]

instance : Wire Clearing where
  encode c := .obj
    [("id", encode c.id),
      ("from", encode c.source),
      ("to", encode c.destination),
      ("partition", encode c.partition),
      ("amount", encode c.amount),
      ("expiration", encode c.expiration)]
  read? site t := do
    let r ← t.record? site Clearing.fieldNames
    return {
      id := ← r.required "id"
      source := ← r.required "from"
      destination := ← r.required "to"
      partition := ← r.required "partition"
      amount := ← r.required "amount"
      expiration := ← r.required "expiration" }

/-! ### Registry and ledger -/

instance : Wire Roster where
  encode r := encode r.members
  read? site t := (read? site t).map Roster.ofList

/-- The field names of a registry. -/
def Registry.fieldNames : FieldNames := ["partitions", "all"]

instance : Wire Registry where
  encode r := .obj [("partitions", encode r.partitions), ("all", encode r.all)]
  read? site t := do
    let r ← t.record? site Registry.fieldNames
    return {
      partitions := ← r.required "partitions"
      all := ← r.required "all" }

/-- The field names of a book. -/
def Book.fieldNames : FieldNames := ["balances", "total_supply"]

instance : Wire Book where
  encode b := .obj [("balances", encode b.balances), ("total_supply", encode b.totalSupply)]
  read? site t := do
    let r ← t.record? site Book.fieldNames
    return {
      balances := ← r.required "balances"
      totalSupply := ← r.required "total_supply" }

/-- The field names of a ledger. -/
def Ledger.fieldNames : FieldNames :=
  ["books", "registry", "locks", "holds", "clearings", "next_lock_id", "next_hold_id",
    "next_clearing_id"]

instance : Wire Ledger where
  encode l := .obj
    [("books", encode l.books),
      ("registry", encode l.registry),
      ("locks", encode l.locks),
      ("holds", encode l.holds),
      ("clearings", encode l.clearings),
      ("next_lock_id", encode l.lockCounter),
      ("next_hold_id", encode l.holdCounter),
      ("next_clearing_id", encode l.clearingCounter)]
  read? site t := do
    let r ← t.record? site Ledger.fieldNames
    return {
      books := ← r.required "books"
      registry := ← r.required "registry"
      locks := ← r.required "locks"
      holds := ← r.required "holds"
      clearings := ← r.required "clearings"
      lockCounter := ← r.required "next_lock_id"
      holdCounter := ← r.required "next_hold_id"
      clearingCounter := ← r.required "next_clearing_id" }

/-! ### Snapshots -/

/-- The field names of a snapshot. -/
def Snapshot.fieldNames : FieldNames :=
  ["id", "action_id", "taken_at", "holders", "totals", "by_partition"]

instance : Wire Snapshot where
  encode s := .obj
    [("id", encode s.id),
      ("action_id", encode s.actionId),
      ("taken_at", encode s.takenAt),
      ("holders", encode s.holdings.holders),
      ("totals", encode s.holdings.totals),
      ("by_partition", encode s.holdings.byPartition)]
  read? site t := do
    let r ← t.record? site Snapshot.fieldNames
    return {
      id := ← r.required "id"
      actionId := ← r.required "action_id"
      takenAt := ← r.required "taken_at"
      holdings := {
        holders := ← r.required "holders"
        totals := ← r.required "totals"
        byPartition := ← r.required "by_partition" } }

/-- The field names of a book of snapshots. -/
def SnapshotBook.fieldNames : FieldNames := ["snapshots"]

instance : Wire SnapshotBook where
  encode b := .obj [("snapshots", encode b.snapshots)]
  read? site t := do
    let r ← t.record? site SnapshotBook.fieldNames
    return {
      snapshots := ← r.required "snapshots"
      pending := .empty }

/-- The written form of what is reported of a snapshot. -/
def SnapshotNotice.toJson (n : SnapshotNotice) : Json := .obj
  [("snapshot_id", encode n.snapshotId),
    ("action_id", encode n.actionId),
    ("holders", encode n.holders)]

end CouponBond
