import CouponBond.Action
import CouponBond.Ledger.Basic

/-!
# Record-date snapshots

What every holder owned at the record date of a corporate action.  A snapshot is not
taken at that moment but at the first change of the bond afterwards, before the change
is applied; until then the ledger itself still shows the balances of the record date.

## Main Definitions

* `Capture` — the balances of a moment, taken for an action
* `Snapshot` — a capture that was kept, with its number
* `SnapshotBook` — the snapshots, and the record dates still to come
* `SnapshotBook.captureDue`, `SnapshotBook.commit` — look at the balances, and keep them

## Design Notes

Capturing only reads, so captures of a change that is refused are simply forgotten.
The agenda of record dates is ordered by date and then by action.

A capture is due for an action that is found, and linking it fails only when the action does
not stand at the place of its own number.  A running system stops there, with the change half
made, while `commitOne` drops the capture and goes on.  No command leads there, only a restored
text whose actions are not numbered by their places, and nothing is stated of what commands do
to a bond restored from one.
-/

namespace CouponBond

/-- The balances of a moment. -/
structure Holdings where
  /-- The holders in the order of the registry. -/
  holders : List Address
  /-- What each holder owned over all partitions. -/
  totals : SortedMap Address Amount
  /-- What each holder owned in each partition. -/
  byPartition : SortedMap Partition (SortedMap Address Amount)
deriving DecidableEq

namespace Holdings

/-- The balances that a ledger shows. -/
def ofLedger (l : Ledger) : Holdings where
  holders := l.registry.allHolders
  totals := .ofList (l.registry.allHolders.map fun h => (h, l.holdingOf h))
  byPartition := .ofList (l.registry.knownPartitions.map fun p =>
    (p, .ofList ((l.registry.holders p).map fun h => (h, l.totalBalanceOf h p))))

/-- What a holder owned over all partitions. -/
def balanceOf (h : Holdings) (holder : Address) : Amount := (h.totals.get? holder).getD 0

/-- What a holder owned in one partition. -/
def balanceIn (h : Holdings) (holder : Address) (partition : Partition) : Amount :=
  (((h.byPartition.get? partition).getD .empty).get? holder).getD 0

/-- What all holders owned together. -/
def totalSupply (h : Holdings) : Nat := h.totals.sumOf UInt64.toNat

/-- A page of the holders; the end of the page is cut off at the last holder. -/
def slice (h : Holdings) (start stop : Nat) : List Address :=
  let stop := min stop h.holders.length
  if stop ≤ start then [] else (h.holders.take stop).drop start

theorem slice_eq_pageOf (h : Holdings) (start stop : Nat) :
    h.slice start stop = pageOf h.holders start stop := by
  simp only [slice, pageOf]
  split
  · next hle =>
    rcases Nat.le_total stop h.holders.length with hs | hs
    · rw [Nat.min_eq_left hs] at hle
      rw [Nat.sub_eq_zero_of_le hle, List.take_zero]
    · rw [Nat.min_eq_right hs] at hle
      rw [List.drop_of_length_le hle, List.take_nil]
  · rw [List.drop_take, Nat.min_def]
    split
    · rfl
    · next hs =>
      rw [List.take_of_length_le (by simp), List.take_of_length_le (by simp; omega)]

end Holdings

/-- The balances of a moment, looked at for an action but not kept yet. -/
structure Capture where
  actionId : ActionId
  recordDate : Timestamp
  takenAt : Timestamp
  holdings : Holdings
deriving DecidableEq

/-- Balances kept for an action. -/
structure Snapshot where
  id : SnapshotId
  actionId : ActionId
  takenAt : Timestamp
  holdings : Holdings
deriving DecidableEq

/-- A record date still to come, or come but not acted on. -/
structure Trigger where
  recordDate : Timestamp
  actionId : ActionId
deriving DecidableEq, Repr

instance : Ranked Trigger where
  rank t := t.recordDate.toNat * UInt64.size + t.actionId.toNat
  rank_injective h := by
    rename_i a b
    have ha := a.actionId.toNat_lt
    have hb := b.actionId.toNat_lt
    simp only [UInt64.size] at h
    have hd : a.recordDate = b.recordDate := UInt64.toNat_inj.mp (by omega)
    have hi : a.actionId = b.actionId := UInt64.toNat_inj.mp (by omega)
    cases a
    cases b
    cases hd
    cases hi
    rfl

/-- What is reported of a snapshot that was kept. -/
structure SnapshotNotice where
  snapshotId : SnapshotId
  actionId : ActionId
  /-- Number of holders. -/
  holders : UInt64
deriving DecidableEq, Repr

/-- The snapshots of a bond and its agenda of record dates. -/
structure SnapshotBook where
  snapshots : List Snapshot
  pending : SortedSet Trigger
deriving DecidableEq

namespace SnapshotBook

/-- The book without snapshots. -/
def empty : SnapshotBook := ⟨[], .empty⟩

instance : Inhabited SnapshotBook := ⟨empty⟩

/-- Put the record date of an action on the agenda. -/
def schedule (b : SnapshotBook) (actionId : ActionId) (recordDate : Timestamp) : SnapshotBook :=
  { b with pending := b.pending.insert ⟨recordDate, actionId⟩ () }

/-- The agenda of the actions that have no snapshot. -/
def agendaOf (s : ActionStore) : SortedSet Trigger :=
  .ofList ((s.actions.filter fun a => !a.hasSnapshot).map fun a => (⟨a.kind.recordDate, a.id⟩, ()))

/-- Set the agenda up again from the actions. -/
def rebuildPending (b : SnapshotBook) (s : ActionStore) : SnapshotBook :=
  { b with pending := agendaOf s }

/-- Number of entries on the agenda. -/
def pendingCount (b : SnapshotBook) : Nat := b.pending.size

/-- Whether a record date on the agenda has come. -/
def hasDue (b : SnapshotBook) (now : Timestamp) : Bool :=
  b.pending.keys.any fun t => t.recordDate ≤ now

/-- Entries of the agenda that have come and whose action waits for its snapshot. -/
def due (b : SnapshotBook) (now : Timestamp) (s : ActionStore) : List Trigger :=
  b.pending.keys.filter fun t =>
    decide (t.recordDate ≤ now) &&
      match s.get? t.actionId with
      | .ok a => !a.hasSnapshot
      | .error _ => false

/-- Look at the balances for every record date that has come. -/
def captureDue (b : SnapshotBook) (now : Timestamp) (s : ActionStore) (l : Ledger) :
    List Capture :=
  (b.due now s).map fun t => ⟨t.actionId, t.recordDate, now, .ofLedger l⟩

/-- Keep one capture, unless its action has a snapshot; either way its record date leaves
the agenda. -/
def commitOne (b : SnapshotBook) (s : ActionStore) (c : Capture) :
    Option SnapshotNotice × SnapshotBook × ActionStore :=
  let id := UInt64.ofNat (b.snapshots.length + 1)
  let pending := b.pending.erase ⟨c.recordDate, c.actionId⟩
  match s.linkSnapshot? c.actionId id with
  | .ok (true, s') =>
    (some ⟨id, c.actionId, UInt64.ofNat c.holdings.holders.length⟩,
      ⟨b.snapshots ++ [⟨id, c.actionId, c.takenAt, c.holdings⟩], pending⟩, s')
  | _ => (none, { b with pending }, s)

/-- Keep captures in order and link them to their actions. -/
def commit (b : SnapshotBook) (s : ActionStore) :
    List Capture → List SnapshotNotice × SnapshotBook × ActionStore
  | [] => ([], b, s)
  | c :: rest =>
    let (notice, b, s) := b.commitOne s c
    let (notices, b, s) := commit b s rest
    (notice.toList ++ notices, b, s)

/-- Look at the balances for every record date that has come, and keep them. -/
def takeDue (b : SnapshotBook) (now : Timestamp) (s : ActionStore) (l : Ledger) :
    List SnapshotNotice × SnapshotBook × ActionStore :=
  b.commit s (b.captureDue now s l)

/-- The snapshot with a number. -/
def get? (b : SnapshotBook) (id : SnapshotId) : Option Snapshot := nth? b.snapshots id

/-- Number of snapshots. -/
def count (b : SnapshotBook) : Nat := b.snapshots.length

end SnapshotBook

end CouponBond
