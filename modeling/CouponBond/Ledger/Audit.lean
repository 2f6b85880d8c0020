import CouponBond.Ledger.Basic

/-!
# Auditing a ledger

Checks on a ledger that was read from somewhere rather than built by mutations: the
supply is what the holders own, the records explain the encumbered buckets, and the
registry names exactly the holders.

## Main Definitions

* `Ledger.auditSupply` — per partition, the rows add up to the supply
* `Ledger.tally` — what the records encumber, by holder and partition
* `Ledger.auditRecords` — records, buckets and registry agree

## Design Notes

An audit reports the first disagreement in a fixed order: the supply of the bond; then
locks, holds and clearings by number; then the rows by partition and holder; then
records without a row by holder and partition; then the registry by partition.

A row that was checked strikes its position off the tally, so that what is left at the end
are the records without a row.
-/

namespace CouponBond.Ledger

/-- The error of the first element that has one. -/
def refuseFirst {α : Type} (check : α → Except LedgerError Unit) : List α →
    Except LedgerError Unit
  | [] => .ok ()
  | a :: rest => do
    check a
    refuseFirst check rest

/-! ### Supply -/

/-- What all holders of a book own together. -/
def bookSum (b : Book) : Nat := b.balances.sumOf Balance.sum

/-- Whether the rows of a partition add up to its supply. -/
def auditBook (entry : Partition × Book) : Except LedgerError Unit :=
  let sum := bookSum entry.2
  if sum = entry.2.totalSupply.toNat then .ok ()
  else .error (.conservationViolated entry.1 entry.2.totalSupply sum)

/-- Whether, in every partition, the rows add up to the supply. -/
def auditSupply (l : Ledger) : Except LedgerError Unit := refuseFirst auditBook l.books.entries

/-! ### Records -/

/-- Whether a record is kept under its own number and the counter has passed it. -/
def auditNumber (kind : RecordKind) (key id counter : UInt64) : Except LedgerError Unit :=
  if key = id ∧ id ≠ 0 ∧ id ≤ counter then .ok () else .error (.recordIdMismatch kind key)

/-- A holder in a partition; ordered by holder, then by partition. -/
structure Position where
  holder : Address
  partition : Partition
deriving DecidableEq, Repr

instance : Ranked Position where
  rank p := rank p.holder <<< 256 + rank p.partition
  rank_injective h := by
    rename_i p p'
    have hp : rank p.partition < 1 <<< 256 := p.partition.bits.isLt
    have hp' : rank p'.partition < 1 <<< 256 := p'.partition.bits.isLt
    have hholder : p.holder = p'.holder := rank_injective (by omega)
    have hpartition : p.partition = p'.partition := rank_injective (by omega)
    cases p
    cases p'
    cases hholder
    cases hpartition
    rfl

/-- Units that records encumber, by the bucket that has to show them. -/
structure Encumbrance where
  locked : Nat
  held : Nat
  cleared : Nat
deriving DecidableEq, Repr

namespace Encumbrance

/-- What is encumbered where there is no record. -/
def none : Encumbrance := ⟨0, 0, 0⟩

/-- The units that a bucket has to show. -/
def get (e : Encumbrance) : Bucket → Nat
  | .locked => e.locked
  | .held => e.held
  | .cleared => e.cleared
  | _ => 0

/-- The encumbrance with more units in a bucket. -/
def add (e : Encumbrance) (bucket : Bucket) (units : Nat) : Encumbrance :=
  match bucket with
  | .locked => { e with locked := e.locked + units }
  | .held => { e with held := e.held + units }
  | .cleared => { e with cleared := e.cleared + units }
  | _ => e

end Encumbrance

/-- What the records encumber at the positions that they name. -/
abbrev Tally := SortedMap Position Encumbrance

namespace Tally

/-- What is encumbered at a position. -/
def entry (t : Tally) (p : Position) : Encumbrance := (t.get? p).getD .none

/-- Enter the units of a record. -/
def enter (t : Tally) (p : Position) (bucket : Bucket) (units : Amount) : Tally :=
  t.insert p ((t.entry p).add bucket units.toNat)

/-- Enter records of one kind. -/
def enterAll {R : Type} (t : Tally) (bucket : Bucket) (position : R → Position)
    (amount : R → Amount) (records : List R) : Tally :=
  records.foldl (fun t r => t.enter (position r) bucket (amount r)) t

end Tally

/-- What locks, holds and clearings encumber. -/
def tally (l : Ledger) : Tally :=
  let locked := Tally.enterAll .empty .locked (fun r => ⟨r.holder, r.partition⟩) Lock.amount
    l.locks.values
  let held := locked.enterAll .held (fun r => ⟨r.holder, r.partition⟩) Hold.amount l.holds.values
  held.enterAll .cleared (fun r => ⟨r.source, r.partition⟩) Clearing.amount l.clearings.values

/-- All rows with their positions, by partition and holder. -/
def rows (l : Ledger) : List (Position × Balance) :=
  l.books.entries.flatMap fun (partition, book) =>
    book.balances.entries.map fun (holder, balance) => (⟨holder, partition⟩, balance)

/-- Whether a bucket shows what the records encumber. -/
def auditBucket (p : Position) (e : Encumbrance) (balance : Balance) (bucket : Bucket) :
    Except LedgerError Unit :=
  if e.get bucket = (balance.get bucket).toNat then .ok ()
  else .error (.recordMismatch p.holder p.partition bucket (e.get bucket) (balance.get bucket))

/-- Whether a balance shows what the records encumber. -/
def auditBuckets (p : Position) (e : Encumbrance) (balance : Balance) :
    Except LedgerError Unit :=
  refuseFirst (auditBucket p e balance) [.locked, .held, .cleared]

/-- Check a row against the tally and strike its position off. -/
def auditRow (t : Tally) (row : Position × Balance) : Except LedgerError Tally := do
  auditBuckets row.1 (t.entry row.1) row.2
  if row.2.free < row.2.cleared then
    throw (.clearedExceedsFree row.1.holder row.1.partition row.2.cleared row.2.free)
  return t.erase row.1

/-- Check the positions that no row has struck off: there the balance is empty. -/
def auditRest (t : Tally) : Except LedgerError Unit :=
  refuseFirst (fun e => auditBuckets e.1 e.2 .zero) t.entries

/-! ### Registry -/

/-- The holders that own something in a partition, in ascending order. -/
def owners (l : Ledger) (partition : Partition) : List Address :=
  ((l.book partition).balances.filter fun _ b => !b.isEmpty).keys

/-- The partitions that the books or the registry know, in ascending order. -/
def auditedPartitions (l : Ledger) : List Partition :=
  ((l.registry.knownPartitions.foldl (fun (s : SortedSet Partition) p => s.insert p ())
    (l.books.keys.foldl (fun (s : SortedSet Partition) p => s.insert p ()) .empty))).keys

/-- Compare the holders that are expected on a roster with those that stand on it. -/
def auditRoster (expected listed : List Address) : Except LedgerError Unit :=
  match expected.find? fun h => decide (h ∉ listed) with
  | some holder => .error (.registryOutOfSync holder)
  | none =>
    if listed.length = expected.length then .ok ()
    else
      let stray := listed.find? fun h => decide (h ∉ expected)
      .error (.registryOutOfSync (stray.getD .zero))

/-- The holders that own something in any partition, in ascending order. -/
def ownersAll (l : Ledger) : List Address :=
  (l.auditedPartitions.foldl
    (fun (s : SortedSet Address) p => (l.owners p).foldl (fun s h => s.insert h ()) s)
    .empty).keys

/-- Whether the registry names exactly the holders. -/
def auditRegistry (l : Ledger) : Except LedgerError Unit := do
  refuseFirst (fun p => auditRoster (l.owners p) (l.registry.holders p)) l.auditedPartitions
  auditRoster l.ownersAll l.registry.allHolders

/-- Whether the records explain the encumbered buckets and the registry names exactly the
holders. -/
def auditRecords (l : Ledger) : Except LedgerError Unit := do
  if Unsigned.greatest.toNat < l.totalSupplyAll then throw .bondSupplyOverflow
  refuseFirst (fun e => auditNumber .lock e.1 e.2.id l.lockCounter) l.locks.entries
  refuseFirst (fun e => auditNumber .hold e.1 e.2.id l.holdCounter) l.holds.entries
  refuseFirst (fun e => auditNumber .clearing e.1 e.2.id l.clearingCounter) l.clearings.entries
  let rest ← l.rows.foldlM auditRow l.tally
  auditRest rest
  l.auditRegistry

end CouponBond.Ledger
