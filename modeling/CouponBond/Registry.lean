import CouponBond.Roster
import CouponBond.Unsigned

/-!
# The registry of holders

Who owns units, per partition and in the bond as a whole, kept up to date with every
change of a balance so that holders are enumerated without reading the ledger.

## Main Definitions

* `Registry` — a roster per partition and one for the bond
* `Registry.reconcile` — bring the rosters in line with new totals of one holder
* `Registry.holders`, `Registry.slice`, … — the enumerations

## Design Notes

A partition whose last holder leaves is dropped, so the partitions of a registry that
only `reconcile` has touched are exactly those with a holder.
-/

namespace CouponBond

/-- Rosters of the current holders. -/
structure Registry where
  /-- Holders of each partition. -/
  partitions : SortedMap Partition Roster
  /-- Holders in any partition. -/
  all : Roster
deriving DecidableEq

namespace Registry

/-- The registry without holders. -/
def empty : Registry := ⟨.empty, .empty⟩

instance : Inhabited Registry := ⟨empty⟩

/-- The roster of a partition. -/
def roster (r : Registry) (partition : Partition) : Roster :=
  (r.partitions.get? partition).getD .empty

/-- Enter or remove a holder in one partition; an emptied roster is dropped. -/
def reconcilePartition (rosters : SortedMap Partition Roster) (holder : Address)
    (partition : Partition) (owns : Bool) : SortedMap Partition Roster :=
  let old := rosters.get? partition
  if owns then rosters.insert partition ((old.getD .empty).insert holder)
  else
    match old with
    | none => rosters
    | some roster =>
      let rest := roster.erase holder
      if rest.size = 0 then rosters.erase partition else rosters.insert partition rest

/-- Bring the rosters in line with the totals of a holder in a partition and overall. -/
def reconcile (r : Registry) (holder : Address) (partition : Partition)
    (partitionTotal overallTotal : Amount) : Registry where
  partitions := reconcilePartition r.partitions holder partition (partitionTotal != 0)
  all := if overallTotal = 0 then r.all.erase holder else r.all.insert holder

/-- Holders of a partition in the order of their arrival. -/
def holders (r : Registry) (partition : Partition) : List Address := (r.roster partition).members

/-- Number of holders of a partition. -/
def count (r : Registry) (partition : Partition) : Nat := (r.roster partition).size

/-- A page of the holders of a partition. -/
def slice (r : Registry) (partition : Partition) (start stop : Nat) : List Address :=
  (r.roster partition).slice start stop

/-- Whether an account holds units of a partition. -/
def contains (r : Registry) (partition : Partition) (holder : Address) : Bool :=
  (r.roster partition).contains holder

/-- Holders in any partition in the order of their arrival. -/
def allHolders (r : Registry) : List Address := r.all.members

/-- Whether an account holds units of any partition. -/
def isHolder (r : Registry) (holder : Address) : Bool := r.all.contains holder

/-- Number of holders in any partition. -/
def totalCount (r : Registry) : Nat := r.all.size

/-- A page of the holders in any partition. -/
def sliceAll (r : Registry) (start stop : Nat) : List Address := r.all.slice start stop

/-- The partitions on record, in ascending order. -/
def knownPartitions (r : Registry) : List Partition := r.partitions.keys

end Registry

end CouponBond
