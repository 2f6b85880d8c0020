import CouponBond.Ledger.Mutation
import CouponBond.Snapshot

/-!
# Ledgers up to places

The places of a roster are never seen: two registries with the same members in the same order
are brought in line with a balance in the same way, and answer the same.

## Main Definitions

* `Registry.view` — what can be seen of a registry
* `Ledger.Alike` — ledgers that differ in nothing that can be seen

## Main Results

* `Registry.view_reconcile` — the view after a change follows from the view before it
* `Ledger.Alike.withRow` — writing a row keeps ledgers alike
* `Holdings.ofLedger_eq` — alike ledgers show the same balances
-/

namespace CouponBond

namespace Registry

/-- What can be seen of a registry: the members of its rosters, in their order. -/
def view (r : Registry) : SortedMap Partition (List Address) × List Address :=
  (r.partitions.mapValues Roster.members, r.all.members)

/-- Members with an arrival behind them, unless it is among them. -/
def enter (members : List Address) (a : Address) : List Address :=
  if a ∈ members then members else members ++ [a]

/-- The view of reconciled rosters follows from their view. -/
theorem mapValues_reconcilePartition (rosters : SortedMap Partition Roster) (holder : Address)
    (partition : Partition) (owns : Bool) :
    (reconcilePartition rosters holder partition owns).mapValues Roster.members =
      let view := rosters.mapValues Roster.members
      if owns then view.insert partition (enter ((view.get? partition).getD []) holder)
      else
        match view.get? partition with
        | none => view
        | some members =>
          if members.erase holder = [] then view.erase partition
          else view.insert partition (members.erase holder) := by
  unfold reconcilePartition
  dsimp only
  rw [SortedMap.get?_mapValues]
  cases owns with
  | true =>
    rw [if_pos rfl, if_pos rfl, SortedMap.mapValues_insert, Roster.members_insert]
    cases rosters.get? partition <;> rfl
  | false =>
    rw [if_neg Bool.false_ne_true, if_neg Bool.false_ne_true]
    cases rosters.get? partition with
    | none => rfl
    | some roster =>
      show (if (roster.erase holder).size = 0 then _ else _ : SortedMap Partition Roster).mapValues
        Roster.members = if roster.members.erase holder = [] then _ else _
      have hempty : (roster.erase holder).size = 0 ↔ roster.members.erase holder = [] := by
        rw [Roster.size_eq_length, Roster.members_erase, List.length_eq_zero_iff]
      by_cases h : roster.members.erase holder = []
      · rw [if_pos h, if_pos (hempty.mpr h), SortedMap.mapValues_erase]
      · rw [if_neg h, if_neg (fun e => h (hempty.mp e)), SortedMap.mapValues_insert,
          Roster.members_erase]

/-- Registries that look the same look the same after the same change. -/
theorem view_reconcile {r r' : Registry} (h : r'.view = r.view) (holder : Address)
    (partition : Partition) (partitionTotal overallTotal : Amount) :
    (r'.reconcile holder partition partitionTotal overallTotal).view =
      (r.reconcile holder partition partitionTotal overallTotal).view := by
  obtain ⟨hpartitions, hall⟩ := Prod.mk.inj h
  refine Prod.ext ?_ ?_
  · show (reconcilePartition _ _ _ _).mapValues _ = (reconcilePartition _ _ _ _).mapValues _
    rw [mapValues_reconcilePartition, mapValues_reconcilePartition, hpartitions]
  · show (if _ then _ else _ : Roster).members = (if _ then _ else _ : Roster).members
    split
    · rw [Roster.members_erase, Roster.members_erase, hall]
    · rw [Roster.members_insert, Roster.members_insert, hall]

variable {r r' : Registry}

theorem allHolders_eq (h : r'.view = r.view) : r'.allHolders = r.allHolders :=
  congrArg Prod.snd h

theorem sliceAll_eq_pageOf (r : Registry) (start stop : Nat) :
    r.sliceAll start stop = pageOf r.allHolders start stop :=
  Roster.slice_eq_pageOf r.all start stop

theorem totalCount_eq_length (r : Registry) : r.totalCount = r.allHolders.length :=
  Roster.size_eq_length r.all

theorem sliceAll_eq (h : r'.view = r.view) (start stop : Nat) :
    r'.sliceAll start stop = r.sliceAll start stop := by
  rw [sliceAll_eq_pageOf, sliceAll_eq_pageOf, allHolders_eq h]

theorem totalCount_eq (h : r'.view = r.view) : r'.totalCount = r.totalCount := by
  rw [totalCount_eq_length, totalCount_eq_length, allHolders_eq h]

theorem knownPartitions_eq (h : r'.view = r.view) : r'.knownPartitions = r.knownPartitions := by
  have hkeys := congrArg (fun v => v.1.keys) h
  unfold knownPartitions
  simpa only [view, SortedMap.keys_mapValues] using hkeys

theorem holders_eq (h : r'.view = r.view) (partition : Partition) :
    r'.holders partition = r.holders partition := by
  have hget := congrArg (fun v => v.1.get? partition) h
  simp only [view, SortedMap.get?_mapValues] at hget
  unfold holders roster
  cases hr : r.partitions.get? partition with
  | none =>
    rw [hr, Option.map_none, Option.map_eq_none_iff] at hget
    rw [hget]
  | some roster =>
    rw [hr, Option.map_some, Option.map_eq_some_iff] at hget
    obtain ⟨roster', hroster', hmembers⟩ := hget
    rw [hroster']
    exact hmembers

end Registry

namespace Ledger

/-- Ledgers that differ in nothing but the places of their rosters. -/
structure Alike (l l' : Ledger) : Prop where
  eq_withRegistry : l' = { l with registry := l'.registry }
  view_eq : l'.registry.view = l.registry.view

namespace Alike

variable {l l' : Ledger}

theorem refl (l : Ledger) : l.Alike l := ⟨rfl, rfl⟩

theorem symm (h : l.Alike l') : l'.Alike l := by
  obtain ⟨heq, hview⟩ := h
  refine ⟨?_, hview.symm⟩
  rw [heq]

theorem trans {l'' : Ledger} (h : l.Alike l') (h' : l'.Alike l'') : l.Alike l'' := by
  obtain ⟨heq, hview⟩ := h
  obtain ⟨heq', hview'⟩ := h'
  refine ⟨?_, hview'.trans hview⟩
  rw [heq', heq]

/-- What does not look at the registry is the same. -/
theorem congr {α : Type} (h : l.Alike l') (f : Ledger → α)
    (hf : ∀ (l : Ledger) (r : Registry), f { l with registry := r } = f l) : f l' = f l := by
  rw [h.eq_withRegistry]
  exact hf l _

/-- The registry is brought in line with the same totals. -/
theorem withRow (h : l.Alike l') (holder : Address) (partition : Partition) (balance : Balance) :
    (l.withRow holder partition balance).Alike (l'.withRow holder partition balance) := by
  obtain ⟨heq, hview⟩ := h
  refine ⟨?_, ?_⟩
  · rw [heq]
    rfl
  · have hreconcile := Registry.view_reconcile hview holder partition balance.total
      (({ l with books := l.books.insert partition ((l.book partition).withRow holder balance) } :
        Ledger).holdingOf holder)
    rw [heq]
    exact hreconcile

end Alike

end Ledger

/-- Alike ledgers show the same balances. -/
theorem Holdings.ofLedger_eq {l l' : Ledger} (h : l.Alike l') :
    Holdings.ofLedger l' = Holdings.ofLedger l := by
  obtain ⟨heq, hview⟩ := h
  unfold ofLedger
  rw [Registry.allHolders_eq hview, Registry.knownPartitions_eq hview,
    funext (Registry.holders_eq hview)]
  rw [heq]
  rfl

end CouponBond
