import CouponBond.Proofs.LedgerArithmetic
import CouponBond.Proofs.RecordSteps

/-!
# What is paid from one account to another

Three mutations pay units of one account to another: a transfer, the execution of a hold and the
approval of a clearing.  A transfer reads both rows before it writes one of them, the other two
read the row of the receiver after the row of the payer was written, when it may have been
dropped.  What they do is the same nevertheless: a debit of the payer and a credit of the
receiver, which both count when the two are one account.

Postings add up, bucket by bucket, in whatever row they are booked.  So one account that pays
itself is no case of its own here, except for the transfer that is not carried out.

## Main Definitions

* `Ledger.Pays` — units leave buckets of one account and arrive among the free units of another
* `Ledger.DrawsHold`, `Ledger.EndsClearing` — one record is used up, the others are as they were

## Main Results

* `Ledger.pays_of_posts` — two rows that are written as postings say
* `Ledger.Consistent.payments_exact` — the three mutations
-/

namespace CouponBond

/-! ### Debits of several buckets -/

namespace Posting

/-- Units are taken out of several buckets of an account. -/
def debits (account : Address) (partition : Partition) (taken : List Bucket) (units : Amount) :
    List Posting :=
  taken.map fun k => ⟨account, partition, .debit k units⟩

theorem sum_gain_debits {account : Address} {partition : Partition} {taken : List Bucket}
    (hnodup : taken.Nodup) (units : Amount) (a : Address) (q : Partition) (k : Bucket) :
    ((debits account partition taken units).map (gain a q k)).sum =
      -(if a = account ∧ q = partition ∧ k ∈ taken then units.toNat else 0 : Nat) := by
  induction taken with
  | nil => simp [debits]
  | cons t rest ih =>
    obtain ⟨hfresh, hrest⟩ := List.nodup_cons.mp hnodup
    have hlater := ih hrest
    simp only [debits, List.map_cons, List.sum_cons] at hlater ⊢
    rw [hlater]
    by_cases hrow : account = a ∧ partition = q
    · obtain ⟨rfl, rfl⟩ := hrow
      by_cases hk : k = t
      · subst hk
        simp [gain, Entry.gain, hfresh]
      · simp [gain, Entry.gain, hk]
    · have hother : ¬ (a = account ∧ q = partition) := fun e => hrow ⟨e.1.symm, e.2.symm⟩
      simp only [gain, if_neg hrow, ← and_assoc, hother, false_and, if_false]
      rfl

end Posting

namespace Ledger

variable {l l₁ l' : Ledger} {source destination : Address} {partition : Partition}
  {taken : List Bucket} {units : Amount}

/-! ### Payments -/

/-- Units of the source leave some of its buckets and arrive among the free units of the
destination.  If the two are one account, both count.  No other row changes, and no supply. -/
structure Pays (l : Ledger) (source destination : Address) (partition : Partition)
    (taken : List Bucket) (units : Amount) (l' : Ledger) : Prop where
  buckets : ∀ a q k, (((l'.balanceOf a q).get k).toNat : Int) =
    ((l.balanceOf a q).get k).toNat -
      (if a = source ∧ q = partition ∧ k ∈ taken then units.toNat else 0 : Nat) +
      (if a = destination ∧ q = partition ∧ k = .free then units.toNat else 0 : Nat)
  /-- Whether a row is kept at all does not change either. -/
  rows : ∀ a q, ¬ (q = partition ∧ (a = source ∨ a = destination)) →
    (l'.book q).balances.get? a = (l.book q).balances.get? a
  supply : ∀ q, l'.totalSupply q = l.totalSupply q
  supplyAll : l'.totalSupplyAll = l.totalSupplyAll

/-- A payment that is posted as debits and a credit, and written as two rows. -/
theorem pays_of_posts {sender receiver : Balance}
    (h : l.Posts (Posting.debits source partition taken units ++
        [⟨destination, partition, .credit .free units⟩])
      ((l₁.withRow source partition sender).withRow destination partition receiver))
    (hnodup : taken.Nodup) (hbooks : l₁.books = l.books) :
    l.Pays source destination partition taken units
      ((l₁.withRow source partition sender).withRow destination partition receiver) := by
  refine ⟨fun a q k => ?_, fun a q hrow => ?_, fun q => ?_, ?_⟩
  · have hcredit : Posting.gain a q k ⟨destination, partition, .credit .free units⟩ =
        (if a = destination ∧ q = partition ∧ k = .free then units.toNat else 0 : Nat) := by
      simp only [Posting.gain, Entry.gain]
      grind
    rw [h.toNat_get, List.map_append, List.sum_append, Posting.sum_gain_debits hnodup,
      List.map_singleton, List.sum_singleton, hcredit]
    omega
  · rw [get?_balances_withRow_of_ne _ _ _ _ (fun e => hrow ⟨e.2, .inr e.1⟩),
      get?_balances_withRow_of_ne _ _ _ _ (fun e => hrow ⟨e.2, .inl e.1⟩), book, book, hbooks]
  · rw [totalSupply_withRow, totalSupply_withRow, totalSupply, totalSupply, book, book, hbooks]
  · rw [totalSupplyAll_withRow, totalSupplyAll_withRow, totalSupplyAll, totalSupplyAll, hbooks]

/-- Free units that an account pays to itself, and payments of nothing, change nothing. -/
theorem pays_self (hidle : units = 0 ∨ source = destination) :
    l.Pays source destination partition [.free] units l := by
  refine ⟨fun a q k => ?_, fun _ _ _ => rfl, fun _ => rfl, rfl⟩
  obtain rfl | rfl := hidle
  · simp
  · simp only [List.mem_singleton]
    omega

/-! ### Records that are used up -/

/-- Units are taken from an open hold, which is dropped when none are left. -/
structure DrawsHold (l : Ledger) (id : HoldId) (record : Hold) (units : Amount) (l' : Ledger) :
    Prop where
  found : l.holds.get? id = some record
  drawn : ∃ rest : Amount, rest.toNat + units.toNat = record.amount.toNat ∧
    l'.holds.get? id = if rest = 0 then none else some { record with amount := rest }
  others : ∀ other ≠ id, l'.holds.get? other = l.holds.get? other
  counter : l'.holdCounter = l.holdCounter
  locks : l'.lockDocket = l.lockDocket
  clearings : l'.clearingDocket = l.clearingDocket

/-- An open clearing is dropped. -/
structure EndsClearing (l : Ledger) (id : ClearingId) (record : Clearing) (l' : Ledger) :
    Prop where
  found : l.clearings.get? id = some record
  ended : l'.clearings.get? id = none
  others : ∀ other ≠ id, l'.clearings.get? other = l.clearings.get? other
  counter : l'.clearingCounter = l.clearingCounter
  locks : l'.lockDocket = l.lockDocket
  holds : l'.holdDocket = l.holdDocket

theorem get?_holds_withHoldRest (l : Ledger) (id : HoldId) (record : Hold) (rest : Amount)
    (other : HoldId) :
    (l.withHoldRest id record rest).holds.get? other =
      if other = id then if rest = 0 then none else some { record with amount := rest }
      else l.holds.get? other := by
  unfold withHoldRest
  by_cases hzero : rest = 0 <;> simp [hzero, SortedMap.get?_erase, SortedMap.get?_insert, rank_inj]

/-! ### The three mutations -/

theorem pays_transfer (h : l.Consistent)
    (hl' : Ledger.transfer source destination partition units l = .ok () l') :
    l.Pays source destination partition [.free] units l' ∧ l.SameRecords l' := by
  obtain ⟨-, ⟨hidle, rfl⟩ | ⟨-, hne, sender, receiver, hsender, hreceiver, rfl⟩⟩ :=
    (transfer_spec h source destination partition units).of_ok hl'
  · exact ⟨pays_self hidle, .refl _⟩
  · exact ⟨pays_of_posts (posts_transfer hne hsender hreceiver) (List.nodup_singleton _) rfl,
      (sameRecords_withRow _ _ _ _).trans (sameRecords_withRow _ _ _ _)⟩

theorem pays_executeHold (h : l.Consistent) {id : HoldId} {now : Timestamp}
    (hl' : Ledger.executeHold id destination units now l = .ok () l') :
    ∃ record, l.Pays record.holder destination record.partition [.held] units l' ∧
      l.DrawsHold id record units l' := by
  obtain ⟨record, hrecord, -, -, -, -, sender, receiver, rest, hsender, hreceiver, hrest, rfl⟩ :=
    (executeHold_spec h id destination units now).of_ok hl'
  have hdrawn := get?_holds_withHoldRest l id record rest
  have hsum := Unsigned.toNat_of_sub? hrest
  refine ⟨record, pays_of_posts (posts_payment (fun _ _ => rfl) hsender hreceiver)
    (List.nodup_singleton _) rfl, hrecord, ⟨rest, by omega, ?_⟩, fun other hother => ?_,
    rfl, rfl, rfl⟩
  · exact (hdrawn id).trans (if_pos rfl)
  · exact (hdrawn other).trans (if_neg hother)

theorem pays_approveClearing (h : l.Consistent) {id : ClearingId} {now : Timestamp}
    {record : Clearing} (hl' : Ledger.approveClearing id now l = .ok record l') :
    l.Pays record.source record.destination record.partition [.cleared, .free] record.amount
      l' ∧ l.EndsClearing id record l' := by
  obtain ⟨hrecord, -, reserved, sender, receiver, hreserved, hsender, hreceiver, rfl⟩ :=
    (approveClearing_spec h id now).of_ok hl'
  refine ⟨pays_of_posts (posts_settlement (fun _ _ => rfl) hreserved hsender hreceiver)
    (by decide) rfl, hrecord, ?_, fun other hother => ?_, rfl, rfl, rfl⟩
  · exact (SortedMap.get?_erase _ _ _).trans (if_pos rfl)
  · exact (SortedMap.get?_erase _ _ _).trans (if_neg fun e => hother (rank_injective e))

/-- A transfer takes free units, the execution of a hold takes held ones, and the approval of a
clearing takes reserved ones out of the free ones.  All three pay them to the destination, which
may be the account that they are taken from, and use up no record but their own. -/
theorem Consistent.payments_exact (h : l.Consistent) :
    (∀ source destination partition units l',
      Ledger.transfer source destination partition units l = .ok () l' →
        l.Pays source destination partition [.free] units l' ∧ l.SameRecords l') ∧
    (∀ id destination units now l', executeHold id destination units now l = .ok () l' →
      ∃ record, l.Pays record.holder destination record.partition [.held] units l' ∧
        l.DrawsHold id record units l') ∧
    (∀ id now record l', approveClearing id now l = .ok record l' →
      l.Pays record.source record.destination record.partition [.cleared, .free] record.amount
        l' ∧ l.EndsClearing id record l') :=
  ⟨fun _ _ _ _ _ => pays_transfer h, fun _ _ _ _ _ => pays_executeHold h,
    fun _ _ _ _ => pays_approveClearing h⟩

/-- Of ten units three are held, and two are reserved for a transfer of the holder to itself. -/
def ownSample : Ledger :=
  empty
    |> Act.after (.issue (.ofLow 7) .default 10)
    |> Act.after (.createHold (.ofLow 7) .default 3 (.ofLow 9) none 200)
    |> Act.after (.createClearing (.ofLow 7) (.ofLow 7) .default 2 300)

/-- The holder pays itself in each of the three ways: four free units stay where they are, the
three held ones come free, and the two reserved ones are reserved no longer. -/
theorem own_payments_exact :
    (∃ l', Ledger.transfer (.ofLow 7) (.ofLow 7) .default 4 ownSample = .ok () l' ∧
      l'.balanceOf (.ofLow 7) .default = ⟨7, 0, 3, 0, 2⟩ ∧
      ownSample.Pays (.ofLow 7) (.ofLow 7) .default [.free] 4 l' ∧ ownSample.SameRecords l') ∧
    (∃ l', executeHold 1 (.ofLow 7) 3 199 ownSample = .ok () l' ∧
      l'.balanceOf (.ofLow 7) .default = ⟨10, 0, 0, 0, 2⟩ ∧
      ∃ record, ownSample.Pays record.holder (.ofLow 7) record.partition [.held] 3 l' ∧
        ownSample.DrawsHold 1 record 3 l') ∧
    (∃ l', approveClearing 1 299 ownSample =
        .ok ⟨1, .ofLow 7, .ofLow 7, .default, 2, 300⟩ l' ∧
      l'.balanceOf (.ofLow 7) .default = ⟨7, 0, 3, 0, 0⟩ ∧
      ownSample.Pays (.ofLow 7) (.ofLow 7) .default [.cleared, .free] 2 l' ∧
      ownSample.EndsClearing 1 ⟨1, .ofLow 7, .ofLow 7, .default, 2, 300⟩ l') := by
  have hconsistent : ownSample.Consistent :=
    ((consistent_empty.after _).after _).after _
  have hexecuted : executeHold 1 (.ofLow 7) 3 199 ownSample =
      .ok () ((Act.executeHold 1 (.ofLow 7) 3 199).after ownSample) := rfl
  have happroved : approveClearing 1 299 ownSample = .ok ⟨1, .ofLow 7, .ofLow 7, .default, 2, 300⟩
      ((Act.approveClearing 1 299).after ownSample) := rfl
  obtain ⟨htransfer, hexecute, happrove⟩ := hconsistent.payments_exact
  exact ⟨⟨ownSample, rfl, by decide, htransfer _ _ _ _ _ rfl⟩,
    ⟨_, hexecuted, by decide, hexecute _ _ _ _ _ hexecuted⟩,
    ⟨_, happroved, by decide, happrove _ _ _ _ happroved⟩⟩

end Ledger

end CouponBond
