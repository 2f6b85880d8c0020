import CouponBond.Proofs.LedgerAudit
import CouponBond.Proofs.LedgerMutations

/-!
# The invariant of the ledger is inductive

The empty ledger is consistent, what the audits accept is consistent, and no mutation ends in
an inconsistent ledger, whatever its arguments are and whether it is applied or refused.

## Main Definitions

* `Ledger.Act` — a mutation with its arguments
* `Ledger.Act.after` — the ledger that an act leaves, applied or refused
* `Ledger.Accounted` — the ledgers that acts reach from an empty or audited one

## Main Results

* `Ledger.Act.allOrNothing` — an act is refused without a trace or keeps the invariant
* `Ledger.consistent_inductive` — the invariant is inductive
-/

namespace CouponBond.Ledger

open AllOrNothing

/-- A mutation of the ledger with its arguments. -/
inductive Act where
  | issue (holder : Address) (partition : Partition) (amount : Amount)
  | transfer (source destination : Address) (partition : Partition) (amount : Amount)
  | redeem (holder : Address) (partition : Partition) (amount : Amount)
  | lock (holder : Address) (partition : Partition) (amount : Amount) (expiration : Timestamp)
  | releaseLock (id : LockId) (now : Timestamp)
  | createHold (holder : Address) (partition : Partition) (amount : Amount) (escrow : Address)
      (destination : Option Address) (expiration : Timestamp)
  | executeHold (id : HoldId) (destination : Address) (amount : Amount) (now : Timestamp)
  | releaseHold (id : HoldId) (amount : Amount)
  | freeze (holder : Address) (partition : Partition) (amount : Amount)
  | unfreeze (holder : Address) (partition : Partition) (amount : Amount)
  | createClearing (source destination : Address) (partition : Partition) (amount : Amount)
      (expiration : Timestamp)
  | approveClearing (id : ClearingId) (now : Timestamp)
  | cancelClearing (id : ClearingId)

/-- A mutation without its answer. -/
def forget {α : Type} (m : Mutation α) : Mutation Unit := do
  let _ ← m

namespace Act

/-- The mutation of an act; what it answers does not matter here. -/
def mutation : Act → Mutation Unit
  | .issue holder partition amount => forget (Ledger.issue holder partition amount)
  | .transfer source destination partition amount =>
    forget (Ledger.transfer source destination partition amount)
  | .redeem holder partition amount => forget (Ledger.redeem holder partition amount)
  | .lock holder partition amount expiration =>
    forget (Ledger.lock holder partition amount expiration)
  | .releaseLock id now => forget (Ledger.releaseLock id now)
  | .createHold holder partition amount escrow destination expiration =>
    forget (Ledger.createHold holder partition amount escrow destination expiration)
  | .executeHold id destination amount now =>
    forget (Ledger.executeHold id destination amount now)
  | .releaseHold id amount => forget (Ledger.releaseHold id amount)
  | .freeze holder partition amount => forget (Ledger.freeze holder partition amount)
  | .unfreeze holder partition amount => forget (Ledger.unfreeze holder partition amount)
  | .createClearing source destination partition amount expiration =>
    forget (Ledger.createClearing source destination partition amount expiration)
  | .approveClearing id now => forget (Ledger.approveClearing id now)
  | .cancelClearing id => forget (Ledger.cancelClearing id)

/-- The ledger that an act leaves, applied or refused. -/
def after (act : Act) (l : Ledger) : Ledger :=
  match act.mutation l with
  | .ok _ l' => l'
  | .error _ l' => l'

end Act

theorem consistent_empty : empty.Consistent where
  conserved _ := rfl
  supply_le := Nat.zero_le _
  explained _ _ k _ := by cases k <;> rfl
  cleared_le _ _ := UInt64.le_refl _
  locks_numbered _ _ h := nomatch h
  holds_numbered _ _ h := nomatch h
  clearings_numbered _ _ h := nomatch h
  mem_holders_iff _ _ := ⟨fun h => (nomatch h), fun h => absurd rfl h⟩
  mem_allHolders_iff _ := ⟨fun h => (nomatch h), fun h => absurd rfl h⟩

variable {l : Ledger}

theorem allOrNothing_forget {α : Type} {m : Mutation α} {E : LedgerError → Prop}
    {Q : α → Ledger → Prop} {R : Ledger → Prop} (h : AllOrNothing m l E Q)
    (hR : ∀ a l', Q a l' → R l') :
    AllOrNothing (forget m) l (fun _ => True) fun _ l' => R l' :=
  bind_last (h.mono (fun _ _ => trivial) fun _ _ hq => hq) fun a l' hq =>
    ⟨(), l', rfl, hR a l' hq⟩

/-- An act is refused with the ledger as it was, or leaves a consistent ledger. -/
theorem Act.allOrNothing (h : l.Consistent) (act : Act) :
    AllOrNothing act.mutation l (fun _ => True) fun _ l' => l'.Consistent := by
  cases act with
  | issue holder partition amount =>
    refine allOrNothing_forget (issue_spec h holder partition amount) fun _ l' hl' => ?_
    obtain ⟨-, rfl⟩ | ⟨-, supply, balance, hsupply, hall, hbalance, rfl⟩ := hl'
    · exact h
    · exact h.mint hsupply hall hbalance
  | transfer source destination partition amount =>
    refine allOrNothing_forget (transfer_spec h source destination partition amount)
      fun _ l' hl' => ?_
    obtain ⟨havailable, ⟨-, rfl⟩ | ⟨-, hne, sender, receiver, hsender, hreceiver, rfl⟩⟩ := hl'
    · exact h
    · have htransit := (h.inTransit_zero partition).spend (h.le_of_le_available havailable) hsender
      rw [Int.zero_add] at htransit
      refine htransit.receive ?_
      rwa [balanceOf_withRow, if_neg (fun e => hne e.1.symm)]
  | redeem holder partition amount =>
    refine allOrNothing_forget (redeem_spec h holder partition amount) fun _ l' hl' => ?_
    obtain ⟨havailable, ⟨-, rfl⟩ | ⟨-, supply, balance, hsupply, hbalance, rfl⟩⟩ := hl'
    · exact h
    · exact h.burn havailable hsupply hbalance
  | lock holder partition amount expiration =>
    refine allOrNothing_forget (lock_spec h holder partition amount expiration) fun id l' hl' => ?_
    obtain ⟨-, havailable, balance, hbalance, hid, rfl⟩ := hl'
    let record : Lock := ⟨id, holder, partition, amount, expiration⟩
    exact h.setAside .lock (r := record) nofun hid havailable hbalance
  | releaseLock id now =>
    refine allOrNothing_forget (releaseLock_spec h id now) fun record l' hl' => ?_
    obtain ⟨hrecord, -, balance, hbalance, rfl⟩ := hl'
    exact h.dropLock hrecord hbalance
  | createHold holder partition amount escrow destination expiration =>
    refine allOrNothing_forget
      (createHold_spec h holder partition amount escrow destination expiration)
      fun id l' hl' => ?_
    obtain ⟨-, havailable, balance, hbalance, hid, rfl⟩ := hl'
    let record : Hold := ⟨id, holder, partition, amount, escrow, destination, expiration⟩
    exact h.setAside .hold (r := record) nofun hid havailable hbalance
  | executeHold id destination amount now =>
    refine allOrNothing_forget (executeHold_spec h id destination amount now) fun _ l' hl' => ?_
    obtain ⟨record, hrecord, -, -, -, -, sender, receiver, rest, hsender, hreceiver, hrest, rfl⟩ :=
      hl'
    exact (h.payOut hrecord hrest hsender).receive hreceiver
  | releaseHold id amount =>
    refine allOrNothing_forget (releaseHold_spec h id amount) fun _ l' hl' => ?_
    obtain ⟨record, hrecord, -, -, balance, rest, hbalance, hrest, rfl⟩ := hl'
    exact h.freeHold hrecord hrest hbalance
  | freeze holder partition amount =>
    refine allOrNothing_forget (freeze_spec h holder partition amount) fun _ l' hl' => ?_
    obtain ⟨-, havailable, balance, hbalance, rfl⟩ := hl'
    exact h.freeze havailable hbalance
  | unfreeze holder partition amount =>
    refine allOrNothing_forget (unfreeze_spec h holder partition amount) fun _ l' hl' => ?_
    obtain ⟨-, -, balance, hbalance, rfl⟩ := hl'
    exact h.unfreeze hbalance
  | createClearing source destination partition amount expiration =>
    refine allOrNothing_forget
      (createClearing_spec h source destination partition amount expiration) fun id l' hl' => ?_
    obtain ⟨-, havailable, balance, hbalance, hid, rfl⟩ := hl'
    exact h.addClearing (r := ⟨id, source, destination, partition, amount, expiration⟩) hid
      havailable hbalance
  | approveClearing id now =>
    refine allOrNothing_forget (approveClearing_spec h id now) fun record l' hl' => ?_
    obtain ⟨hrecord, -, reserved, sender, receiver, hreserved, hsender, hreceiver, rfl⟩ := hl'
    exact (h.settle hrecord hreserved hsender).receive hreceiver
  | cancelClearing id =>
    refine allOrNothing_forget (cancelClearing_spec h id) fun record l' hl' => ?_
    obtain ⟨hrecord, balance, hbalance, rfl⟩ := hl'
    exact h.dropClearing hrecord hbalance

/-- One act keeps the invariant. -/
theorem Consistent.after (h : l.Consistent) (act : Act) : (act.after l).Consistent := by
  have hact := act.allOrNothing h
  unfold Act.after
  cases hm : act.mutation l with
  | ok _ l' => exact hact.of_ok hm
  | error e l' =>
    rw [(hact.of_error hm).1]
    exact h

/-- What a mutation leaves when it answers is consistent. -/
theorem Consistent.of_ok (h : l.Consistent) {α : Type} {m : Mutation α} (act : Act)
    (hact : act.mutation = forget m) {a : α} {l' : Ledger} (hm : m l = .ok a l') :
    l'.Consistent := by
  have hdone : act.mutation l = .ok () l' := by
    rw [hact]
    exact bind_ok hm
  exact (act.allOrNothing h).of_ok hdone

/-- The ledgers that acts reach from the empty ledger or from one that the audits accept. -/
inductive Accounted : Ledger → Prop where
  | empty : Accounted empty
  | audited {l : Ledger} : l.auditSupply = .ok () → l.auditRecords = .ok () → Accounted l
  | after {l : Ledger} (act : Act) : Accounted l → Accounted (act.after l)

/-- Every ledger that acts reach is consistent. -/
theorem Accounted.consistent (h : Accounted l) : l.Consistent := by
  induction h with
  | empty => exact consistent_empty
  | audited hsupply hrecords => exact audits_iff_consistent.mp ⟨hsupply, hrecords⟩
  | after act _ ih => exact ih.after act

/-- The invariant holds of the empty ledger and of every ledger that the audits accept, and
every act keeps it, applied or refused. -/
theorem consistent_inductive :
    empty.Consistent ∧
    (∀ l : Ledger, l.auditSupply = .ok () → l.auditRecords = .ok () → l.Consistent) ∧
    ∀ l : Ledger, l.Consistent → ∀ act : Act, (act.after l).Consistent :=
  ⟨consistent_empty, fun _ hsupply hrecords => audits_iff_consistent.mp ⟨hsupply, hrecords⟩,
    fun _ h act => h.after act⟩

/-- A ledger with ten units and a lock on four of them passes the audits; seven units can not be
redeemed from it, and it stays consistent. -/
theorem consistent_after_refused_redemption :
    let l := (Act.lock (.ofLow 7) .default 4 100).after
      ((Act.issue (.ofLow 7) .default 10).after empty)
    l.auditSupply = .ok () ∧ l.auditRecords = .ok () ∧ l.Consistent ∧
      ((Act.redeem (.ofLow 7) .default 7).after l).Consistent := by
  intro l
  have hsupply : l.auditSupply = .ok () := by decide
  have hrecords : l.auditRecords = .ok () := by decide
  have h : l.Consistent := consistent_inductive.2.1 l hsupply hrecords
  exact ⟨hsupply, hrecords, h, consistent_inductive.2.2 l h _⟩

end CouponBond.Ledger
