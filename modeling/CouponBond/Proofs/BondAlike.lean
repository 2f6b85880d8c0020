import CouponBond.Bond.Command
import CouponBond.Bond.Query
import CouponBond.Proofs.LedgerAlike

/-!
# Commands and queries are blind to places

Bonds that differ in nothing but the places of their rosters answer every command and every
query the same, and stay alike.

## Main Definitions

* `Bond.Alike` — bonds that differ in nothing that can be seen

## Main Results

* `Bond.blind_execute` — commands
* `Bond.Alike.query_eq` — queries
-/

namespace CouponBond.Bond

/-- Bonds that differ in nothing but the places of their rosters. -/
structure Alike (b b' : Bond) : Prop where
  eq_withLedger : b' = { b with ledger := b'.ledger }
  ledger : b.ledger.Alike b'.ledger

namespace Alike

variable {b b' : Bond}

theorem refl (b : Bond) : b.Alike b := ⟨rfl, .refl _⟩

/-- What does not look at the registry is the same. -/
theorem congr {α : Type} (h : b.Alike b') (f : Bond → α)
    (hf : ∀ (b : Bond) (r : Registry),
      f { b with ledger := { b.ledger with registry := r } } = f b) : f b' = f b := by
  have hsame := hf b b'.ledger.registry
  rwa [← h.ledger.eq_withRegistry, ← h.eq_withLedger] at hsame

end Alike

variable {α β : Type}

/-- A change that does not see the places of rosters. -/
abbrev Blind (m : BondChange α) : Prop := Coupled Alike m m

/-! ### Parts -/

/-- What follows a look at the bond does not use the registry that it saw. -/
theorem blind_look {f : Bond → BondChange β}
    (hf : ∀ (b : Bond) (r : Registry),
      f { b with ledger := { b.ledger with registry := r } } = f b)
    (h : ∀ b, Blind (f b)) : Blind (get >>= f) :=
  .bind_get fun b _ hb => .of_eq (hb.congr f hf) (h b)

theorem blind_onLedger {m : Ledger.Mutation α} (h : Ledger.Blind m) : Blind (onLedger m) := by
  intro b b' hb
  unfold onLedger
  cases hm : m b.ledger with
  | ok a l =>
    obtain ⟨l', hm', hl⟩ := h.of_ok hb.ledger hm
    rw [hm']
    refine ⟨rfl, ?_, hl⟩
    rw [hb.eq_withLedger]
  | error e l =>
    obtain ⟨l', hm', hl⟩ := h.of_error hb.ledger hm
    rw [hm']
    refine ⟨rfl, ?_, hl⟩
    rw [hb.eq_withLedger]

theorem blind_demand (check : Except BondError α) : Blind (demand check) := by
  cases check with
  | ok a => exact .pure a
  | error e => exact .throw e

theorem blind_requireHolder (account : Address) : Blind (requireHolder account) :=
  .ite (fun _ => .throw _) fun _ => .pure _

theorem blind_requirePartition (partition : Partition) : Blind (requirePartition partition) :=
  blind_look (fun _ _ => rfl) fun _ => .ite (fun _ => .throw _) fun _ => .pure _

theorem blind_requireMatured (now : Timestamp) : Blind (requireMatured now) :=
  blind_look (fun _ _ => rfl) fun _ => .ite (fun _ => .throw _) fun _ => .pure _

theorem blind_record (now : Timestamp) (facts : List Fact) : Blind (record now facts) := by
  refine .modify fun b b' hb => ⟨?_, hb.ledger⟩
  rw [hb.eq_withLedger]

theorem blind_keep (captures : List Capture) : Blind (keep captures) := by
  intro b b' hb
  have hcommit : b'.snapshots.commit b'.actions captures =
      b.snapshots.commit b.actions captures :=
    hb.congr (fun b => b.snapshots.commit b.actions captures) fun _ _ => rfl
  unfold keep
  rw [hcommit]
  refine ⟨rfl, ?_, hb.ledger⟩
  rw [hb.eq_withLedger]

/-- The same captures are taken of alike bonds. -/
theorem Alike.captureDue_eq {b b' : Bond} (h : b.Alike b') (now : Timestamp) :
    b'.snapshots.captureDue now b'.actions b'.ledger =
      b.snapshots.captureDue now b.actions b.ledger := by
  have hdue : b'.snapshots.due now b'.actions = b.snapshots.due now b.actions :=
    h.congr (fun b => b.snapshots.due now b.actions) fun _ _ => rfl
  unfold SnapshotBook.captureDue
  rw [hdue, Holdings.ofLedger_eq h.ledger]

theorem blind_run (desk : Desk) (ctx : CommandContext) {apply : BondChange (Applied α)}
    (h : Blind apply) : Blind (run desk ctx apply) := by
  unfold run
  cases desk.guards.check ctx with
  | error e => exact fun _ _ hb => ⟨rfl, hb⟩
  | ok _ =>
    refine .bind_get fun b b' hb => ?_
    dsimp only
    rw [hb.captureDue_eq]
    refine .bind h fun answer => ?_
    refine .bind (blind_keep _) fun notices => ?_
    refine .bind (blind_record _ _) fun _ => ?_
    exact .bind (blind_record _ _) fun _ => .pure _

/-- A lookup of a record. -/
theorem blind_lookup {refusal : LedgerError} {pick : Bond → Option α}
    (hpick : ∀ (b : Bond) (r : Registry),
      pick { b with ledger := { b.ledger with registry := r } } = pick b) :
    Blind (do onLedger (Ledger.orRefuse refusal (pick (← get)))) := by
  refine blind_look (fun b r => ?_) fun b => blind_onLedger (Ledger.blind_orRefuse _ _)
  rw [hpick]

/-! ### Commands -/

variable (desk : Desk)

theorem blind_setCoupon (coupon : Coupon) : Blind (setCoupon desk coupon) := by
  refine blind_run desk _ ?_
  refine .bind (blind_demand _) fun _ => ?_
  refine .refuseIf ?_
  refine .bind_get fun b b' hb => ?_
  have happend : b'.actions.append? (.coupon coupon) = b.actions.append? (.coupon coupon) :=
    hb.congr (fun b => b.actions.append? (.coupon coupon)) fun _ _ => rfl
  rw [happend]
  refine .bind (blind_onLedger (Ledger.blind_exactly _)) fun answer => ?_
  refine .bind (.set ⟨?_, hb.ledger⟩) fun _ => .pure _
  rw [hb.eq_withLedger]

theorem blind_updateMaturityDate (date : Timestamp) : Blind (updateMaturityDate desk date) := by
  refine blind_run desk _ ?_
  refine .bind_get fun b b' hb => ?_
  have hterms : b'.terms = b.terms := hb.congr Bond.terms fun _ _ => rfl
  rw [hterms]
  cases b.terms.extend? date with
  | none => exact .throw _
  | some terms =>
    refine .bind (.set ⟨?_, hb.ledger⟩) fun _ => .pure _
    rw [hb.eq_withLedger]

theorem blind_issue (holder : Address) (partition : Partition) (amount : Amount) :
    Blind (issue desk holder partition amount) := by
  refine .bind (blind_requireHolder holder) fun _ => ?_
  refine .bind (blind_requirePartition partition) fun _ => ?_
  refine blind_run desk _ ?_
  exact .bind (blind_onLedger (Ledger.blind_issue _ _ _)) fun _ => .pure _

theorem blind_transfer (source destination : Address) (partition : Partition)
    (amount : Amount) : Blind (transfer desk source destination partition amount) := by
  refine .bind (blind_requireHolder source) fun _ => ?_
  refine .bind (blind_requireHolder destination) fun _ => ?_
  refine .bind (blind_requirePartition partition) fun _ => ?_
  refine blind_run desk _ ?_
  exact .bind (blind_onLedger (Ledger.blind_transfer _ _ _ _)) fun _ => .pure _

theorem blind_redeem (holder : Address) (partition : Partition) (amount : Amount) :
    Blind (redeem desk holder partition amount) := by
  refine .bind (blind_requireHolder holder) fun _ => ?_
  refine .bind (blind_requirePartition partition) fun _ => ?_
  refine blind_run desk _ ?_
  exact .bind (blind_onLedger (Ledger.blind_redeem _ _ _)) fun _ => .pure _

theorem blind_redeemAtMaturity (holder : Address) (partition : Partition) (amount : Amount) :
    Blind (redeemAtMaturity desk holder partition amount) := by
  refine .bind (blind_requireHolder holder) fun _ => ?_
  refine .bind (blind_requirePartition partition) fun _ => ?_
  refine blind_run desk _ ?_
  refine .bind (blind_requireMatured desk.now) fun _ => ?_
  exact .bind (blind_onLedger (Ledger.blind_redeem _ _ _)) fun _ => .pure _

theorem blind_redeemEach (holder : Address) (plan : List (Partition × Amount)) :
    Ledger.Blind (redeemEach holder plan) := by
  induction plan with
  | nil => exact .pure ()
  | cons entry rest ih => exact .bind (Ledger.blind_redeem _ _ _) fun _ => ih

theorem blind_redeemAllAtMaturity (holder : Address) :
    Blind (redeemAllAtMaturity desk holder) := by
  refine .bind (blind_requireHolder holder) fun _ => ?_
  refine blind_run desk _ ?_
  refine .bind (blind_requireMatured desk.now) fun _ => ?_
  refine blind_look (fun _ _ => rfl) fun b => ?_
  exact .bind (blind_onLedger (blind_redeemEach holder _)) fun _ => .pure _

theorem blind_lock (holder : Address) (partition : Partition) (amount : Amount)
    (expiration : Timestamp) : Blind (lock desk holder partition amount expiration) := by
  refine .bind (blind_requireHolder holder) fun _ => ?_
  refine .bind (blind_requirePartition partition) fun _ => ?_
  refine blind_run desk _ ?_
  exact .bind (blind_onLedger (Ledger.blind_lock _ _ _ _)) fun _ => .pure _

theorem blind_releaseLock (id : LockId) : Blind (releaseLock desk id) := by
  refine .bind (blind_lookup fun _ _ => rfl) fun named => ?_
  refine blind_run desk _ ?_
  exact .bind (blind_onLedger (Ledger.blind_releaseLock _ _)) fun _ => .pure _

theorem blind_createHold (holder : Address) (partition : Partition) (amount : Amount)
    (escrow : Address) (destination : Option Address) (expiration : Timestamp) :
    Blind (createHold desk holder partition amount escrow destination expiration) := by
  refine .bind (blind_requireHolder holder) fun _ => ?_
  refine .bind (blind_requireHolder escrow) fun _ => ?_
  have hrest : Blind (do
      requirePartition partition
      run desk (contextAt desk .createHold [holder] partition) do
        let id ← onLedger
          (Ledger.createHold holder partition amount escrow destination expiration)
        return (id, [.holdCreated id holder partition amount escrow])) := by
    refine .bind (blind_requirePartition partition) fun _ => ?_
    refine blind_run desk _ ?_
    exact .bind (blind_onLedger (Ledger.blind_createHold _ _ _ _ _ _)) fun _ => .pure _
  cases destination with
  | none => exact hrest
  | some account => exact .bind (blind_requireHolder account) fun _ => hrest

theorem blind_executeHold (id : HoldId) (destination : Address) (amount : Amount) :
    Blind (executeHold desk id destination amount) := by
  refine .bind (blind_requireHolder destination) fun _ => ?_
  refine .bind (blind_lookup fun _ _ => rfl) fun named => ?_
  refine blind_run desk _ ?_
  exact .bind (blind_onLedger (Ledger.blind_executeHold _ _ _ _)) fun _ => .pure _

theorem blind_releaseHold (id : HoldId) (amount : Amount) :
    Blind (releaseHold desk id amount) := by
  refine .bind (blind_lookup fun _ _ => rfl) fun named => ?_
  refine blind_run desk _ ?_
  exact .bind (blind_onLedger (Ledger.blind_releaseHold _ _)) fun _ => .pure _

theorem blind_freeze (holder : Address) (partition : Partition) (amount : Amount) :
    Blind (freeze desk holder partition amount) := by
  refine .bind (blind_requireHolder holder) fun _ => ?_
  refine .bind (blind_requirePartition partition) fun _ => ?_
  refine blind_run desk _ ?_
  exact .bind (blind_onLedger (Ledger.blind_freeze _ _ _)) fun _ => .pure _

theorem blind_unfreeze (holder : Address) (partition : Partition) (amount : Amount) :
    Blind (unfreeze desk holder partition amount) := by
  refine .bind (blind_requireHolder holder) fun _ => ?_
  refine .bind (blind_requirePartition partition) fun _ => ?_
  refine blind_run desk _ ?_
  exact .bind (blind_onLedger (Ledger.blind_unfreeze _ _ _)) fun _ => .pure _

theorem blind_createClearing (source destination : Address) (partition : Partition)
    (amount : Amount) (expiration : Timestamp) :
    Blind (createClearing desk source destination partition amount expiration) := by
  refine .bind (blind_requireHolder source) fun _ => ?_
  refine .bind (blind_requireHolder destination) fun _ => ?_
  refine .bind (blind_requirePartition partition) fun _ => ?_
  refine blind_run desk _ ?_
  exact .bind (blind_onLedger (Ledger.blind_createClearing _ _ _ _ _)) fun _ => .pure _

theorem blind_approveClearing (id : ClearingId) : Blind (approveClearing desk id) := by
  refine .bind (blind_lookup fun _ _ => rfl) fun named => ?_
  refine blind_run desk _ ?_
  exact .bind (blind_onLedger (Ledger.blind_approveClearing _ _)) fun _ => .pure _

theorem blind_cancelClearing (id : ClearingId) : Blind (cancelClearing desk id) := by
  refine .bind (blind_lookup fun _ _ => rfl) fun named => ?_
  refine blind_run desk _ ?_
  exact .bind (blind_onLedger (Ledger.blind_cancelClearing _)) fun _ => .pure _

/-- Alike bonds answer a command the same, refuse it for the same reason, and stay alike. -/
theorem blind_execute (command : Command) : Blind (execute desk command) := by
  cases command with
  | setCoupon coupon => exact .bind (blind_setCoupon desk coupon) fun _ => .pure _
  | updateMaturityDate date => exact .bind (blind_updateMaturityDate desk date) fun _ => .pure _
  | issue => exact .bind (blind_issue desk _ _ _) fun _ => .pure _
  | transfer => exact .bind (blind_transfer desk _ _ _ _) fun _ => .pure _
  | redeem => exact .bind (blind_redeem desk _ _ _) fun _ => .pure _
  | lock => exact .bind (blind_lock desk _ _ _ _) fun _ => .pure _
  | releaseLock => exact .bind (blind_releaseLock desk _) fun _ => .pure _
  | createHold => exact .bind (blind_createHold desk _ _ _ _ _ _) fun _ => .pure _
  | executeHold => exact .bind (blind_executeHold desk _ _ _) fun _ => .pure _
  | releaseHold => exact .bind (blind_releaseHold desk _ _) fun _ => .pure _
  | freeze => exact .bind (blind_freeze desk _ _ _) fun _ => .pure _
  | unfreeze => exact .bind (blind_unfreeze desk _ _ _) fun _ => .pure _
  | createClearing => exact .bind (blind_createClearing desk _ _ _ _ _) fun _ => .pure _
  | approveClearing => exact .bind (blind_approveClearing desk _) fun _ => .pure _
  | cancelClearing => exact .bind (blind_cancelClearing desk _) fun _ => .pure _
  | redeemAtMaturity => exact .bind (blind_redeemAtMaturity desk _ _ _) fun _ => .pure _
  | redeemAllAtMaturity => exact .bind (blind_redeemAllAtMaturity desk _) fun _ => .pure _

/-! ### Queries -/

section Queries

variable {b b' : Bond}

/-- A page of the holders and their number are read off the view. -/
theorem Alike.couponHolders_eq (h : b.Alike b') (now : Timestamp) (couponId : UInt64)
    (start stop : Nat) :
    b'.couponHolders now couponId start stop = b.couponHolders now couponId start stop := by
  have hslice := Registry.sliceAll_eq h.ledger.view_eq start stop
  rw [h.eq_withLedger]
  unfold couponHolders accrual Accrual.couponHolders
  dsimp only
  rw [hslice]
  rfl

theorem Alike.couponHolderCount_eq (h : b.Alike b') (now : Timestamp) (couponId : UInt64) :
    b'.couponHolderCount now couponId = b.couponHolderCount now couponId := by
  have hcount := Registry.totalCount_eq h.ledger.view_eq
  rw [h.eq_withLedger]
  unfold couponHolderCount accrual Accrual.couponHolderCount
  dsimp only
  rw [hcount]
  rfl

/-- Alike bonds answer every query the same. -/
theorem Alike.query_eq (h : b.Alike b') (now : Timestamp) (q : Query) :
    b'.query now q = b.query now q := by
  cases q with
  | couponHolders couponId start stop =>
    exact congrArg (fun r => r >>= fun holders => pure (Answer.holders holders))
      (h.couponHolders_eq now couponId start.toNat stop.toNat)
  | totalCouponHolders couponId =>
    exact congrArg (fun r => r >>= fun count => pure (Answer.count count))
      (h.couponHolderCount_eq now couponId)
  | coupon => exact h.congr (fun b => b.query now (.coupon _)) fun _ _ => rfl
  | couponFor => exact h.congr (fun b => b.query now (.couponFor _ _)) fun _ _ => rfl
  | couponAmountFor => exact h.congr (fun b => b.query now (.couponAmountFor _ _)) fun _ _ => rfl
  | couponCount => exact h.congr (fun b => b.query now .couponCount) fun _ _ => rfl
  | principalFor => exact h.congr (fun b => b.query now (.principalFor _)) fun _ _ => rfl
  | terms => exact h.congr (fun b => b.query now .terms) fun _ _ => rfl
  | balanceOf => exact h.congr (fun b => b.query now (.balanceOf _ _)) fun _ _ => rfl
  | totalBalanceOf => exact h.congr (fun b => b.query now (.totalBalanceOf _)) fun _ _ => rfl
  | totalSupply => exact h.congr (fun b => b.query now (.totalSupply _)) fun _ _ => rfl
  | snapshot => exact h.congr (fun b => b.query now (.snapshot _)) fun _ _ => rfl

end Queries

end CouponBond.Bond
