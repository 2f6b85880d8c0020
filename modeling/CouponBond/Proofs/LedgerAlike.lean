import CouponBond.Proofs.Coupled
import CouponBond.Proofs.RegistryView

/-!
# Mutations are blind to places

Every mutation of the ledger answers the same on alike ledgers, is refused with the same error,
and leaves alike ledgers.

## Main Definitions

* `Ledger.Blind` — a mutation that does not see the places of rosters

## Main Results

* `Ledger.blind_issue`, `Ledger.blind_transfer`, … — one statement per mutation
-/

namespace CouponBond.Ledger

variable {α β : Type}

/-- A mutation that does not see the places of rosters. -/
abbrev Blind (m : Mutation α) : Prop := Coupled Alike m m

/-! ### Parts -/

/-- What follows a look at the ledger does not use the registry that it saw. -/
theorem blind_look {f : Ledger → Mutation β}
    (hf : ∀ (l : Ledger) (r : Registry), f { l with registry := r } = f l)
    (h : ∀ l, Blind (f l)) : Blind (get >>= f) :=
  .bind_get fun l _ hl => .of_eq (hl.congr f hf) (h l)

theorem blind_orRefuse (refusal : LedgerError) (o : Option α) : Blind (orRefuse refusal o) := by
  cases o with
  | some a => exact .pure a
  | none => exact .throw refusal

theorem blind_exactly (o : Option α) : Blind (exactly o) := blind_orRefuse .outOfRange o

theorem blind_requirePositive (amount : Amount) : Blind (requirePositive amount) :=
  .ite (fun _ => .throw _) fun _ => .pure _

theorem blind_requireAvailable (holder : Address) (partition : Partition) (balance : Balance)
    (amount : Amount) : Blind (requireAvailable holder partition balance amount) :=
  .ite (fun _ => .throw _) fun _ => .pure _

theorem blind_writeRow (holder : Address) (partition : Partition) (balance : Balance) :
    Blind (writeRow holder partition balance) :=
  .modify fun _ _ hl => hl.withRow holder partition balance

/-- A change of what is not the registry. -/
theorem blind_modify {g : Ledger → Ledger}
    (hg : ∀ (l : Ledger) (r : Registry), g { l with registry := r } = { g l with registry := r }) :
    Blind (modify g) := by
  refine .modify fun l l' hl => ⟨?_, ?_⟩
  · rw [hl.eq_withRegistry, hg]
  · have hkeeps : ∀ l : Ledger, (g l).registry = l.registry := by
      intro l
      have hsame := congrArg Ledger.registry (hg l l.registry)
      exact hsame
    rw [hkeeps, hkeeps]
    exact hl.view_eq

/-! ### Issue, transfer, redemption -/

theorem blind_issue (holder : Address) (partition : Partition) (amount : Amount) :
    Blind (issue holder partition amount) := by
  refine .ite (fun _ => .pure _) fun _ => ?_
  refine blind_look (fun _ _ => rfl) fun l => ?_
  refine .bind (blind_orRefuse _ _) fun supply => ?_
  refine .refuseIf ?_
  refine .bind (blind_exactly _) fun balance => ?_
  refine .bind (blind_modify fun _ _ => rfl) fun _ => ?_
  exact blind_writeRow holder partition balance

theorem blind_transfer (source destination : Address) (partition : Partition)
    (amount : Amount) : Blind (transfer source destination partition amount) := by
  refine blind_look (fun _ _ => rfl) fun l => ?_
  refine .bind (blind_requireAvailable _ _ _ _) fun _ => ?_
  refine .ite (fun _ => .pure _) fun _ => ?_
  refine .bind (blind_exactly _) fun sender => ?_
  refine .bind (blind_exactly _) fun receiver => ?_
  refine .bind (blind_writeRow source partition sender) fun _ => ?_
  exact blind_writeRow destination partition receiver

theorem blind_redeem (holder : Address) (partition : Partition) (amount : Amount) :
    Blind (redeem holder partition amount) := by
  refine blind_look (fun _ _ => rfl) fun l => ?_
  refine .bind (blind_requireAvailable _ _ _ _) fun _ => ?_
  refine .ite (fun _ => .pure _) fun _ => ?_
  refine .bind (blind_exactly _) fun balance => ?_
  refine .bind (blind_exactly _) fun supply => ?_
  refine .bind (blind_modify fun _ _ => rfl) fun _ => ?_
  exact blind_writeRow holder partition balance

/-! ### Encumbrances -/

theorem blind_lock (holder : Address) (partition : Partition) (amount : Amount)
    (expiration : Timestamp) : Blind (lock holder partition amount expiration) := by
  refine blind_look (fun _ _ => rfl) fun l => ?_
  refine .bind (blind_requirePositive amount) fun _ => ?_
  refine .bind (blind_requireAvailable _ _ _ _) fun _ => ?_
  refine .bind (blind_exactly _) fun balance => ?_
  refine .bind (blind_exactly _) fun id => ?_
  refine .bind (blind_modify fun _ _ => rfl) fun _ => ?_
  exact .bind (blind_writeRow holder partition balance) fun _ => .pure id

theorem blind_releaseLock (id : LockId) (now : Timestamp) : Blind (releaseLock id now) := by
  refine blind_look (fun _ _ => rfl) fun l => ?_
  refine .bind (blind_orRefuse _ _) fun record => ?_
  refine .refuseIf ?_
  refine .bind (blind_exactly _) fun balance => ?_
  refine .bind (blind_modify fun _ _ => rfl) fun _ => ?_
  exact .bind (blind_writeRow _ _ balance) fun _ => .pure record

theorem blind_createHold (holder : Address) (partition : Partition) (amount : Amount)
    (escrow : Address) (destination : Option Address) (expiration : Timestamp) :
    Blind (createHold holder partition amount escrow destination expiration) := by
  refine blind_look (fun _ _ => rfl) fun l => ?_
  refine .bind (blind_requirePositive amount) fun _ => ?_
  refine .bind (blind_requireAvailable _ _ _ _) fun _ => ?_
  refine .bind (blind_exactly _) fun balance => ?_
  refine .bind (blind_exactly _) fun id => ?_
  refine .bind (blind_modify fun _ _ => rfl) fun _ => ?_
  exact .bind (blind_writeRow holder partition balance) fun _ => .pure id

theorem blind_coveringHold (id : HoldId) (amount : Amount) : Blind (coveringHold id amount) := by
  refine .bind (blind_requirePositive amount) fun _ => ?_
  refine blind_look (fun _ _ => rfl) fun l => ?_
  refine .bind (blind_orRefuse _ _) fun record => ?_
  exact .refuseIf (.pure record)

theorem blind_consumeHold (id : HoldId) (record : Hold) (amount : Amount) :
    Blind (consumeHold id record amount) :=
  .bind (blind_exactly _) fun _ => blind_modify fun _ _ => rfl

theorem blind_executeHold (id : HoldId) (destination : Address) (amount : Amount)
    (now : Timestamp) : Blind (executeHold id destination amount now) := by
  refine .bind (blind_coveringHold id amount) fun record => ?_
  refine .refuseIf ?_
  have hpay : Blind (do
      let sender ← exactly
        (((← get).balanceOf record.holder record.partition).debit? .held amount)
      writeRow record.holder record.partition sender
      let receiver ← exactly
        (((← get).balanceOf destination record.partition).credit? .free amount)
      writeRow destination record.partition receiver
      consumeHold id record amount : Mutation Unit) := by
    refine blind_look (fun _ _ => rfl) fun l => ?_
    refine .bind (blind_exactly _) fun sender => ?_
    refine .bind (blind_writeRow _ _ sender) fun _ => ?_
    refine blind_look (fun _ _ => rfl) fun l => ?_
    refine .bind (blind_exactly _) fun receiver => ?_
    refine .bind (blind_writeRow _ _ receiver) fun _ => ?_
    exact blind_consumeHold id record amount
  cases record.destination with
  | none => exact hpay
  | some expected => exact .refuseUnless hpay

theorem blind_releaseHold (id : HoldId) (amount : Amount) : Blind (releaseHold id amount) := by
  refine .bind (blind_coveringHold id amount) fun record => ?_
  refine blind_look (fun _ _ => rfl) fun l => ?_
  refine .bind (blind_exactly _) fun balance => ?_
  refine .bind (blind_writeRow _ _ balance) fun _ => ?_
  exact blind_consumeHold id record amount

theorem blind_freeze (holder : Address) (partition : Partition) (amount : Amount) :
    Blind (freeze holder partition amount) := by
  refine blind_look (fun _ _ => rfl) fun l => ?_
  refine .bind (blind_requirePositive amount) fun _ => ?_
  refine .bind (blind_requireAvailable _ _ _ _) fun _ => ?_
  exact .bind (blind_exactly _) fun balance => blind_writeRow holder partition balance

theorem blind_unfreeze (holder : Address) (partition : Partition) (amount : Amount) :
    Blind (unfreeze holder partition amount) := by
  refine blind_look (fun _ _ => rfl) fun l => ?_
  refine .bind (blind_requirePositive amount) fun _ => ?_
  refine .refuseIf ?_
  exact .bind (blind_exactly _) fun balance => blind_writeRow holder partition balance

theorem blind_createClearing (source destination : Address) (partition : Partition)
    (amount : Amount) (expiration : Timestamp) :
    Blind (createClearing source destination partition amount expiration) := by
  refine blind_look (fun _ _ => rfl) fun l => ?_
  refine .bind (blind_requirePositive amount) fun _ => ?_
  refine .bind (blind_requireAvailable _ _ _ _) fun _ => ?_
  refine .bind (blind_exactly _) fun balance => ?_
  refine .bind (blind_exactly _) fun id => ?_
  refine .bind (blind_modify fun _ _ => rfl) fun _ => ?_
  exact .bind (blind_writeRow source partition balance) fun _ => .pure id

theorem blind_approveClearing (id : ClearingId) (now : Timestamp) :
    Blind (approveClearing id now) := by
  refine blind_look (fun _ _ => rfl) fun l => ?_
  refine .bind (blind_orRefuse _ _) fun record => ?_
  refine .refuseIf ?_
  refine .bind (blind_exactly _) fun sender => ?_
  refine .bind (blind_modify fun _ _ => rfl) fun _ => ?_
  refine .bind (blind_writeRow _ _ sender) fun _ => ?_
  refine blind_look (fun _ _ => rfl) fun l => ?_
  refine .bind (blind_exactly _) fun receiver => ?_
  exact .bind (blind_writeRow _ _ receiver) fun _ => .pure record

theorem blind_cancelClearing (id : ClearingId) : Blind (cancelClearing id) := by
  refine blind_look (fun _ _ => rfl) fun l => ?_
  refine .bind (blind_orRefuse _ _) fun record => ?_
  refine .bind (blind_exactly _) fun balance => ?_
  refine .bind (blind_modify fun _ _ => rfl) fun _ => ?_
  exact .bind (blind_writeRow _ _ balance) fun _ => .pure record

end CouponBond.Ledger
