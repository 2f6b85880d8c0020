import CouponBond.Bond.Command
import CouponBond.Proofs.AllOrNothing

/-!
# What a command is refused with

A command is refused for its dates and figures, by the guards, for its accounts and its partition,
or by the ledger.  Whatever bond it is given to, it is never refused for what only a question, a
configuration or a saved state can be refused for.

## Main Definitions

* `RefusedOnly` — refusals of a kind
* `BondError.OfCommand` — the refusals of commands

## Main Results

* `RefusedOnly.bind` — the rule for sequences
* `Bond.judged_execute` — commands
-/

namespace CouponBond

variable {ε σ α β : Type}

/-- Whatever state a computation starts from, its refusals are of one kind. -/
def RefusedOnly (E : ε → Prop) (m : EStateM ε σ α) : Prop := ∀ s e t, m s = .error e t → E e

namespace RefusedOnly

variable {E : ε → Prop} {m : EStateM ε σ α} {f : α → EStateM ε σ β}

theorem pure (a : α) : RefusedOnly E (Pure.pure a : EStateM ε σ α) := nofun

theorem throw {e : ε} (h : E e) : RefusedOnly E (MonadExcept.throw e : EStateM ε σ α) := by
  rintro s _ _ ⟨⟩
  exact h

theorem bind (hm : RefusedOnly E m) (hf : ∀ a, RefusedOnly E (f a)) : RefusedOnly E (m >>= f) := by
  intro s e t h
  cases hms : m s with
  | ok a s' =>
    rw [AllOrNothing.bind_ok hms] at h
    exact hf a s' e t h
  | error e' s' =>
    rw [AllOrNothing.bind_error hms] at h
    cases h
    exact hm s _ _ hms

/-- What follows a look at the state. -/
theorem bind_get {f : σ → EStateM ε σ β} (h : ∀ s, RefusedOnly E (f s)) :
    RefusedOnly E (get >>= f) := fun s => h s s

theorem ite {c : Prop} [Decidable c] {m' : EStateM ε σ α} (hpos : c → RefusedOnly E m)
    (hneg : ¬ c → RefusedOnly E m') : RefusedOnly E (if c then m else m') := by
  split
  · next h => exact hpos h
  · next h => exact hneg h

/-- A condition that is refused before anything else. -/
theorem refuseIf {c : Prop} [Decidable c] {e : ε} {k : PUnit → EStateM ε σ β} (he : E e)
    (hk : RefusedOnly E (k ())) :
    RefusedOnly E (if c then MonadExcept.throw e >>= k else k ()) := by
  refine ite (fun _ => ?_) fun _ => hk
  rintro s _ _ ⟨⟩
  exact he

end RefusedOnly

/-- The refusals of commands: for what stands in them, by the guards, and by the ledger. -/
inductive BondError.OfCommand : BondError → Prop where
  | dates (cause : DateError) : OfCommand (.dates cause)
  | rateDecimalsOutOfRange (rateDecimals greatest : Decimals) :
    OfCommand (.rateDecimalsOutOfRange rateDecimals greatest)
  | maturityDateWrong (maturityDate requested : Timestamp) :
    OfCommand (.maturityDateWrong maturityDate requested)
  | zeroAddressNotAllowed : OfCommand .zeroAddressNotAllowed
  | partitionNotAllowed (partition : Partition) : OfCommand (.partitionNotAllowed partition)
  | guarded (cause : GuardError) : OfCommand (.guarded cause)
  | ledger (cause : LedgerError) : OfCommand (.ledger cause)

namespace Bond

/-- A change whose refusals are those of commands. -/
abbrev Judged (m : BondChange α) : Prop := RefusedOnly BondError.OfCommand m

/-! ### Parts -/

theorem judged_onLedger (m : Ledger.Mutation α) : Judged (onLedger m) := by
  intro b e t h
  unfold onLedger at h
  split at h
  · cases h
  · cases h
    exact .ledger _

theorem judged_requireHolder (account : Address) : Judged (requireHolder account) :=
  .ite (fun _ => .throw .zeroAddressNotAllowed) fun _ => .pure _

theorem judged_requirePartition (partition : Partition) : Judged (requirePartition partition) :=
  .bind_get fun _ => .ite (fun _ => .throw (.partitionNotAllowed _)) fun _ => .pure _

theorem judged_requireMatured (now : Timestamp) : Judged (requireMatured now) :=
  .bind_get fun _ => .ite (fun _ => .throw (.maturityDateWrong _ _)) fun _ => .pure _

theorem judged_checkDates (coupon : Coupon) (now : Timestamp) :
    Judged (demand (match coupon.checkDates now with
      | .ok () => .ok ()
      | .error e => .error (.dates e))) := by
  cases coupon.checkDates now with
  | ok _ => exact .pure _
  | error e => exact .throw (.dates e)

theorem judged_run (desk : Desk) (ctx : CommandContext) {apply : BondChange (Applied α)}
    (h : Judged apply) : Judged (run desk ctx apply) := by
  have hkeep : ∀ captures, Judged (keep captures) := by
    intro captures b e t hrefused
    unfold keep at hrefused
    cases hrefused
  have hrecord : ∀ facts, Judged (record desk.now facts) := by
    intro facts b e t hrefused
    unfold record at hrefused
    cases hrefused
  unfold run
  cases desk.guards.check ctx with
  | error e =>
    rintro b _ _ ⟨⟩
    exact .guarded e
  | ok _ =>
    refine .bind_get fun b => .bind h fun answer => ?_
    refine .bind (hkeep _) fun notices => ?_
    exact .bind (hrecord _) fun _ => .bind (hrecord _) fun _ => .pure _

/-- A mutation of the ledger on the path of all changes. -/
theorem judged_mutate (desk : Desk) (ctx : CommandContext) (m : Ledger.Mutation α) (answer : α → β)
    (facts : α → List Fact) :
    Judged (run desk ctx do
      let a ← onLedger m
      return (answer a, facts a)) :=
  judged_run desk ctx (.bind (judged_onLedger m) fun _ => .pure _)

/-- A command on the units of a partition. -/
theorem judged_inPartition (desk : Desk) (ctx : CommandContext) (holder : Address)
    (partition : Partition) (m : Ledger.Mutation α) (answer : α → β) (facts : α → List Fact) :
    Judged (do
      requireHolder holder
      requirePartition partition
      run desk ctx do
        let a ← onLedger m
        return (answer a, facts a)) := by
  refine .bind (judged_requireHolder holder) fun _ => ?_
  exact .bind (judged_requirePartition partition) fun _ => judged_mutate desk ctx m answer facts

/-- A command on a record. -/
theorem judged_onRecord {ρ : Type} (desk : Desk) (ctx : ρ → CommandContext)
    (refusal : LedgerError) (pick : Bond → Option ρ) (m : Ledger.Mutation α) (answer : α → β)
    (facts : ρ → α → List Fact) :
    Judged ((do onLedger (Ledger.orRefuse refusal (pick (← get)))) >>= fun named =>
      run desk (ctx named) do
        let a ← onLedger m
        return (answer a, facts named a)) := by
  refine .bind (.bind_get fun _ => judged_onLedger _) fun named => ?_
  exact judged_mutate desk (ctx named) m answer (facts named)

/-- An answer that is put into other words. -/
theorem judged_map {m : BondChange α} {g : α → β} (h : Judged m) :
    Judged (m >>= fun a => pure (g a)) := .bind h fun _ => .pure _

/-! ### Commands -/

variable (desk : Desk)

theorem judged_setCoupon (coupon : Coupon) : Judged (setCoupon desk coupon) := by
  refine judged_run desk _ ?_
  refine .bind (judged_checkDates coupon desk.now) fun _ => ?_
  refine .refuseIf (.rateDecimalsOutOfRange _ _) ?_
  refine .bind_get fun b => ?_
  refine .bind (judged_onLedger _) fun _ => ?_
  exact fun _ _ _ => nofun

theorem judged_updateMaturityDate (date : Timestamp) : Judged (updateMaturityDate desk date) := by
  refine judged_run desk _ ?_
  refine .bind_get fun b => ?_
  cases b.terms.extend? date with
  | none => exact .throw (.maturityDateWrong _ _)
  | some terms => exact fun _ _ _ => nofun

theorem judged_redeemAtMaturity (holder : Address) (partition : Partition) (amount : Amount) :
    Judged (redeemAtMaturity desk holder partition amount) := by
  refine .bind (judged_requireHolder holder) fun _ => ?_
  refine .bind (judged_requirePartition partition) fun _ => ?_
  refine judged_run desk _ ?_
  refine .bind (judged_requireMatured desk.now) fun _ => ?_
  exact .bind (judged_onLedger _) fun _ => .pure _

theorem judged_redeemAllAtMaturity (holder : Address) :
    Judged (redeemAllAtMaturity desk holder) := by
  refine .bind (judged_requireHolder holder) fun _ => ?_
  refine judged_run desk _ ?_
  refine .bind (judged_requireMatured desk.now) fun _ => ?_
  exact .bind_get fun _ => .bind (judged_onLedger _) fun _ => .pure _

theorem judged_createHold (holder : Address) (partition : Partition) (amount : Amount)
    (escrow : Address) (destination : Option Address) (expiration : Timestamp) :
    Judged (createHold desk holder partition amount escrow destination expiration) := by
  refine .bind (judged_requireHolder holder) fun _ => ?_
  refine .bind (judged_requireHolder escrow) fun _ => ?_
  cases destination with
  | none => exact .bind (judged_requirePartition partition) fun _ => judged_mutate desk _ _ _ _
  | some account =>
    refine .bind (judged_requireHolder account) fun _ => ?_
    exact .bind (judged_requirePartition partition) fun _ => judged_mutate desk _ _ _ _

/-- A command is refused for what stands in it, by the guards, or by the ledger. -/
theorem judged_execute (command : Command) : Judged (execute desk command) := by
  cases command with
  | setCoupon coupon => exact judged_map (judged_setCoupon desk coupon)
  | updateMaturityDate date => exact judged_map (judged_updateMaturityDate desk date)
  | issue => exact judged_map (judged_inPartition desk _ _ _ _ _ _)
  | transfer source =>
    refine judged_map (.bind (judged_requireHolder source) fun _ => ?_)
    exact judged_inPartition desk _ _ _ _ _ _
  | redeem => exact judged_map (judged_inPartition desk _ _ _ _ _ _)
  | lock => exact judged_map (judged_inPartition desk _ _ _ _ _ _)
  | releaseLock => exact judged_map (judged_onRecord desk _ _ _ _ _ _)
  | createHold => exact judged_map (judged_createHold desk _ _ _ _ _ _)
  | executeHold _ destination =>
    refine judged_map (.bind (judged_requireHolder destination) fun _ => ?_)
    exact judged_onRecord desk _ _ _ _ _ _
  | releaseHold => exact judged_map (judged_onRecord desk _ _ _ _ _ _)
  | freeze => exact judged_map (judged_inPartition desk _ _ _ _ _ _)
  | unfreeze => exact judged_map (judged_inPartition desk _ _ _ _ _ _)
  | createClearing source =>
    refine judged_map (.bind (judged_requireHolder source) fun _ => ?_)
    exact judged_inPartition desk _ _ _ _ _ _
  | approveClearing => exact judged_map (judged_onRecord desk _ _ _ _ _ _)
  | cancelClearing => exact judged_map (judged_onRecord desk _ _ _ _ _ _)
  | redeemAtMaturity => exact judged_map (judged_redeemAtMaturity desk _ _ _)
  | redeemAllAtMaturity => exact judged_map (judged_redeemAllAtMaturity desk _)

end Bond

end CouponBond
