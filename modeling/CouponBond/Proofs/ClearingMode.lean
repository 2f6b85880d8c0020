import CouponBond.Proofs.GuardedAccounts
import CouponBond.Proofs.LedgerArithmetic

/-!
# What moves between holders while clearing is active

Three kinds of commands pay units of one account to another: transfers, executions of holds and
approvals of clearings.  All others post to the rows of a single account.  The clearing mode
refuses transfers, so that besides the approval of a clearing there is one way left on which units
change hands while it is active: a hold that is still open is executed.

The list of operations that the clearing mode refuses has the creation of holds on it, and not
their execution.

## Main Definitions

* `Command.isPayment` — the command pays units of one account to another

## Main Results

* `Bond.isPayment_of_loss_of_gain` — only a payment takes from one account and gives to another
* `Ledger.sum_of_executeHold` — what the execution of a hold takes and gives
* `Bond.moved_by_clearing_or_hold` — how units change hands while clearing is active
-/

namespace CouponBond

/-- Whether a command pays units of one account to another. -/
def Command.isPayment : Command → Bool
  | .transfer .. | .executeHold .. | .approveClearing .. => true
  | _ => false

namespace Ledger

variable {l l' : Ledger}

/-- A row that is written with units more counts them, and the other rows are as they were. -/
theorem sum_withRow_of_gain {holder : Address} {partition : Partition} {balance : Balance}
    {units : Nat} (h : balance.sum = (l.balanceOf holder partition).sum + units) (a : Address)
    (q : Partition) :
    ((l.withRow holder partition balance).balanceOf a q).sum =
      (l.balanceOf a q).sum + if a = holder ∧ q = partition then units else 0 := by
  rw [balanceOf_withRow]
  split
  · next hrow =>
    obtain ⟨rfl, rfl⟩ := hrow
    exact h
  · rfl

/-- A row that is written with units less gives them up, and the other rows are as they were. -/
theorem sum_withRow_of_loss {holder : Address} {partition : Partition} {balance : Balance}
    {units : Nat} (h : balance.sum + units = (l.balanceOf holder partition).sum) (a : Address)
    (q : Partition) :
    ((l.withRow holder partition balance).balanceOf a q).sum +
        (if a = holder ∧ q = partition then units else 0) = (l.balanceOf a q).sum := by
  rw [balanceOf_withRow]
  split
  · next hrow =>
    obtain ⟨rfl, rfl⟩ := hrow
    exact h
  · rfl

/-- The execution of a hold takes from its holder and gives to the destination, in the partition
of the hold.  The two may be the same account. -/
theorem sum_of_executeHold (h : l.Consistent) {id : HoldId} {destination : Address}
    {amount : Amount} {now : Timestamp}
    (hl' : Ledger.executeHold id destination amount now l = .ok () l') :
    ∃ record, l.holds.get? id = some record ∧ now < record.expiration ∧
      amount ≤ record.amount ∧ ∀ a q,
        (l'.balanceOf a q).sum +
            (if a = record.holder ∧ q = record.partition then amount.toNat else 0) =
          (l.balanceOf a q).sum +
            if a = destination ∧ q = record.partition then amount.toNat else 0 := by
  obtain ⟨record, hrecord, -, hcovers, hopen, -, sender, receiver, rest, hsender, hreceiver, -,
    rfl⟩ := (executeHold_spec h id destination amount now).of_ok hl'
  refine ⟨record, hrecord, hopen, hcovers, fun a q => ?_⟩
  have hpaid := sum_withRow_of_loss (l := l.withHoldRest id record rest)
    (Balance.sum_of_debit? hsender nofun) a q
  have hgot := sum_withRow_of_gain
    (l := (l.withHoldRest id record rest).withRow record.holder record.partition sender)
    (Balance.sum_of_credit? hreceiver nofun) a q
  have hkept : (l.withHoldRest id record rest).balanceOf a q = l.balanceOf a q := rfl
  rw [hkept] at hpaid
  omega

/-- Whoever loses by the execution of a hold is its holder, and whoever gains is the
destination. -/
theorem parties_of_executeHold (h : l.Consistent) (h' : l'.Consistent) {id : HoldId}
    {destination : Address} {amount : Amount} {now : Timestamp}
    (hl' : Ledger.executeHold id destination amount now l = .ok () l') {loser gainer : Address}
    {q : Partition} (hloser : l'.totalBalanceOf loser q < l.totalBalanceOf loser q)
    (hgainer : l.totalBalanceOf gainer q < l'.totalBalanceOf gainer q) :
    destination = gainer ∧ ∃ record, l.holds.get? id = some record ∧ record.holder = loser ∧
      record.partition = q ∧ amount ≤ record.amount ∧ now < record.expiration ∧
      (l'.totalBalanceOf loser q).toNat + amount.toNat = (l.totalBalanceOf loser q).toNat ∧
      (l'.totalBalanceOf gainer q).toNat = (l.totalBalanceOf gainer q).toNat + amount.toNat := by
  obtain ⟨record, hrecord, hopen, hcovers, hsums⟩ := sum_of_executeHold h hl'
  have hlost := hsums loser q
  have hgained := hsums gainer q
  rw [UInt64.lt_iff_toNat_lt, h.exact.total, h'.exact.total] at hloser hgainer
  have hholder : loser = record.holder ∧ q = record.partition := by
    by_contra hother
    rw [if_neg hother] at hlost
    omega
  have hdestination : gainer = destination ∧ q = record.partition := by
    by_contra hother
    rw [if_neg hother] at hgained
    omega
  obtain ⟨rfl, rfl⟩ := hholder
  obtain ⟨rfl, -⟩ := hdestination
  refine ⟨rfl, record, hrecord, rfl, rfl, hcovers, hopen, ?_⟩
  have hne : gainer ≠ record.holder := by
    rintro rfl
    omega
  simp only [hne, Ne.symm hne, and_true, if_true, if_false] at hlost hgained
  simp only [h.exact.total, h'.exact.total]
  omega

end Ledger

namespace Bond

variable {desk : Desk} {b b' changed : Bond} {command : Command} {outcome : Outcome}
  {facts : List Fact}

/-! ### One account -/

/-- Every posting of some facts is to one account. -/
def PostedTo (facts : List Fact) (a : Address) : Prop :=
  ∀ f ∈ facts, ∀ p ∈ f.postings, p.account = a

theorem postedTo_of_fact {f : Fact} {a : Address} (ha : ∀ p ∈ f.postings, p.account = a)
    (hfacts : ∀ g ∈ facts, g = f) : PostedTo facts a := by
  intro g hg p hp
  rw [hfacts g hg] at hp
  exact ha p hp

/-- A command that is no payment posts to the rows of a single account. -/
theorem Performed.exists_postedTo (hperformed : Performed desk b command outcome facts changed)
    (hpayment : command.isPayment = false) : ∃ a, PostedTo facts a := by
  cases hperformed with
  | setCoupon =>
    exact ⟨.zero, postedTo_of_fact (by simp [Fact.postings]) fun _ => List.mem_singleton.mp⟩
  | updateMaturityDate =>
    exact ⟨.zero, postedTo_of_fact (by simp [Fact.postings]) fun _ => List.mem_singleton.mp⟩
  | @issue holder =>
    exact ⟨holder, postedTo_of_fact (by simp [Fact.postings]) eq_of_mem_factOfUnits⟩
  | transfer => cases hpayment
  | @redeem holder =>
    exact ⟨holder, postedTo_of_fact (by simp [Fact.postings]) eq_of_mem_factOfUnits⟩
  | @redeemAtMaturity holder =>
    exact ⟨holder, postedTo_of_fact (by simp [Fact.postings]) eq_of_mem_factOfUnits⟩
  | @redeemAllAtMaturity holder =>
    refine ⟨holder, fun f hf p hp => ?_⟩
    obtain ⟨entry, -, rfl⟩ := List.mem_map.mp hf
    rw [List.mem_singleton.mp hp]
  | @lock holder =>
    exact ⟨holder, postedTo_of_fact (by simp [Fact.postings, Posting.move])
      fun _ => List.mem_singleton.mp⟩
  | @releaseLock _ _ record =>
    exact ⟨record.holder, postedTo_of_fact (by simp [Fact.postings, Posting.move])
      fun _ => List.mem_singleton.mp⟩
  | @createHold holder =>
    exact ⟨holder, postedTo_of_fact (by simp [Fact.postings, Posting.move])
      fun _ => List.mem_singleton.mp⟩
  | executeHold => cases hpayment
  | @releaseHold _ _ named =>
    exact ⟨named.holder, postedTo_of_fact (by simp [Fact.postings, Posting.move])
      fun _ => List.mem_singleton.mp⟩
  | @freeze holder =>
    exact ⟨holder, postedTo_of_fact (by simp [Fact.postings, Posting.move])
      fun _ => List.mem_singleton.mp⟩
  | @unfreeze holder =>
    exact ⟨holder, postedTo_of_fact (by simp [Fact.postings, Posting.move])
      fun _ => List.mem_singleton.mp⟩
  | @createClearing source =>
    exact ⟨source, postedTo_of_fact (by simp [Fact.postings]) fun _ => List.mem_singleton.mp⟩
  | approveClearing => cases hpayment
  | @cancelClearing _ _ record =>
    exact ⟨record.source, postedTo_of_fact (by simp [Fact.postings])
      fun _ => List.mem_singleton.mp⟩

/-- Only a payment takes from one account and gives to another: any other command changes the
rows of one account alone, and whoever loses is not who gains. -/
theorem isPayment_of_loss_of_gain (h : b.ledger.Consistent)
    (happlied : execute desk command b = .ok outcome b') {loser gainer : Address} {q : Partition}
    (hloser : b'.ledger.totalBalanceOf loser q < b.ledger.totalBalanceOf loser q)
    (hgainer : b.ledger.totalBalanceOf gainer q < b'.ledger.totalBalanceOf gainer q) :
    command.isPayment = true := by
  obtain ⟨facts, changed, hperformed, rfl⟩ := (execute_spec desk h command).of_ok happlied
  rw [ledger_closed] at hloser hgainer
  refine eq_true_of_ne_false fun hpayment => ?_
  obtain ⟨a, ha⟩ := hperformed.exists_postedTo hpayment
  have hothers : ∀ other, a ≠ other →
      changed.ledger.totalBalanceOf other q = b.ledger.totalBalanceOf other q := by
    intro other hne
    have hkept := (hperformed.explained h).balanceOf_eq (a := other) (fun f hf p hp heq => ?_) q
    · rw [Ledger.totalBalanceOf, Ledger.totalBalanceOf, hkept]
    · exact hne ((ha f hf p hp).symm.trans heq)
  by_cases hl : a = loser
  · by_cases hg : a = gainer
    · subst hl hg
      exact UInt64.lt_irrefl _ (UInt64.lt_trans hloser hgainer)
    · rw [hothers gainer hg] at hgainer
      exact UInt64.lt_irrefl _ hgainer
  · rw [hothers loser hl] at hloser
    exact UInt64.lt_irrefl _ hloser

/-! ### Clearing -/

/-- While clearing is active, a context whose operation bypasses clearing is refused, whatever
other guards there are. -/
theorem bypassesClearing_eq_false {chain : GuardChain} (hactive : Guard.clearingMode true ∈ chain)
    {ctx : CommandContext} (haccepted : chain.check ctx = .ok ()) :
    ctx.operation.bypassesClearing = false := by
  have hmode := GuardChain.check_eq_ok_iff.mp haccepted _ hactive
  unfold Guard.clearingMode at hmode
  split at hmode
  · cases hmode
  · next hdirect => simpa using hdirect

/-- While clearing is active, units that one holder loses and another one gains were moved by the
approval of a clearing or by the execution of a hold.  The hold was open, of the loser and in that
partition, and no more than its units moved. -/
theorem moved_by_clearing_or_hold (h : b.Reachable)
    (hactive : Guard.clearingMode true ∈ desk.guards)
    (happlied : execute desk command b = .ok outcome b') {loser gainer : Address} {q : Partition}
    (hloser : b'.ledger.totalBalanceOf loser q < b.ledger.totalBalanceOf loser q)
    (hgainer : b.ledger.totalBalanceOf gainer q < b'.ledger.totalBalanceOf gainer q) :
    (∃ id, command = .approveClearing id) ∨
    ∃ id amount record, command = .executeHold id gainer amount ∧
      b.ledger.holds.get? id = some record ∧ record.holder = loser ∧ record.partition = q ∧
      amount ≤ record.amount ∧ desk.now < record.expiration ∧
      (b'.ledger.totalBalanceOf loser q).toNat + amount.toNat =
        (b.ledger.totalBalanceOf loser q).toNat ∧
      (b'.ledger.totalBalanceOf gainer q).toNat =
        (b.ledger.totalBalanceOf gainer q).toNat + amount.toNat := by
  have hpayment := isPayment_of_loss_of_gain h.consistent happlied hloser hgainer
  have h' : b'.ledger.Consistent := by
    have hafter := consistent_after h.consistent desk command
    rwa [after_of_ok happlied] at hafter
  obtain ⟨facts, changed, hperformed, rfl⟩ :=
    (execute_spec desk h.consistent command).of_ok happlied
  rw [ledger_closed] at hloser hgainer h' ⊢
  cases hperformed with
  | approveClearing => exact .inl ⟨_, rfl⟩
  | transfer _ _ _ hguards => cases bypassesClearing_eq_false hactive hguards
  | @executeHold id destination amount _ l' _ _ _ hl' =>
    obtain ⟨rfl, record, hparties⟩ :=
      Ledger.parties_of_executeHold h.consistent h' hl' hloser hgainer
    exact .inr ⟨id, amount, record, rfl, hparties⟩
  | _ => cases hpayment

/-- A desk of which clearing is the only guard, and is active. -/
def clearingDesk (now : Timestamp) : Desk := ⟨now, [Guard.clearingMode true], none⟩

/-- Two of six held units are paid out while clearing is active: the ten units of the holder come
down to eight, and the receiver has two. -/
theorem held_units_moved_under_clearing :
    let command : Command := .executeHold 1 (.ofLow 8) 2
    let b' := heldBond.after (clearingDesk 6) command
    execute (clearingDesk 6) command heldBond = .ok .applied b' ∧
    (b'.ledger.totalBalanceOf (.ofLow 7) .default <
      heldBond.ledger.totalBalanceOf (.ofLow 7) .default) ∧
    (heldBond.ledger.totalBalanceOf (.ofLow 8) .default <
      b'.ledger.totalBalanceOf (.ofLow 8) .default) ∧
    ((∃ id, command = .approveClearing id) ∨
      ∃ id amount record, command = .executeHold id (.ofLow 8) amount ∧
        heldBond.ledger.holds.get? id = some record ∧ record.holder = .ofLow 7 ∧
        record.partition = .default ∧ amount ≤ record.amount ∧ 6 < record.expiration ∧
        (b'.ledger.totalBalanceOf (.ofLow 7) .default).toNat + amount.toNat =
          (heldBond.ledger.totalBalanceOf (.ofLow 7) .default).toNat ∧
        (b'.ledger.totalBalanceOf (.ofLow 8) .default).toNat =
          (heldBond.ledger.totalBalanceOf (.ofLow 8) .default).toNat + amount.toNat) := by
  intro command b'
  have hopened : create sampleConfig = .ok (opened sampleConfig) := rfl
  have hreachable : heldBond.Reachable := .after _ _ (.after _ _ (.created hopened))
  have happlied : execute (clearingDesk 6) command heldBond = .ok .applied b' := rfl
  have hloser : b'.ledger.totalBalanceOf (.ofLow 7) .default <
      heldBond.ledger.totalBalanceOf (.ofLow 7) .default := by decide
  have hgainer : heldBond.ledger.totalBalanceOf (.ofLow 8) .default <
      b'.ledger.totalBalanceOf (.ofLow 8) .default := by decide
  exact ⟨happlied, hloser, hgainer,
    moved_by_clearing_or_hold hreachable List.mem_cons_self happlied hloser hgainer⟩

/-- Active clearing does not keep units from changing hands by other commands than the approval
of a clearing. -/
theorem clearing_is_bypassed :
    ¬ ∀ (b b' : Bond) (desk : Desk) (command : Command) (outcome : Outcome)
      (loser gainer : Address) (q : Partition), b.Reachable →
      Guard.clearingMode true ∈ desk.guards → (∀ id, command ≠ .approveClearing id) →
      execute desk command b = .ok outcome b' →
      ¬ (b'.ledger.totalBalanceOf loser q < b.ledger.totalBalanceOf loser q ∧
        b.ledger.totalBalanceOf gainer q < b'.ledger.totalBalanceOf gainer q) := by
  intro hall
  have hopened : create sampleConfig = .ok (opened sampleConfig) := rfl
  have hreachable : heldBond.Reachable := .after _ _ (.after _ _ (.created hopened))
  let command : Command := .executeHold 1 (.ofLow 8) 2
  refine hall heldBond (heldBond.after (clearingDesk 6) command) (clearingDesk 6) command
    .applied (.ofLow 7) (.ofLow 8) .default hreachable List.mem_cons_self nofun rfl ⟨?_, ?_⟩
  · decide
  · decide

end Bond

end CouponBond
