import CouponBond.Proofs.BondParts
import CouponBond.Proofs.LedgerConsistency

/-!
# What each command of a bond does

A command is refused with the bond as it was, or it passes the checks at its door and the
guards, makes one change and ends in `Bond.closed`.

## Main Definitions

* `Bond.Performed` — the change that a command makes, its answer and its facts
* `Bond.Settles` — a program that is refused without a trace or performs a command

## Main Results

* `Bond.exists_redeemEach` — a plan of full redemption is carried out to its end
* `Bond.settles_issue`, `Bond.settles_transfer`, … — one statement per command
* `Bond.execute_spec` — a command is refused without a trace or performed
-/

namespace CouponBond

namespace Bond

open AllOrNothing

/-! ### Changes -/

/-- A command passes its door, the guards and its own rules; it answers, adds facts and makes a
change.  Captures of due record dates are not part of the change. -/
inductive Performed (desk : Desk) (b : Bond) : Command → Outcome → List Fact → Bond → Prop where
  | setCoupon {coupon : Coupon} {actionId : ActionId} {actions : ActionStore} :
      desk.guards.check (contextAt desk .setCoupon [] none) = .ok () →
      coupon.checkDates desk.now = .ok () → coupon.rateDecimals ≤ maxDecimals →
      b.actions.append? (.coupon coupon) = some (actionId, actions) →
      Performed desk b (.setCoupon coupon)
        (.couponSet (UInt64.ofNat (actions.countOf .coupon)))
        [.couponSet (UInt64.ofNat (actions.countOf .coupon)) actionId coupon.recordDate
          coupon.executionDate]
        { b with actions, snapshots := b.snapshots.schedule actionId coupon.recordDate }
  | updateMaturityDate {date : Timestamp} {terms : Terms} :
      desk.guards.check (contextAt desk .updateMaturityDate [] none) = .ok () →
      b.terms.extend? date = some terms →
      Performed desk b (.updateMaturityDate date) (.maturityDateUpdated b.terms.maturityDate)
        [.maturityDateUpdated b.terms.maturityDate date] { b with terms }
  | issue {holder : Address} {partition : Partition} {amount : Amount} {l' : Ledger} :
      holder.isZero = false →
      b.terms.isMultiPartition = true ∨ partition.isDefault = true →
      desk.guards.check (contextAt desk .issue [holder] partition) = .ok () →
      Ledger.issue holder partition amount b.ledger = .ok () l' →
      Performed desk b (.issue holder partition amount) .applied
        (factOfUnits amount (.issued holder partition amount)) { b with ledger := l' }
  | transfer {source destination : Address} {partition : Partition} {amount : Amount}
      {l' : Ledger} :
      source.isZero = false → destination.isZero = false →
      b.terms.isMultiPartition = true ∨ partition.isDefault = true →
      desk.guards.check (contextAt desk .transfer [source, destination] partition) = .ok () →
      Ledger.transfer source destination partition amount b.ledger = .ok () l' →
      Performed desk b (.transfer source destination partition amount) .applied
        (factOfUnits amount (.transferred source destination partition amount))
        { b with ledger := l' }
  | redeem {holder : Address} {partition : Partition} {amount : Amount} {l' : Ledger} :
      holder.isZero = false →
      b.terms.isMultiPartition = true ∨ partition.isDefault = true →
      desk.guards.check (contextAt desk .redeem [holder] partition) = .ok () →
      Ledger.redeem holder partition amount b.ledger = .ok () l' →
      Performed desk b (.redeem holder partition amount) .applied
        (factOfUnits amount (.redeemed holder partition amount)) { b with ledger := l' }
  | redeemAtMaturity {holder : Address} {partition : Partition} {amount : Amount}
      {l' : Ledger} :
      holder.isZero = false →
      b.terms.isMultiPartition = true ∨ partition.isDefault = true →
      desk.guards.check (contextAt desk .redeemAtMaturity [holder] partition) = .ok () →
      b.terms.isMatured desk.now = true →
      Ledger.redeem holder partition amount b.ledger = .ok () l' →
      Performed desk b (.redeemAtMaturity holder partition amount) .applied
        (factOfUnits amount (.redeemedAtMaturity holder partition amount))
        { b with ledger := l' }
  | redeemAllAtMaturity {holder : Address} {l' : Ledger} :
      holder.isZero = false →
      desk.guards.check (contextAt desk .redeemAtMaturity [holder] none) = .ok () →
      b.terms.isMatured desk.now = true →
      redeemEach holder (redeemable b.ledger holder) b.ledger = .ok () l' →
      Performed desk b (.redeemAllAtMaturity holder)
        (.fullyRedeemed (redeemable b.ledger holder))
        ((redeemable b.ledger holder).map fun entry =>
          .redeemedAtMaturity holder entry.1 entry.2) { b with ledger := l' }
  | lock {holder : Address} {partition : Partition} {amount : Amount} {expiration : Timestamp}
      {id : LockId} {l' : Ledger} :
      holder.isZero = false →
      b.terms.isMultiPartition = true ∨ partition.isDefault = true →
      desk.guards.check (contextAt desk .lock [holder] partition) = .ok () →
      Ledger.lock holder partition amount expiration b.ledger = .ok id l' →
      Performed desk b (.lock holder partition amount expiration) (.locked id)
        [.locked id holder partition amount expiration] { b with ledger := l' }
  | releaseLock {id : LockId} {named record : Lock} {l' : Ledger} :
      b.ledger.locks.get? id = some named →
      desk.guards.check (contextAt desk .releaseLock [named.holder] named.partition) = .ok () →
      Ledger.releaseLock id desk.now b.ledger = .ok record l' →
      Performed desk b (.releaseLock id) .applied
        [.lockReleased id record.holder record.partition record.amount] { b with ledger := l' }
  | createHold {holder : Address} {partition : Partition} {amount : Amount} {escrow : Address}
      {destination : Option Address} {expiration : Timestamp} {id : HoldId} {l' : Ledger} :
      holder.isZero = false → escrow.isZero = false →
      (∀ account, destination = some account → account.isZero = false) →
      b.terms.isMultiPartition = true ∨ partition.isDefault = true →
      desk.guards.check (contextAt desk .createHold [holder] partition) = .ok () →
      Ledger.createHold holder partition amount escrow destination expiration b.ledger =
        .ok id l' →
      Performed desk b (.createHold holder partition amount escrow destination expiration)
        (.holdCreated id) [.holdCreated id holder partition amount escrow]
        { b with ledger := l' }
  | executeHold {id : HoldId} {destination : Address} {amount : Amount} {named : Hold}
      {l' : Ledger} :
      destination.isZero = false →
      b.ledger.holds.get? id = some named →
      desk.guards.check
        (contextAt desk .executeHold [named.holder, destination] named.partition) = .ok () →
      Ledger.executeHold id destination amount desk.now b.ledger = .ok () l' →
      Performed desk b (.executeHold id destination amount) .applied
        [.holdExecuted id named.holder destination named.partition amount]
        { b with ledger := l' }
  | releaseHold {id : HoldId} {amount : Amount} {named : Hold} {l' : Ledger} :
      b.ledger.holds.get? id = some named →
      desk.guards.check (contextAt desk .releaseHold [named.holder] named.partition) = .ok () →
      Ledger.releaseHold id amount b.ledger = .ok () l' →
      Performed desk b (.releaseHold id amount) .applied
        [.holdReleased id named.holder named.partition amount] { b with ledger := l' }
  | freeze {holder : Address} {partition : Partition} {amount : Amount} {l' : Ledger} :
      holder.isZero = false →
      b.terms.isMultiPartition = true ∨ partition.isDefault = true →
      desk.guards.check (contextAt desk .freeze [holder] partition) = .ok () →
      Ledger.freeze holder partition amount b.ledger = .ok () l' →
      Performed desk b (.freeze holder partition amount) .applied
        [.frozen holder partition amount] { b with ledger := l' }
  | unfreeze {holder : Address} {partition : Partition} {amount : Amount} {l' : Ledger} :
      holder.isZero = false →
      b.terms.isMultiPartition = true ∨ partition.isDefault = true →
      desk.guards.check (contextAt desk .unfreeze [holder] partition) = .ok () →
      Ledger.unfreeze holder partition amount b.ledger = .ok () l' →
      Performed desk b (.unfreeze holder partition amount) .applied
        [.unfrozen holder partition amount] { b with ledger := l' }
  | createClearing {source destination : Address} {partition : Partition} {amount : Amount}
      {expiration : Timestamp} {id : ClearingId} {l' : Ledger} :
      source.isZero = false → destination.isZero = false →
      b.terms.isMultiPartition = true ∨ partition.isDefault = true →
      desk.guards.check
        (contextAt desk .createClearing [source, destination] partition) = .ok () →
      Ledger.createClearing source destination partition amount expiration b.ledger =
        .ok id l' →
      Performed desk b (.createClearing source destination partition amount expiration)
        (.clearingCreated id) [.clearingCreated id source destination partition amount]
        { b with ledger := l' }
  | approveClearing {id : ClearingId} {named record : Clearing} {l' : Ledger} :
      b.ledger.clearings.get? id = some named →
      desk.guards.check
        (contextAt desk .approveClearing [named.source, named.destination] named.partition) =
          .ok () →
      Ledger.approveClearing id desk.now b.ledger = .ok record l' →
      Performed desk b (.approveClearing id) .applied
        [.clearingApproved id record.source record.destination record.partition record.amount]
        { b with ledger := l' }
  | cancelClearing {id : ClearingId} {named record : Clearing} {l' : Ledger} :
      b.ledger.clearings.get? id = some named →
      desk.guards.check (contextAt desk .cancelClearing [named.source] named.partition) =
        .ok () →
      Ledger.cancelClearing id b.ledger = .ok record l' →
      Performed desk b (.cancelClearing id) .applied
        [.clearingCancelled id record.source record.partition record.amount]
        { b with ledger := l' }

/-! ### Full redemption -/

section Plan

variable {l : Ledger} {holder : Address}

/-- A redemption in one partition leaves the balances of the others alone. -/
theorem balanceOf_redeem_of_ne (h : l.Consistent) {partition q : Partition} {amount : Amount}
    {l' : Ledger} (hl' : Ledger.redeem holder partition amount l = .ok () l')
    (hne : q ≠ partition) (a : Address) : l'.balanceOf a q = l.balanceOf a q := by
  obtain ⟨-, ⟨-, rfl⟩ | ⟨-, supply, balance, -, -, rfl⟩⟩ :=
    (Ledger.redeem_spec h holder partition amount).of_ok hl'
  · rfl
  · rw [Ledger.balanceOf_withRow, if_neg (fun e => hne e.2), Ledger.balanceOf_withSupply]

/-- A plan that names every partition once and no more than is available there is carried out to
its end: each redemption leaves what the later ones need. -/
theorem exists_redeemEach (h : l.Consistent) {plan : List (Partition × Amount)}
    (hnodup : (plan.map Prod.fst).Nodup)
    (havailable : ∀ entry ∈ plan, entry.2 ≤ (l.balanceOf holder entry.1).available) :
    ∃ l', redeemEach holder plan l = .ok () l' ∧ l'.Consistent := by
  induction plan generalizing l with
  | nil => exact ⟨l, rfl, h⟩
  | cons entry rest ih =>
    obtain ⟨partition, amount⟩ := entry
    rw [List.map_cons, List.nodup_cons] at hnodup
    obtain ⟨hfirst, hrest⟩ := List.forall_mem_cons.mp havailable
    obtain ⟨l₁, hl₁⟩ := Ledger.exists_redeem h hfirst
    -- the partitions of the rest are others, so what they need is still there
    have h₁ : l₁.Consistent := h.of_ok (.redeem holder partition amount) rfl hl₁
    have hkept : ∀ entry ∈ rest, entry.2 ≤ (l₁.balanceOf holder entry.1).available := by
      intro entry hentry
      have hne : entry.1 ≠ partition := fun e =>
        hnodup.1 (List.mem_map.mpr ⟨entry, hentry, e⟩)
      rw [balanceOf_redeem_of_ne h hl₁ hne]
      exact hrest entry hentry
    obtain ⟨l', hl', hconsistent⟩ := ih h₁ hnodup.2 hkept
    exact ⟨l', (bind_ok hl₁).trans hl', hconsistent⟩

/-- A plan that is carried out begins with its first redemption, which leaves a ledger that the
rest of the plan is carried out on. -/
theorem redeem_of_redeemEach (h : l.Consistent) {partition : Partition} {amount : Amount}
    {rest : List (Partition × Amount)} {l' : Ledger}
    (hl' : redeemEach holder ((partition, amount) :: rest) l = .ok () l') :
    ∃ l₁, Ledger.redeem holder partition amount l = .ok () l₁ ∧ l₁.Consistent ∧
      redeemEach holder rest l₁ = .ok () l' := by
  unfold redeemEach at hl'
  cases hm : Ledger.redeem holder partition amount l with
  | error e l₁ =>
    rw [bind_error hm] at hl'
    cases hl'
  | ok _ l₁ =>
    rw [bind_ok hm] at hl'
    exact ⟨l₁, rfl, h.of_ok (.redeem holder partition amount) rfl hm, hl'⟩

/-- What can be redeemed is listed in the order of the partitions. -/
theorem ascending_redeemable (l : Ledger) (holder : Address) :
    ((redeemable l holder).map Prod.fst).Pairwise fun p q => rank p < rank q := by
  have hpartitions : (l.partitionsOf holder).Pairwise fun p q => rank p < rank q :=
    List.pairwise_map.mpr (SortedMap.ascending _)
  have hsub : ((redeemable l holder).map Prod.fst).Sublist
      (((l.partitionsOf holder).map fun p => (p, (l.balanceOf holder p).available)).map
        Prod.fst) := List.filter_sublist.map _
  rw [List.map_map] at hsub
  refine hpartitions.sublist ?_
  rwa [show Prod.fst ∘ (fun p => (p, (l.balanceOf holder p).available)) = id from rfl,
    List.map_id] at hsub

theorem nodup_redeemable (l : Ledger) (holder : Address) :
    ((redeemable l holder).map Prod.fst).Nodup :=
  (ascending_redeemable l holder).imp fun hlt heq => Nat.ne_of_lt hlt (congrArg rank heq)

theorem eq_available_of_mem_redeemable {entry : Partition × Amount}
    (h : entry ∈ redeemable l holder) : entry.2 = (l.balanceOf holder entry.1).available := by
  obtain ⟨p, -, rfl⟩ := List.mem_map.mp (List.mem_filter.mp h).1
  rfl

/-- What can be redeemed is what is available, in the partitions where something is. -/
theorem mem_redeemable_iff {q : Partition} {units : Amount} :
    (q, units) ∈ redeemable l holder ↔
      units = (l.balanceOf holder q).available ∧ units ≠ 0 := by
  constructor
  · intro h
    exact ⟨eq_available_of_mem_redeemable h, by simpa using (List.mem_filter.mp h).2⟩
  · rintro ⟨rfl, hne⟩
    refine List.mem_filter.mpr ⟨List.mem_map.mpr ⟨q, ?_, rfl⟩, by simpa using hne⟩
    -- whoever can spend something owns something, so the partition is not left out
    have htotal : (l.balanceOf holder q).total ≠ 0 := by
      intro hzero
      have hle := (l.balanceOf holder q).toNat_available_le_total
      rw [hzero] at hle
      exact hne (UInt64.toNat_inj.mp (Nat.le_zero.mp hle))
    refine SortedMap.mem_keys_filter_iff.mpr ?_
    unfold Ledger.balanceOf Ledger.book at htotal
    cases hbook : l.books.get? q with
    | none =>
      rw [hbook] at htotal
      exact absurd rfl htotal
    | some book =>
      rw [hbook] at htotal
      exact ⟨book, rfl, by simpa [Balance.isEmpty] using htotal⟩

/-- What can be redeemed can be redeemed altogether. -/
theorem exists_redeemEach_redeemable (h : l.Consistent) (holder : Address) :
    ∃ l', redeemEach holder (redeemable l holder) l = .ok () l' ∧ l'.Consistent :=
  exists_redeemEach h (nodup_redeemable l holder) fun _ hentry =>
    UInt64.le_of_eq (eq_available_of_mem_redeemable hentry)

end Plan

/-- A performed change keeps the ledger consistent. -/
theorem Performed.consistent {desk : Desk} {b changed : Bond} {command : Command}
    {outcome : Outcome} {facts : List Fact}
    (hperformed : Performed desk b command outcome facts changed) (h : b.ledger.Consistent) :
    changed.ledger.Consistent := by
  cases hperformed with
  | setCoupon => exact h
  | updateMaturityDate => exact h
  | issue _ _ _ hl' => exact h.of_ok (.issue ..) rfl hl'
  | transfer _ _ _ _ hl' => exact h.of_ok (.transfer ..) rfl hl'
  | redeem _ _ _ hl' => exact h.of_ok (.redeem ..) rfl hl'
  | redeemAtMaturity _ _ _ _ hl' => exact h.of_ok (.redeem ..) rfl hl'
  | redeemAllAtMaturity _ _ _ hl' =>
    obtain ⟨l'', hl'', hconsistent⟩ := exists_redeemEach_redeemable h _
    rw [hl'] at hl''
    cases hl''
    exact hconsistent
  | lock _ _ _ hl' => exact h.of_ok (.lock ..) rfl hl'
  | releaseLock _ _ hl' => exact h.of_ok (.releaseLock ..) rfl hl'
  | createHold _ _ _ _ _ hl' => exact h.of_ok (.createHold ..) rfl hl'
  | executeHold _ _ _ hl' => exact h.of_ok (.executeHold ..) rfl hl'
  | releaseHold _ _ hl' => exact h.of_ok (.releaseHold ..) rfl hl'
  | freeze _ _ _ hl' => exact h.of_ok (.freeze ..) rfl hl'
  | unfreeze _ _ _ hl' => exact h.of_ok (.unfreeze ..) rfl hl'
  | createClearing _ _ _ _ hl' => exact h.of_ok (.createClearing ..) rfl hl'
  | approveClearing _ _ hl' => exact h.of_ok (.approveClearing ..) rfl hl'
  | cancelClearing _ _ hl' => exact h.of_ok (.cancelClearing ..) rfl hl'

/-! ### Commands -/

section Commands

variable {desk : Desk} {b : Bond} {α : Type}

/-- A refusal of full redemption never comes from the ledger. -/
def Refusal (command : Command) (e : BondError) : Prop :=
  ∀ holder, command = .redeemAllAtMaturity holder → ∀ cause, e ≠ .ledger cause

/-- A program settles a command: it is refused with the bond as it was, or it ends with the
change of the command performed. -/
def Settles (desk : Desk) (b : Bond) (command : Command) (outcome : α → Outcome)
    (m : BondChange α) : Prop :=
  AllOrNothing m b (Refusal command) fun a b' => ∃ facts changed,
    Performed desk b command (outcome a) facts changed ∧ b' = b.closed desk.now changed facts

/-- A command on the path of all changes is settled when its change is performed. -/
theorem settles_path {command : Command} {outcome : α → Outcome} {ctx : CommandContext}
    {apply : BondChange (Applied α)}
    (happly : desk.guards.check ctx = .ok () → AllOrNothing apply b (Refusal command)
      fun answer changed => Performed desk b command (outcome answer.1) answer.2 changed) :
    Settles desk b command outcome (run desk ctx apply) :=
  allOrNothing_run (fun _ _ _ _ => nofun) happly

/-- A mutation of the ledger as the change of a command. -/
theorem allOrNothing_mutate {γ : Type} {m : Ledger.Mutation α} {answer : α → γ}
    {facts : α → List Fact} {F : LedgerError → Prop} {Q : α → Ledger → Prop}
    {E : BondError → Prop} {R : Applied γ → Bond → Prop} (hm : AllOrNothing m b.ledger F Q)
    (he : ∀ e, F e → E (.ledger e))
    (hR : ∀ a l', m b.ledger = .ok a l' → R (answer a, facts a) { b with ledger := l' }) :
    AllOrNothing (do
        let a ← onLedger m
        return (answer a, facts a)) b E R := by
  refine allOrNothing_map (allOrNothing_onLedger hm he) fun a b' hb' => ?_
  obtain ⟨l', hl', rfl⟩ := hb'
  exact hR a l' hl'

/-- The dates of a coupon are judged as a check of the bond. -/
theorem checkDates_of_demanded {coupon : Coupon} {now : Timestamp} {u : Unit}
    (h : (match coupon.checkDates now with
      | .ok () => .ok ()
      | .error e => .error (.dates e) : Except BondError Unit) = .ok u) :
    coupon.checkDates now = .ok () := by
  split at h
  · assumption
  · cases h

theorem settles_setCoupon (coupon : Coupon) :
    Settles desk b (.setCoupon coupon) .couponSet (setCoupon desk coupon) := by
  refine settles_path fun hguards => ?_
  refine allOrNothing_demand (fun _ _ => nofun) fun u hdates => ?_
  refine bind_refuseIf (fun _ => nofun) fun hrate => ?_
  refine bind_get ?_
  refine allOrNothing_lookup nofun fun ⟨actionId, actions⟩ happend => ?_
  exact .ok rfl (.setCoupon hguards (checkDates_of_demanded hdates) (UInt8.not_lt.mp hrate)
    happend)

theorem settles_updateMaturityDate (date : Timestamp) :
    Settles desk b (.updateMaturityDate date) .maturityDateUpdated
      (updateMaturityDate desk date) := by
  refine settles_path fun hguards => ?_
  refine bind_get ?_
  dsimp only
  split
  · exact .refuse rfl nofun
  · next terms hterms => exact .ok rfl (.updateMaturityDate hguards hterms)

section Ledger

variable (h : b.ledger.Consistent)
include h

theorem settles_issue (holder : Address) (partition : Partition) (amount : Amount) :
    Settles desk b (.issue holder partition amount) (fun _ => .applied)
      (issue desk holder partition amount) := by
  refine allOrNothing_requireHolder (fun _ => nofun) fun hholder => ?_
  refine allOrNothing_requirePartition nofun fun hpartition => ?_
  refine settles_path fun hguards => ?_
  refine allOrNothing_mutate (Ledger.issue_spec h holder partition amount) (fun _ _ => nofun)
    fun _ _ hl' => ?_
  exact .issue hholder hpartition hguards hl'

theorem settles_transfer (source destination : Address) (partition : Partition)
    (amount : Amount) :
    Settles desk b (.transfer source destination partition amount) (fun _ => .applied)
      (transfer desk source destination partition amount) := by
  refine allOrNothing_requireHolder (fun _ => nofun) fun hsource => ?_
  refine allOrNothing_requireHolder (fun _ => nofun) fun hdestination => ?_
  refine allOrNothing_requirePartition nofun fun hpartition => ?_
  refine settles_path fun hguards => ?_
  refine allOrNothing_mutate (Ledger.transfer_spec h source destination partition amount)
    (fun _ _ => nofun) fun _ _ hl' => ?_
  exact .transfer hsource hdestination hpartition hguards hl'

theorem settles_redeem (holder : Address) (partition : Partition) (amount : Amount) :
    Settles desk b (.redeem holder partition amount) (fun _ => .applied)
      (redeem desk holder partition amount) := by
  refine allOrNothing_requireHolder (fun _ => nofun) fun hholder => ?_
  refine allOrNothing_requirePartition nofun fun hpartition => ?_
  refine settles_path fun hguards => ?_
  refine allOrNothing_mutate (Ledger.redeem_spec h holder partition amount) (fun _ _ => nofun)
    fun _ _ hl' => ?_
  exact .redeem hholder hpartition hguards hl'

theorem settles_redeemAtMaturity (holder : Address) (partition : Partition) (amount : Amount) :
    Settles desk b (.redeemAtMaturity holder partition amount) (fun _ => .applied)
      (redeemAtMaturity desk holder partition amount) := by
  refine allOrNothing_requireHolder (fun _ => nofun) fun hholder => ?_
  refine allOrNothing_requirePartition nofun fun hpartition => ?_
  refine settles_path fun hguards => ?_
  refine allOrNothing_requireMatured nofun fun hmatured => ?_
  refine allOrNothing_mutate (Ledger.redeem_spec h holder partition amount) (fun _ _ => nofun)
    fun _ _ hl' => ?_
  exact .redeemAtMaturity hholder hpartition hguards hmatured hl'

/-- The plan of full redemption is carried out, so the only refusals are those before it. -/
theorem settles_redeemAllAtMaturity (holder : Address) :
    Settles desk b (.redeemAllAtMaturity holder) .fullyRedeemed
      (redeemAllAtMaturity desk holder) := by
  refine allOrNothing_requireHolder (fun _ _ _ => nofun) fun hholder => ?_
  refine settles_path fun hguards => ?_
  refine allOrNothing_requireMatured (fun _ _ => nofun) fun hmatured => ?_
  refine bind_get ?_
  obtain ⟨l', hl', -⟩ := exists_redeemEach_redeemable h holder
  exact .ok ((bind_ok (onLedger_ok hl')).trans rfl)
    (.redeemAllAtMaturity hholder hguards hmatured hl')

theorem settles_lock (holder : Address) (partition : Partition) (amount : Amount)
    (expiration : Timestamp) :
    Settles desk b (.lock holder partition amount expiration) .locked
      (lock desk holder partition amount expiration) := by
  refine allOrNothing_requireHolder (fun _ => nofun) fun hholder => ?_
  refine allOrNothing_requirePartition nofun fun hpartition => ?_
  refine settles_path fun hguards => ?_
  refine allOrNothing_mutate (Ledger.lock_spec h holder partition amount expiration)
    (fun _ _ => nofun) fun _ _ hl' => ?_
  exact .lock hholder hpartition hguards hl'

theorem settles_releaseLock (id : LockId) :
    Settles desk b (.releaseLock id) (fun _ => .applied) (releaseLock desk id) := by
  refine allOrNothing_record nofun fun named hnamed => ?_
  refine settles_path fun hguards => ?_
  refine allOrNothing_mutate (Ledger.releaseLock_spec h id desk.now) (fun _ _ => nofun)
    fun _ _ hl' => ?_
  exact .releaseLock hnamed hguards hl'

theorem settles_createHold (holder : Address) (partition : Partition) (amount : Amount)
    (escrow : Address) (destination : Option Address) (expiration : Timestamp) :
    Settles desk b (.createHold holder partition amount escrow destination expiration)
      .holdCreated (createHold desk holder partition amount escrow destination expiration) := by
  refine allOrNothing_requireHolder (fun _ => nofun) fun hholder => ?_
  refine allOrNothing_requireHolder (fun _ => nofun) fun hescrow => ?_
  -- What follows the check of the destination, which there need not be.
  have hrest : (∀ account, destination = some account → account.isZero = false) →
      Settles desk b (.createHold holder partition amount escrow destination expiration)
        .holdCreated (do
          requirePartition partition
          run desk (contextAt desk .createHold [holder] partition) do
            let id ← onLedger
              (Ledger.createHold holder partition amount escrow destination expiration)
            return (id, [.holdCreated id holder partition amount escrow])) := by
    intro hdestination
    refine allOrNothing_requirePartition nofun fun hpartition => ?_
    refine settles_path fun hguards => ?_
    refine allOrNothing_mutate
      (Ledger.createHold_spec h holder partition amount escrow destination expiration)
      (fun _ _ => nofun) fun _ _ hl' => ?_
    exact .createHold hholder hescrow hdestination hpartition hguards hl'
  cases destination with
  | none => exact hrest nofun
  | some account =>
    refine allOrNothing_requireHolder (fun _ => nofun) fun haccount => ?_
    refine hrest fun other hother => ?_
    cases hother
    exact haccount

theorem settles_executeHold (id : HoldId) (destination : Address) (amount : Amount) :
    Settles desk b (.executeHold id destination amount) (fun _ => .applied)
      (executeHold desk id destination amount) := by
  refine allOrNothing_requireHolder (fun _ => nofun) fun hdestination => ?_
  refine allOrNothing_record nofun fun named hnamed => ?_
  refine settles_path fun hguards => ?_
  refine allOrNothing_mutate (Ledger.executeHold_spec h id destination amount desk.now)
    (fun _ _ => nofun) fun _ _ hl' => ?_
  exact .executeHold hdestination hnamed hguards hl'

theorem settles_releaseHold (id : HoldId) (amount : Amount) :
    Settles desk b (.releaseHold id amount) (fun _ => .applied)
      (releaseHold desk id amount) := by
  refine allOrNothing_record nofun fun named hnamed => ?_
  refine settles_path fun hguards => ?_
  refine allOrNothing_mutate (Ledger.releaseHold_spec h id amount) (fun _ _ => nofun)
    fun _ _ hl' => ?_
  exact .releaseHold hnamed hguards hl'

theorem settles_freeze (holder : Address) (partition : Partition) (amount : Amount) :
    Settles desk b (.freeze holder partition amount) (fun _ => .applied)
      (freeze desk holder partition amount) := by
  refine allOrNothing_requireHolder (fun _ => nofun) fun hholder => ?_
  refine allOrNothing_requirePartition nofun fun hpartition => ?_
  refine settles_path fun hguards => ?_
  refine allOrNothing_mutate (Ledger.freeze_spec h holder partition amount) (fun _ _ => nofun)
    fun _ _ hl' => ?_
  exact .freeze hholder hpartition hguards hl'

theorem settles_unfreeze (holder : Address) (partition : Partition) (amount : Amount) :
    Settles desk b (.unfreeze holder partition amount) (fun _ => .applied)
      (unfreeze desk holder partition amount) := by
  refine allOrNothing_requireHolder (fun _ => nofun) fun hholder => ?_
  refine allOrNothing_requirePartition nofun fun hpartition => ?_
  refine settles_path fun hguards => ?_
  refine allOrNothing_mutate (Ledger.unfreeze_spec h holder partition amount) (fun _ _ => nofun)
    fun _ _ hl' => ?_
  exact .unfreeze hholder hpartition hguards hl'

theorem settles_createClearing (source destination : Address) (partition : Partition)
    (amount : Amount) (expiration : Timestamp) :
    Settles desk b (.createClearing source destination partition amount expiration)
      .clearingCreated
      (createClearing desk source destination partition amount expiration) := by
  refine allOrNothing_requireHolder (fun _ => nofun) fun hsource => ?_
  refine allOrNothing_requireHolder (fun _ => nofun) fun hdestination => ?_
  refine allOrNothing_requirePartition nofun fun hpartition => ?_
  refine settles_path fun hguards => ?_
  refine allOrNothing_mutate
    (Ledger.createClearing_spec h source destination partition amount expiration)
    (fun _ _ => nofun) fun _ _ hl' => ?_
  exact .createClearing hsource hdestination hpartition hguards hl'

theorem settles_approveClearing (id : ClearingId) :
    Settles desk b (.approveClearing id) (fun _ => .applied) (approveClearing desk id) := by
  refine allOrNothing_record nofun fun named hnamed => ?_
  refine settles_path fun hguards => ?_
  refine allOrNothing_mutate (Ledger.approveClearing_spec h id desk.now) (fun _ _ => nofun)
    fun _ _ hl' => ?_
  exact .approveClearing hnamed hguards hl'

theorem settles_cancelClearing (id : ClearingId) :
    Settles desk b (.cancelClearing id) (fun _ => .applied) (cancelClearing desk id) := by
  refine allOrNothing_record nofun fun named hnamed => ?_
  refine settles_path fun hguards => ?_
  refine allOrNothing_mutate (Ledger.cancelClearing_spec h id) (fun _ _ => nofun)
    fun _ _ hl' => ?_
  exact .cancelClearing hnamed hguards hl'

end Ledger

/-- The answer of a command that is settled is put into the words of its outcome. -/
theorem Settles.answer {command : Command} {outcome : α → Outcome} {m : BondChange α}
    (hm : Settles desk b command outcome m) :
    Settles desk b command id (m >>= fun a => Pure.pure (outcome a)) :=
  allOrNothing_map hm fun _ _ hperformed => hperformed

/-- A command is refused with the bond as it was, or it is performed; full redemption is never
refused by the ledger. -/
theorem execute_spec (desk : Desk) (h : b.ledger.Consistent) (command : Command) :
    AllOrNothing (execute desk command) b (Refusal command) fun outcome b' =>
      ∃ facts changed, Performed desk b command outcome facts changed ∧
        b' = b.closed desk.now changed facts := by
  show Settles desk b command id (execute desk command)
  cases command with
  | setCoupon => exact (settles_setCoupon _).answer
  | updateMaturityDate => exact (settles_updateMaturityDate _).answer
  | issue => exact (settles_issue h _ _ _).answer
  | transfer => exact (settles_transfer h _ _ _ _).answer
  | redeem => exact (settles_redeem h _ _ _).answer
  | lock => exact (settles_lock h _ _ _ _).answer
  | releaseLock => exact (settles_releaseLock h _).answer
  | createHold => exact (settles_createHold h _ _ _ _ _ _).answer
  | executeHold => exact (settles_executeHold h _ _ _).answer
  | releaseHold => exact (settles_releaseHold h _ _).answer
  | freeze => exact (settles_freeze h _ _ _).answer
  | unfreeze => exact (settles_unfreeze h _ _ _).answer
  | createClearing => exact (settles_createClearing h _ _ _ _ _).answer
  | approveClearing => exact (settles_approveClearing h _).answer
  | cancelClearing => exact (settles_cancelClearing h _).answer
  | redeemAtMaturity => exact (settles_redeemAtMaturity h _ _ _).answer
  | redeemAllAtMaturity => exact (settles_redeemAllAtMaturity h _).answer

end Commands

end Bond

end CouponBond
