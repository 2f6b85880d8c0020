import CouponBond.Proofs.Postings

/-!
# Guards see every account that a command touches

Each command hands its own context to the guards, made up before anything is changed: from its
arguments, or from the record that it names.  The accounts listed there are compared with the
rows that the command writes: whoever's balance changes was listed.  So a guard that refuses an
account protects its balances against every command, in whatever place of the chain it stands.

## Main Definitions

* `Bond.contextOf` — the context that a command hands to the guards
* `Guard.Bars` — a guard of a host that refuses an account
* `Bond.Admitted` — what the guards saw of a command that was performed

## Main Results

* `GuardChain.check_eq_ok_iff` — a chain accepts what all of its guards accept
* `Bond.Performed.admitted` — the accounts of every posting were handed to the guards
* `Bond.guarded_balances_kept` — the balances of an account that a guard bars do not change
-/

namespace CouponBond

/-! ### Chains -/

/-- A chain accepts a context when all of its guards do, in whatever order they stand. -/
theorem GuardChain.check_eq_ok_iff {chain : GuardChain} {ctx : CommandContext} :
    chain.check ctx = .ok () ↔ ∀ guard ∈ chain, guard ctx = .ok () := by
  induction chain with
  | nil => exact ⟨fun _ _ h => (nomatch h), fun _ => rfl⟩
  | cons guard rest ih =>
    rw [List.forall_mem_cons, ← ih]
    cases hguard : guard ctx with
    | ok _ =>
      have hcheck : GuardChain.check (guard :: rest) ctx = GuardChain.check rest ctx := by
        rw [GuardChain.check, hguard]
        rfl
      rw [hcheck]
      exact ⟨fun h => ⟨rfl, h⟩, And.right⟩
    | error e =>
      have hcheck : GuardChain.check (guard :: rest) ctx = .error e := by
        rw [GuardChain.check, hguard]
        rfl
      rw [hcheck]
      exact ⟨fun h => (nomatch h), fun h => (nomatch h.1)⟩

/-! ### Guards that bar an account -/

/-- The guards of a host that refuse an account: it is blocked, its wallet was recovered, or it
is not granted. -/
inductive Guard.Bars (a : Address) : Guard → Prop where
  | blocked {blocked : SortedSet Address} :
      blocked.contains a = true → Bars a (Guard.controlList blocked)
  | recovered {recovered : SortedSet Address} :
      recovered.contains a = true → Bars a (Guard.recoveredWallets recovered)
  | ungranted {granted : SortedSet Address} :
      granted.contains a = false → Bars a (Guard.kycRegistry granted)

/-- A guard that bars an account refuses every command on its balances. -/
theorem Guard.Bars.refuses {a : Address} {guard : Guard} (h : Guard.Bars a guard)
    {ctx : CommandContext} (ha : a ∈ ctx.accounts)
    (hbalances : ctx.operation.isAdministrative = false) : guard ctx ≠ .ok () := by
  cases h with
  | blocked hblocked =>
    unfold Guard.controlList
    split
    · exact nofun
    · next hnone =>
      have hseen := List.mem_append_left ctx.operator.toList ha
      exact absurd hblocked (List.find?_eq_none.mp hnone a hseen)
  | recovered hrecovered =>
    unfold Guard.recoveredWallets
    split
    · exact nofun
    · next hnone => exact absurd hrecovered (List.find?_eq_none.mp hnone a ha)
  | ungranted hungranted =>
    unfold Guard.kycRegistry
    rw [hbalances, if_neg Bool.false_ne_true]
    split
    · exact nofun
    · next hnone =>
      have hgranted := List.find?_eq_none.mp hnone a ha
      rw [hungranted] at hgranted
      exact absurd rfl hgranted

/-! ### Contexts -/

namespace Bond

variable {desk : Desk} {b changed : Bond} {command : Command} {outcome : Outcome}
  {facts : List Fact}

/-- The context that a command of an operator hands to the guards; a command on a record that
does not exist hands over none. -/
def contextOf (b : Bond) (operator : Option Address) : Command → Option CommandContext
  | .setCoupon _ => some ⟨.setCoupon, [], none, operator⟩
  | .updateMaturityDate _ => some ⟨.updateMaturityDate, [], none, operator⟩
  | .issue holder q _ => some ⟨.issue, [holder], q, operator⟩
  | .transfer source destination q _ => some ⟨.transfer, [source, destination], q, operator⟩
  | .redeem holder q _ => some ⟨.redeem, [holder], q, operator⟩
  | .lock holder q _ _ => some ⟨.lock, [holder], q, operator⟩
  | .releaseLock id => (b.ledger.locks.get? id).map fun r =>
    ⟨.releaseLock, [r.holder], r.partition, operator⟩
  | .createHold holder q _ _ _ _ => some ⟨.createHold, [holder], q, operator⟩
  | .executeHold id destination _ => (b.ledger.holds.get? id).map fun r =>
    ⟨.executeHold, [r.holder, destination], r.partition, operator⟩
  | .releaseHold id _ => (b.ledger.holds.get? id).map fun r =>
    ⟨.releaseHold, [r.holder], r.partition, operator⟩
  | .freeze holder q _ => some ⟨.freeze, [holder], q, operator⟩
  | .unfreeze holder q _ => some ⟨.unfreeze, [holder], q, operator⟩
  | .createClearing source destination q _ _ =>
    some ⟨.createClearing, [source, destination], q, operator⟩
  | .approveClearing id => (b.ledger.clearings.get? id).map fun r =>
    ⟨.approveClearing, [r.source, r.destination], r.partition, operator⟩
  | .cancelClearing id => (b.ledger.clearings.get? id).map fun r =>
    ⟨.cancelClearing, [r.source], r.partition, operator⟩
  | .redeemAtMaturity holder q _ => some ⟨.redeemAtMaturity, [holder], q, operator⟩
  | .redeemAllAtMaturity holder => some ⟨.redeemAtMaturity, [holder], none, operator⟩

/-- What the guards saw of a command: they accepted its context, in which every account is
listed that a posting of its facts concerns, and a command with postings is one on balances. -/
structure Admitted (desk : Desk) (b : Bond) (command : Command) (facts : List Fact)
    (ctx : CommandContext) : Prop where
  handed : b.contextOf desk.operator command = some ctx
  accepted : desk.guards.check ctx = .ok ()
  listed : ∀ f ∈ facts, ∀ p ∈ f.postings,
    p.account ∈ ctx.accounts ∧ ctx.operation.isAdministrative = false

/-- A command whose one fact posts to accounts of the context that the guards accepted. -/
theorem admitted_of_fact {ctx : CommandContext} {f : Fact}
    (handed : b.contextOf desk.operator command = some ctx)
    (accepted : desk.guards.check ctx = .ok ())
    (hbalances : ctx.operation.isAdministrative = false)
    (hlisted : ∀ p ∈ f.postings, p.account ∈ ctx.accounts) (hfacts : ∀ g ∈ facts, g = f) :
    ∃ ctx, Admitted desk b command facts ctx := by
  refine ⟨ctx, handed, accepted, fun g hg p hp => ⟨?_, hbalances⟩⟩
  rw [hfacts g hg] at hp
  exact hlisted p hp

theorem eq_of_mem_factOfUnits {amount : Amount} {f : Fact} :
    ∀ g ∈ factOfUnits amount f, g = f := by
  unfold factOfUnits
  split <;> simp

/-- Every command that is performed was admitted by the guards. -/
theorem Performed.admitted (hperformed : Performed desk b command outcome facts changed)
    (h : b.ledger.Consistent) : ∃ ctx, Admitted desk b command facts ctx := by
  cases hperformed with
  | setCoupon hguards => exact ⟨_, rfl, hguards, by simp [Fact.postings]⟩
  | updateMaturityDate hguards => exact ⟨_, rfl, hguards, by simp [Fact.postings]⟩
  | issue _ _ hguards =>
    exact admitted_of_fact rfl hguards rfl (by simp [Fact.postings]) eq_of_mem_factOfUnits
  | transfer _ _ _ hguards =>
    exact admitted_of_fact rfl hguards rfl (by simp [Fact.postings]) eq_of_mem_factOfUnits
  | redeem _ _ hguards =>
    exact admitted_of_fact rfl hguards rfl (by simp [Fact.postings]) eq_of_mem_factOfUnits
  | redeemAtMaturity _ _ hguards =>
    exact admitted_of_fact rfl hguards rfl (by simp [Fact.postings]) eq_of_mem_factOfUnits
  | redeemAllAtMaturity _ hguards =>
    refine ⟨_, rfl, hguards, fun f hf => ?_⟩
    obtain ⟨entry, -, rfl⟩ := List.mem_map.mp hf
    simp [Fact.postings, Operation.isAdministrative]
  | lock _ _ hguards =>
    exact admitted_of_fact rfl hguards rfl (by simp [Fact.postings, Posting.move])
      fun _ => List.mem_singleton.mp
  | releaseLock hnamed hguards hl' =>
    -- the record that the guards saw is the one that is released
    cases hnamed.symm.trans ((Ledger.releaseLock_spec h _ _).of_ok hl').1
    refine admitted_of_fact ?_ hguards rfl (by simp [Fact.postings, Posting.move, contextAt])
      fun _ => List.mem_singleton.mp
    rw [contextOf, hnamed]
    rfl
  | createHold _ _ _ _ hguards =>
    exact admitted_of_fact rfl hguards rfl (by simp [Fact.postings, Posting.move])
      fun _ => List.mem_singleton.mp
  | executeHold _ hnamed hguards =>
    refine admitted_of_fact ?_ hguards rfl (by simp [Fact.postings, contextAt])
      fun _ => List.mem_singleton.mp
    rw [contextOf, hnamed]
    rfl
  | releaseHold hnamed hguards =>
    refine admitted_of_fact ?_ hguards rfl (by simp [Fact.postings, Posting.move, contextAt])
      fun _ => List.mem_singleton.mp
    rw [contextOf, hnamed]
    rfl
  | freeze _ _ hguards =>
    exact admitted_of_fact rfl hguards rfl (by simp [Fact.postings, Posting.move])
      fun _ => List.mem_singleton.mp
  | unfreeze _ _ hguards =>
    exact admitted_of_fact rfl hguards rfl (by simp [Fact.postings, Posting.move])
      fun _ => List.mem_singleton.mp
  | createClearing _ _ _ hguards =>
    exact admitted_of_fact rfl hguards rfl (by simp [Fact.postings])
      fun _ => List.mem_singleton.mp
  | approveClearing hnamed hguards hl' =>
    cases hnamed.symm.trans ((Ledger.approveClearing_spec h _ _).of_ok hl').1
    refine admitted_of_fact ?_ hguards rfl (by simp [Fact.postings, contextAt])
      fun _ => List.mem_singleton.mp
    rw [contextOf, hnamed]
    rfl
  | cancelClearing hnamed hguards hl' =>
    cases hnamed.symm.trans ((Ledger.cancelClearing_spec h _).of_ok hl').1
    refine admitted_of_fact ?_ hguards rfl (by simp [Fact.postings, contextAt])
      fun _ => List.mem_singleton.mp
    rw [contextOf, hnamed]
    rfl

/-! ### Balances -/

/-- Whoever's balance a command changes was listed in the context that the guards accepted. -/
theorem listed_of_changed (h : b.ledger.Consistent) {b' : Bond}
    (happlied : execute desk command b = .ok outcome b') :
    ∃ ctx, b.contextOf desk.operator command = some ctx ∧ desk.guards.check ctx = .ok () ∧
      ∀ a q, b'.ledger.balanceOf a q ≠ b.ledger.balanceOf a q →
        a ∈ ctx.accounts ∧ ctx.operation.isAdministrative = false := by
  obtain ⟨facts, changed, hperformed, rfl⟩ := (execute_spec desk h command).of_ok happlied
  obtain ⟨ctx, hctx⟩ := hperformed.admitted h
  refine ⟨ctx, hctx.handed, hctx.accepted, fun a q hchanged => ?_⟩
  refine Classical.byContradiction fun hunlisted => hchanged ?_
  refine (hperformed.explained h).balanceOf_eq (fun f hf p hp heq => hunlisted ?_) q
  rw [← heq]
  exact hctx.listed f hf p hp

/-- A command of a reachable bond changes balances only of accounts that it lists in the context
that it hands to the guards, and is applied only if these accept it.  So an account that one of
the guards bars keeps its balances under every command, whatever other guards there are, wherever
they stand, and whoever gives the command. -/
theorem guarded_balances_kept (h : b.Reachable) (desk : Desk) (command : Command) :
    (∀ outcome b', execute desk command b = .ok outcome b' →
      ∃ ctx, b.contextOf desk.operator command = some ctx ∧ desk.guards.check ctx = .ok () ∧
        ∀ a q, b'.ledger.balanceOf a q ≠ b.ledger.balanceOf a q → a ∈ ctx.accounts) ∧
    ∀ a, (∃ guard ∈ desk.guards, Guard.Bars a guard) →
      ∀ q, (b.after desk command).ledger.balanceOf a q = b.ledger.balanceOf a q := by
  refine ⟨fun outcome b' happlied => ?_, fun a ⟨guard, hguard, hbars⟩ q => ?_⟩
  · obtain ⟨ctx, hhanded, haccepted, hlisted⟩ := listed_of_changed h.consistent happlied
    exact ⟨ctx, hhanded, haccepted, fun a q hchanged => (hlisted a q hchanged).1⟩
  · cases hm : execute desk command b with
    | error e b' => rw [after_of_error hm, (refused_leaves_bond h desk command hm).1]
    | ok outcome b' =>
      rw [after_of_ok hm]
      obtain ⟨ctx, -, haccepted, hlisted⟩ := listed_of_changed h.consistent hm
      refine Classical.byContradiction fun hchanged => ?_
      obtain ⟨ha, hbalances⟩ := hlisted a q hchanged
      exact hbars.refuses ha hbalances (GuardChain.check_eq_ok_iff.mp haccepted guard hguard)

/-- A bond on which six of ten units are held for their holder. -/
def heldBond : Bond :=
  sampleBond.after (openDesk 5) (.createHold (.ofLow 7) .default 6 (.ofLow 9) none 100)

/-- The holder of the held units is known through the record alone.  When the account is blocked,
behind a guard that accepts everything, the units are not paid out; without the guards they are,
and the two accounts whose balances change were listed. -/
theorem held_balances_kept :
    let chain : GuardChain := [fun _ => .ok (), .controlList (.ofList [(.ofLow 7, ())])]
    let command : Command := .executeHold 1 (.ofLow 8) 2
    (∀ q, (heldBond.after ⟨6, chain, none⟩ command).ledger.balanceOf (.ofLow 7) q =
      heldBond.ledger.balanceOf (.ofLow 7) q) ∧
    ∃ outcome b', execute (openDesk 6) command heldBond = .ok outcome b' ∧
      b'.ledger.balanceOf (.ofLow 8) .default = ⟨2, 0, 0, 0, 0⟩ ∧
      ∃ ctx, heldBond.contextOf none command = some ctx ∧
        ∀ a q, b'.ledger.balanceOf a q ≠ heldBond.ledger.balanceOf a q → a ∈ ctx.accounts := by
  intro chain command
  have hopened : create sampleConfig = .ok (opened sampleConfig) := rfl
  have hreachable : heldBond.Reachable := .after _ _ (.after _ _ (.created hopened))
  have hbarred : ∃ guard ∈ chain, Guard.Bars (.ofLow 7) guard :=
    ⟨_, List.mem_cons_of_mem _ List.mem_cons_self, .blocked (by decide)⟩
  have hkept := (guarded_balances_kept hreachable ⟨6, chain, none⟩ command).2 (.ofLow 7) hbarred
  have happlied : ∃ outcome b', execute (openDesk 6) command heldBond = .ok outcome b' ∧
      b'.ledger.balanceOf (.ofLow 8) .default = ⟨2, 0, 0, 0, 0⟩ := ⟨_, _, rfl, rfl⟩
  obtain ⟨outcome, b', happlied, hpaid⟩ := happlied
  obtain ⟨ctx, hhanded, -, hlisted⟩ :=
    (guarded_balances_kept hreachable (openDesk 6) command).1 outcome b' happlied
  exact ⟨hkept, outcome, b', happlied, hpaid, ctx, hhanded, hlisted⟩

end Bond

end CouponBond
