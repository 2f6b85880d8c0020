import CouponBond.Proofs.Postings
import Mathlib.Algebra.BigOperators.Group.List.Basic

/-!
# Full redemption at maturity

What a holder can redeem is planned first and redeemed then, one partition after the other.  Every
redemption rewrites the book of its partition and may drop the row, and the holder, altogether;
the plan stays valid all the same, because it names every partition once and no redemption
touches the balances of another one.  So the loop takes from each partition exactly what was
available there, and leaves what is locked, held, frozen or reserved.

## Main Definitions

* `Bond.planned` — what a plan takes from a partition
* `Bond.RedeemsAll` — everything available is redeemed and nothing else happens

## Main Results

* `Bond.planned_redeemable` — the plan takes what is available, in every partition
* `Bond.redeemsAll_of_redeemEach` — what carrying the plan out leaves
* `Bond.Reachable.redeems_all` — full redemption succeeds, and a second one finds nothing
-/

namespace CouponBond

namespace Bond

open AllOrNothing

/-! ### Plans -/

/-- What a plan takes from a partition. -/
def planned (plan : List (Partition × Amount)) (q : Partition) : Nat :=
  (plan.map fun entry => if entry.1 = q then entry.2.toNat else 0).sum

section Plan

variable {plan : List (Partition × Amount)} {l l' : Ledger} {holder : Address}

theorem planned_eq_zero {q : Partition} (h : q ∉ plan.map Prod.fst) : planned plan q = 0 := by
  refine List.sum_eq_zero fun n hn => ?_
  obtain ⟨entry, hentry, rfl⟩ := List.mem_map.mp hn
  exact if_neg fun heq => h (List.mem_map.mpr ⟨entry, hentry, heq⟩)

/-- A plan that names every partition once takes from each what it says there. -/
theorem planned_of_mem (hnodup : (plan.map Prod.fst).Nodup) {entry : Partition × Amount}
    (h : entry ∈ plan) : planned plan entry.1 = entry.2.toNat := by
  induction plan with
  | nil => cases h
  | cons first rest ih =>
    obtain ⟨hfirst, hrest⟩ := List.nodup_cons.mp hnodup
    unfold planned
    rw [List.map_cons, List.sum_cons]
    rcases List.mem_cons.mp h with rfl | hlater
    · rw [if_pos rfl]
      exact congrArg (entry.2.toNat + ·) (planned_eq_zero hfirst)
    · have hne : first.1 ≠ entry.1 := fun heq =>
        hfirst (List.mem_map.mpr ⟨entry, hlater, heq.symm⟩)
      rw [if_neg hne, Nat.zero_add]
      exact ih hrest hlater

/-- The plan of full redemption takes what is available, in every partition. -/
theorem planned_redeemable (l : Ledger) (holder : Address) (q : Partition) :
    planned (redeemable l holder) q = (l.balanceOf holder q).available.toNat := by
  by_cases hnone : (l.balanceOf holder q).available = 0
  · rw [hnone]
    refine planned_eq_zero fun hq => ?_
    obtain ⟨⟨_, units⟩, hentry, rfl⟩ := List.mem_map.mp hq
    obtain ⟨rfl, hne⟩ := mem_redeemable_iff.mp hentry
    exact hne hnone
  · exact planned_of_mem (nodup_redeemable l holder) (mem_redeemable_iff.mpr ⟨rfl, hnone⟩)

/-- The facts of a plan take from the free units of the holder what is planned. -/
theorem sum_gain_redeemedAtMaturity (plan : List (Partition × Amount)) (holder : Address)
    (q : Partition) (k : Bucket) :
    ((plan.map fun entry => Fact.redeemedAtMaturity holder entry.1 entry.2).map
        (Fact.gain holder q k)).sum = -(if k = .free then planned plan q else 0 : Nat) := by
  induction plan with
  | nil => simp [planned]
  | cons entry rest ih =>
    have hone : Fact.gain holder q k (.redeemedAtMaturity holder entry.1 entry.2) =
        -(if k = .free then if entry.1 = q then entry.2.toNat else 0 else 0 : Nat) := by
      simp only [Fact.gain, Fact.postings, List.map_singleton, List.sum_singleton, Posting.gain,
        Entry.gain, true_and]
      split <;> split <;> rfl
    rw [List.map_cons, List.map_cons, List.sum_cons, hone, ih, planned, planned, List.map_cons,
      List.sum_cons]
    split <;> omega

/-! ### What full redemption leaves -/

/-- Everything that is available to a holder is redeemed, and nothing else happens. -/
structure RedeemsAll (l : Ledger) (holder : Address) (plan : List (Partition × Amount))
    (l' : Ledger) : Prop where
  /-- The partitions come in their order, each of them once. -/
  ascending : (plan.map Prod.fst).Pairwise fun p q => rank p < rank q
  mem_iff : ∀ q units,
    (q, units) ∈ plan ↔ units = (l.balanceOf holder q).available ∧ units ≠ 0
  available_eq : ∀ q, (l'.balanceOf holder q).available = 0
  free_eq : ∀ q, (l'.balanceOf holder q).free.toNat + (l.balanceOf holder q).available.toNat =
    (l.balanceOf holder q).free.toNat
  encumbered_eq : ∀ q k, k ≠ .free → (l'.balanceOf holder q).get k = (l.balanceOf holder q).get k
  others_eq : ∀ a q, a ≠ holder → l'.balanceOf a q = l.balanceOf a q
  supply_eq : ∀ q units, (q, units) ∈ plan →
    (l'.totalSupply q).toNat + units.toNat = (l.totalSupply q).toNat
  supply_kept : ∀ q, q ∉ plan.map Prod.fst → l'.totalSupply q = l.totalSupply q

/-- What carrying out the plan of full redemption leaves. -/
theorem redeemsAll_of_redeemEach (h : l.Consistent)
    (hl' : redeemEach holder (redeemable l holder) l = .ok () l') :
    RedeemsAll l holder (redeemable l holder) l' := by
  have hpos : ∀ entry ∈ redeemable l holder, entry.2 ≠ 0 := fun entry hentry =>
    (mem_redeemable_iff.mp hentry).2
  have hexplained := Ledger.explained_redeemEach h hpos hl'
  have hget : ∀ q k, ((l'.balanceOf holder q).get k).toNat +
      (if k = .free then (l.balanceOf holder q).available.toNat else 0) =
        ((l.balanceOf holder q).get k).toNat := by
    intro q k
    have hsum := hexplained.toNat_get holder q k
    rw [sum_gain_redeemedAtMaturity, planned_redeemable] at hsum
    omega
  have hsupply : ∀ q, (l'.totalSupply q).toNat + planned (redeemable l holder) q =
      (l.totalSupply q).toNat := by
    intro q
    have hsum := hexplained.supply q
    rw [List.map_map, List.map_map] at hsum
    have hissued : ((redeemable l holder).map (Fact.issuedIn q ∘ fun entry =>
        .redeemedAtMaturity holder entry.1 entry.2)).sum = 0 :=
      List.sum_eq_zero fun n hn => by
        obtain ⟨entry, -, rfl⟩ := List.mem_map.mp hn
        rfl
    rw [hissued] at hsum
    exact hsum
  have hfree : ∀ q, (l'.balanceOf holder q).free.toNat +
      (l.balanceOf holder q).available.toNat = (l.balanceOf holder q).free.toNat :=
    fun q => hget q .free
  have hencumbered : ∀ q k, k ≠ .free →
      (l'.balanceOf holder q).get k = (l.balanceOf holder q).get k := by
    intro q k hk
    have hkept := hget q k
    rw [if_neg hk, Nat.add_zero] at hkept
    exact UInt64.toNat_inj.mp hkept
  refine ⟨ascending_redeemable l holder, fun q units => mem_redeemable_iff, fun q => ?_, hfree,
    hencumbered, fun a q hne => ?_, fun q units hentry => ?_, fun q hq => ?_⟩
  · -- what is left free is reserved
    have hcleared : (l'.balanceOf holder q).cleared = (l.balanceOf holder q).cleared :=
      hencumbered q .cleared nofun
    have hleft := hfree q
    rw [Balance.toNat_available] at hleft
    rw [← UInt64.toNat_inj, Balance.toNat_available, hcleared, UInt64.toNat_zero]
    omega
  · refine hexplained.balanceOf_eq (fun f hf p hp => ?_) q
    obtain ⟨entry, -, rfl⟩ := List.mem_map.mp hf
    obtain rfl := List.mem_singleton.mp hp
    exact hne.symm
  · rw [← hsupply q, planned_of_mem (nodup_redeemable l holder) hentry]
  · have hnone := hsupply q
    rw [planned_eq_zero hq, Nat.add_zero] at hnone
    exact UInt64.toNat_inj.mp hnone

/-- After full redemption there is nothing left to plan. -/
theorem RedeemsAll.redeemable_eq_nil (h : RedeemsAll l holder plan l') :
    redeemable l' holder = [] := by
  refine List.eq_nil_iff_forall_not_mem.mpr fun entry hentry => ?_
  obtain ⟨hunits, hne⟩ := mem_redeemable_iff.mp hentry
  exact hne (hunits.trans (h.available_eq entry.1))

end Plan

/-! ### The command -/

variable {b b' : Bond} {desk : Desk} {holder : Address}

/-- A full redemption is due: the guards let the holder pass, and the maturity date is past. -/
structure RedemptionDue (desk : Desk) (b : Bond) (holder : Address) : Prop where
  holder_valid : holder.isZero = false
  guards_pass : desk.guards.check (contextAt desk .redeemAtMaturity [holder] none) = .ok ()
  matured : b.terms.maturityDate < desk.now

/-- A command that passes the guards ends when its change does. -/
theorem run_eq_ok {α : Type} {ctx : CommandContext} {apply : BondChange (Applied α)} {value : α}
    {facts : List Fact} {changed : Bond} (hguards : desk.guards.check ctx = .ok ())
    (happly : apply b = .ok (value, facts) changed) :
    run desk ctx apply b = .ok value (b.closed desk.now changed facts) := by
  unfold run
  rw [hguards]
  exact (bind_ok happly).trans rfl

/-- A full redemption that is due carries its plan out. -/
theorem RedemptionDue.execute_eq_ok (hdue : RedemptionDue desk b holder)
    (h : b.ledger.Consistent) : ∃ l',
      redeemEach holder (redeemable b.ledger holder) b.ledger = .ok () l' ∧
      execute desk (.redeemAllAtMaturity holder) b =
        .ok (.fullyRedeemed (redeemable b.ledger holder))
          (b.closed desk.now { b with ledger := l' }
            ((redeemable b.ledger holder).map fun entry =>
              .redeemedAtMaturity holder entry.1 entry.2)) := by
  obtain ⟨l', hl', -⟩ := exists_redeemEach_redeemable h holder
  have hholder : requireHolder holder b = .ok () b := by
    unfold requireHolder
    rw [hdue.holder_valid]
    rfl
  have hmatured : requireMatured desk.now b = .ok () b := by
    have hpast : b.terms.isMatured desk.now = true := decide_eq_true hdue.matured
    refine (bind_ok rfl).trans ?_
    simp only [hpast, Bool.not_true, Bool.false_eq_true, if_false]
    rfl
  have hredeemed : redeemAllAtMaturity desk holder b = .ok (redeemable b.ledger holder)
      (b.closed desk.now { b with ledger := l' } ((redeemable b.ledger holder).map fun entry =>
        .redeemedAtMaturity holder entry.1 entry.2)) := by
    refine (bind_ok hholder).trans (run_eq_ok hdue.guards_pass ?_)
    refine (bind_ok hmatured).trans ?_
    exact (bind_ok (onLedger_ok hl')).trans rfl
  exact ⟨l', hl', (bind_ok hredeemed).trans rfl⟩

/-- A full redemption that is due succeeds.  It answers what was available in each partition,
redeems that and nothing else, and the log gains one event for each partition, behind those of the
snapshots that were due.  When it is due again, it finds nothing to redeem. -/
theorem Reachable.redeems_all (h : b.Reachable) (hdue : RedemptionDue desk b holder) :
    ∃ plan b', execute desk (.redeemAllAtMaturity holder) b = .ok (.fullyRedeemed plan) b' ∧
      RedeemsAll b.ledger holder plan b'.ledger ∧
      (∃ notices : List SnapshotNotice, b'.events = b.events ++
        notices.map (fun notice => ⟨desk.now, noticeFact notice⟩) ++
        plan.map fun entry => ⟨desk.now, .redeemedAtMaturity holder entry.1 entry.2⟩) ∧
      RedemptionDue desk b' holder ∧
      ∀ later : Desk, RedemptionDue later b' holder → ∃ b'',
        execute later (.redeemAllAtMaturity holder) b' = .ok (.fullyRedeemed []) b'' ∧
          b''.ledger = b'.ledger := by
  obtain ⟨l', hl', hdone⟩ := hdue.execute_eq_ok h.consistent
  have hall := redeemsAll_of_redeemEach h.consistent hl'
  have hconsistent := (h.after desk (.redeemAllAtMaturity holder)).consistent
  rw [after_of_ok hdone] at hconsistent
  obtain ⟨notices, hevents⟩ := exists_events_closed b desk.now { b with ledger := l' }
    ((redeemable b.ledger holder).map fun entry => .redeemedAtMaturity holder entry.1 entry.2)
  rw [List.map_map, List.map_map] at hevents
  refine ⟨_, _, hdone, hall, ⟨notices, hevents⟩,
    ⟨hdue.holder_valid, hdue.guards_pass, hdue.matured⟩, fun later hlater => ?_⟩
  obtain ⟨l'', hl'', hagain⟩ := hlater.execute_eq_ok hconsistent
  rw [ledger_closed, hall.redeemable_eq_nil] at hl'' hagain
  cases hl''
  exact ⟨_, hagain, rfl⟩

/-- A holder has ten units in one partition, of which four are locked and two reserved, three in a
second one, all of them frozen, and five free ones in a third one. -/
def samplePortfolio : Bond :=
  opened { sampleConfig with isMultiPartition := true }
    |>.after (openDesk 5) (.issue (.ofLow 7) .default 10)
    |>.after (openDesk 5) (.lock (.ofLow 7) .default 4 2000)
    |>.after (openDesk 5) (.createClearing (.ofLow 7) (.ofLow 8) .default 2 2000)
    |>.after (openDesk 5) (.issue (.ofLow 7) (.ofLow 2) 3)
    |>.after (openDesk 5) (.freeze (.ofLow 7) (.ofLow 2) 3)
    |>.after (openDesk 5) (.issue (.ofLow 7) (.ofLow 3) 5)

/-- The four units that are available in the first partition are redeemed, and the five of the
third one, whose row is dropped. -/
theorem sample_portfolio_redeemed :
    ∃ b', execute (openDesk 1001) (.redeemAllAtMaturity (.ofLow 7)) samplePortfolio =
        .ok (.fullyRedeemed [(.default, 4), (.ofLow 3, 5)]) b' ∧
      RedeemsAll samplePortfolio.ledger (.ofLow 7) [(.default, 4), (.ofLow 3, 5)] b'.ledger ∧
      b'.ledger.partitionsOf (.ofLow 7) = [.default, .ofLow 2] ∧
      ∃ b'', execute (openDesk 1001) (.redeemAllAtMaturity (.ofLow 7)) b' =
        .ok (.fullyRedeemed []) b'' ∧ b''.ledger = b'.ledger := by
  have hopened : create { sampleConfig with isMultiPartition := true } =
      .ok (opened { sampleConfig with isMultiPartition := true }) := rfl
  have hreachable : samplePortfolio.Reachable :=
    .after _ _ (.after _ _ (.after _ _ (.after _ _ (.after _ _ (.after _ _ (.created hopened))))))
  have hdue : RedemptionDue (openDesk 1001) samplePortfolio (.ofLow 7) :=
    ⟨by decide, rfl, by decide⟩
  have hanswer : execute (openDesk 1001) (.redeemAllAtMaturity (.ofLow 7)) samplePortfolio =
      .ok (.fullyRedeemed [(.default, 4), (.ofLow 3, 5)])
        (samplePortfolio.after (openDesk 1001) (.redeemAllAtMaturity (.ofLow 7))) := rfl
  obtain ⟨plan, b', hdone, hall, -, hstill, hagain⟩ := hreachable.redeems_all hdue
  cases hanswer.symm.trans hdone
  exact ⟨_, hdone, hall, by decide, hagain _ hstill⟩

end Bond

end CouponBond
