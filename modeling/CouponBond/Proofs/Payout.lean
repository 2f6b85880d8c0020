import CouponBond.Proofs.EntitlementArithmetic
import CouponBond.Proofs.LedgerArithmetic
import Mathlib.Algebra.BigOperators.Ring.List
import Mathlib.Algebra.Ring.Nat

/-!
# A coupon is paid out in full

From its record date on, a coupon is owed to the holders that the bond lists for it.  The list
names everyone to whom something is owed, and nobody twice, however it is cut into pages; and what
the holders are owed adds up to what the whole supply earns.

Both ways of answering come from a consistent ledger: the live one, or the one of which the
snapshot was taken.  There the registry lists the holders, and what they own over all partitions
is the supply, since the two sums, over holders and over partitions, can be exchanged.

## Main Definitions

* `Bond.couponPages` — the list of holders, put together from pages
* `Bond.entitledSupply` — the supply that counts for a coupon
* `Bond.PaysOut` — a coupon is paid out in full to a list of holders
* `Session.Payable` — what is kept for actions comes from ledgers, and coupons were checked

## Main Results

* `SortedMap.sum_map_sumOf` — sums over a list and over a map can be exchanged
* `Ledger.Consistent.sum_holdingOf` — the holders own the supply of all partitions
* `Coupon.exists_amountFrom` — what is owed for a balance is computed exactly
* `Session.Payable.run` — every history keeps the invariant
* `Session.coupon_paid_out` — every coupon is paid out in full
-/

namespace CouponBond

/-! ### Sums over a list of keys -/

namespace SortedMap

variable {K V : Type} [Ranked K]

/-- Summing the figures of a list over a map is summing the figures of the map over the list. -/
theorem sum_map_sumOf {α : Type} (m : SortedMap K V) (l : List α) (figure : α → V → Nat) :
    (l.map fun a => m.sumOf (figure a)).sum = m.sumOf fun v => (l.map fun a => figure a v).sum := by
  induction l with
  | nil => exact (sumOf_zero m).symm
  | cons a rest ih =>
    simp only [List.map_cons, List.sum_cons]
    rw [ih, ← sumOf_add]

/-- Keys that are listed once, and among which every key with a figure is, add up to the map. -/
theorem sum_map_get? (m : SortedMap K V) (figure : V → Nat) {l : List K} (hnodup : l.Nodup)
    (hlisted : ∀ k v, m.get? k = some v → figure v ≠ 0 → k ∈ l) :
    (l.map fun k => (m.get? k).elim 0 figure).sum = m.sumOf figure := by
  induction l generalizing m with
  | nil =>
    have hnone : m.sumOf figure = m.sumOf fun _ => 0 := by
      refine sumOf_congr fun k v hv => Decidable.byContradiction fun hne => ?_
      exact absurd (hlisted k v hv hne) List.not_mem_nil
    rw [hnone, sumOf_zero]
    rfl
  | cons k rest ih =>
    obtain ⟨hk, hrest⟩ := List.nodup_cons.mp hnodup
    -- without the first key, the others read as before
    have hsame : ∀ k' ∈ rest, (m.erase k).get? k' = m.get? k' := by
      intro k' hk'
      have hne : ¬ rank k' = rank k := fun e => hk (rank_inj.mp e ▸ hk')
      rw [get?_erase, if_neg hne]
    have hother : ∀ k' v, (m.erase k).get? k' = some v → figure v ≠ 0 → k' ∈ rest := by
      intro k' v hv hne
      rw [get?_erase] at hv
      split at hv
      · cases hv
      · next hne' =>
        refine (List.mem_cons.mp (hlisted k' v hv hne)).resolve_left fun e => hne' ?_
        rw [e]
    have hsum : (rest.map fun k' => (m.get? k').elim 0 figure).sum = (m.erase k).sumOf figure := by
      rw [← ih (m.erase k) hrest hother]
      exact congrArg List.sum (List.map_congr_left fun k' hk' => by rw [hsame k' hk'])
    rw [List.map_cons, List.sum_cons, hsum, ← m.sumOf_erase figure k, Nat.add_comm]

end SortedMap

/-! ### What all holders own -/

theorem Registry.nodup_allHolders (r : Registry) : r.allHolders.Nodup := r.all.nodup_members

/-- Accounts that are listed once, every owner among them, own what a book holds. -/
theorem Ledger.sum_balanceOf (b : Book) {accounts : List Address} (hnodup : accounts.Nodup)
    (hlisted : ∀ a, (b.balanceOf a).sum ≠ 0 → a ∈ accounts) :
    (accounts.map fun a => (b.balanceOf a).sum).sum = bookSum b := by
  have hrow : ∀ a, (b.balanceOf a).sum = (b.balances.get? a).elim 0 Balance.sum := by
    intro a
    unfold Book.balanceOf
    cases b.balances.get? a <;> rfl
  simp only [hrow] at hlisted ⊢
  refine SortedMap.sum_map_get? b.balances Balance.sum hnodup fun a v hv hne => hlisted a ?_
  rw [hv]
  exact hne

namespace Ledger.Consistent

variable {l : Ledger}

/-- The holders own the supply of all partitions. -/
theorem sum_holdingOf (h : l.Consistent) :
    (l.registry.allHolders.map fun a => (l.holdingOf a).toNat).sum = l.totalSupplyAll := by
  have hexact := h.exact
  have hbook : ∀ q b, l.books.get? q = some b →
      (l.registry.allHolders.map fun a => (b.balanceOf a).sum).sum = b.totalSupply.toNat := by
    intro q b hb
    have hread : l.book q = b := by
      rw [book, hb, Option.getD_some]
    have hconserved := h.conserved q
    rw [totalSupply, hread] at hconserved
    rw [← hconserved]
    refine sum_balanceOf b l.registry.nodup_allHolders fun a hne => ?_
    -- whoever owns something in one book owns something at all
    refine (h.mem_allHolders_iff a).mpr fun hzero => hne ?_
    have hpart := SortedMap.le_sumOf_of_get? (fun b => (b.balanceOf a).sum) hb
    rw [← hexact.holding a, hzero, UInt64.toNat_zero] at hpart
    exact Nat.le_zero.mp hpart
  calc (l.registry.allHolders.map fun a => (l.holdingOf a).toNat).sum
    _ = (l.registry.allHolders.map fun a => l.books.sumOf fun b => (b.balanceOf a).sum).sum := by
      simp only [hexact.holding]
    _ = l.books.sumOf fun b => (l.registry.allHolders.map fun a => (b.balanceOf a).sum).sum :=
      SortedMap.sum_map_sumOf _ _ _
    _ = l.totalSupplyAll := SortedMap.sumOf_congr hbook

/-- What was kept of a consistent ledger adds up to its supply. -/
theorem totalSupply_ofLedger (h : l.Consistent) :
    (Holdings.ofLedger l).totalSupply = l.totalSupplyAll := by
  rw [← h.sum_holdingOf, Holdings.totalSupply,
    ← SortedMap.sum_map_get? _ UInt64.toNat l.registry.nodup_allHolders]
  · refine congrArg List.sum (List.map_congr_left fun a ha => ?_)
    rw [Holdings.get?_totals_ofLedger, if_pos ha, Option.elim_some]
  · intro a v hv _
    rw [Holdings.get?_totals_ofLedger] at hv
    split at hv
    · assumption
    · cases hv

end Ledger.Consistent

/-! ### Amounts -/

namespace Coupon

/-- What an amount of a coupon is divided by. -/
def divisor (terms : Terms) (coupon : Coupon) : Nat :=
  10 ^ (terms.tokenDecimals.toNat + terms.nominalValueDecimals.toNat +
    coupon.rateDecimals.toNat) * Clock.year.toNat

/-- What is owed for a balance is computed exactly, as long as the decimal places of the token,
the face value and the rate leave room for the seconds of a year. -/
theorem exists_amountFrom_of_le {terms : Terms} {coupon : Coupon}
    (hplaces : terms.tokenDecimals.toNat + terms.nominalValueDecimals.toNat +
      coupon.rateDecimals.toNat ≤ 69) (balance : Amount) :
    ∃ share, coupon.amountFrom terms balance = .ok share ∧
      share.amount.numerator.toNat = balance.toNat *
        (terms.nominalValue.toNat * coupon.rate.toNat * coupon.period.toNat) ∧
      share.amount.denominator.toNat = coupon.divisor terms := by
  obtain ⟨r, hanswer, hnumerator, hdenominator⟩ :=
    (coupon.amountFrom_exactly terms balance).answered (scaledYear_lt_iff.mpr hplaces)
  refine ⟨⟨r, true⟩, hanswer, ?_, hdenominator⟩
  rw [hnumerator, owed, period, Unsigned.toNat_subFloored, Nat.mul_assoc, Nat.mul_assoc,
    Nat.mul_assoc]

/-- What is owed for a balance is computed exactly, as long as there are no more decimal places
than allowed. -/
theorem exists_amountFrom {terms : Terms} {coupon : Coupon}
    (htoken : terms.tokenDecimals ≤ maxDecimals)
    (hnominal : terms.nominalValueDecimals ≤ maxDecimals)
    (hrate : coupon.rateDecimals ≤ maxDecimals) (balance : Amount) :
    ∃ share, coupon.amountFrom terms balance = .ok share ∧
      share.amount.numerator.toNat = balance.toNat *
        (terms.nominalValue.toNat * coupon.rate.toNat * coupon.period.toNat) ∧
      share.amount.denominator.toNat = coupon.divisor terms := by
  have hmax : maxDecimals.toNat = 18 := rfl
  rw [UInt8.le_iff_toNat_le, hmax] at htoken hnominal hrate
  exact exists_amountFrom_of_le (by omega) balance

end Coupon

/-! ### Pages and payouts -/

namespace Bond

/-- The holders entitled to a coupon, put together from the pages between the given bounds. -/
def couponPages (b : Bond) (now : Timestamp) (couponId : UInt64) (start : Nat) :
    List Nat → Except BondError (List Address)
  | [] => .ok []
  | stop :: rest => do
    let page ← b.couponHolders now couponId start stop
    let others ← b.couponPages now couponId stop rest
    return page ++ others

/-- The supply that counts for a coupon: that of its snapshot, or the live one. -/
def entitledSupply (b : Bond) (found : RegisteredCoupon) : Nat :=
  match b.snapshots.get? found.snapshotId with
  | some snapshot => snapshot.holdings.totalSupply
  | none => b.ledger.totalSupplyAll

/-- A coupon is paid out in full to a list of holders. -/
structure PaysOut (b : Bond) (now : Timestamp) (couponId : UInt64) (coupon : Coupon)
    (supply : Nat) (holders : List Address) : Prop where
  counted : b.couponHolderCount now couponId = .ok holders.length
  listed : b.couponHolders now couponId 0 holders.length = .ok holders
  nodup : holders.Nodup
  /-- Exactly those are listed whose balance counts. -/
  mem_iff : ∀ a, ∃ share, b.couponFor now couponId a = .ok share ∧
    (a ∈ holders ↔ share.tokenBalance ≠ 0)
  /-- Pages that do not overlap and reach to the end make up the list. -/
  paged : ∀ bounds : List Nat, (0 :: bounds).Pairwise (· ≤ ·) →
    holders.length ≤ bounds.getLastD 0 → b.couponPages now couponId 0 bounds = .ok holders
  /-- The amounts over one common divisor add up to what the supply earns. -/
  paid : ∃ amounts, holders.mapM (b.couponAmountFor now couponId) = .ok amounts ∧
    (∀ share ∈ amounts, share.amount.denominator.toNat = coupon.divisor b.terms) ∧
    (amounts.map fun share => share.amount.numerator.toNat).sum =
      supply * (b.terms.nominalValue.toNat * coupon.rate.toNat * coupon.period.toNat)

variable {b : Bond} {now : Timestamp} {couponId : UInt64} {coupon : Coupon} {l : Ledger}

/-- Pages that do not overlap make up what is left of the list behind their start. -/
theorem couponPages_eq {holders : List Address}
    (hpage : ∀ start stop, b.couponHolders now couponId start stop =
      .ok (pageOf holders start stop)) {start : Nat} {bounds : List Nat}
    (hascending : (start :: bounds).Pairwise (· ≤ ·))
    (hlast : holders.length ≤ bounds.getLastD start) :
    b.couponPages now couponId start bounds = .ok (holders.drop start) := by
  induction bounds generalizing start with
  | nil =>
    have hend : holders.length ≤ start := hlast
    rw [couponPages, List.drop_of_length_le hend]
  | cons stop rest ih =>
    obtain ⟨hstart, hrest⟩ := List.pairwise_cons.mp hascending
    have hle : start ≤ stop := hstart stop List.mem_cons_self
    rw [List.getLastD_cons] at hlast
    have hcut : pageOf holders start stop ++ holders.drop stop = holders.drop start := by
      have hbehind : holders.drop stop = (holders.drop start).drop (stop - start) := by
        rw [List.drop_drop, Nat.add_sub_cancel' hle]
      rw [hbehind]
      exact List.take_append_drop _ _
    rw [couponPages, hpage, ih hrest hlast, ← hcut]
    rfl

/-- Questions that are all answered are answered one after the other. -/
theorem exists_mapM {α β ε : Type} {f : α → Except ε β} {value : β → Nat} {weight : α → Nat}
    {P : β → Prop} (h : ∀ a, ∃ answer, f a = .ok answer ∧ value answer = weight a ∧ P answer)
    (questions : List α) : ∃ answers, questions.mapM f = .ok answers ∧
      answers.map value = questions.map weight ∧ ∀ answer ∈ answers, P answer := by
  induction questions with
  | nil => exact ⟨[], rfl, rfl, fun _ hanswer => nomatch hanswer⟩
  | cons a rest ih =>
    obtain ⟨answer, hanswer, hvalue, hP⟩ := h a
    obtain ⟨answers, hanswers, hvalues, hall⟩ := ih
    refine ⟨answer :: answers, ?_, ?_, ?_⟩
    · rw [List.mapM_cons, hanswer, hanswers]
      rfl
    · rw [List.map_cons, List.map_cons, hvalue, hvalues]
    · exact List.forall_mem_cons.mpr ⟨hP, hall⟩

/-- A coupon that is answered from a consistent ledger is paid out in full. -/
theorem Answers.paysOut (h : b.Answers now b.terms couponId coupon l) (hl : l.Consistent)
    (htoken : b.terms.tokenDecimals ≤ maxDecimals)
    (hnominal : b.terms.nominalValueDecimals ≤ maxDecimals)
    (hrate : coupon.rateDecimals ≤ maxDecimals) :
    b.PaysOut now couponId coupon l.totalSupplyAll l.registry.allHolders := by
  have hpage : ∀ start stop, b.couponHolders now couponId start stop =
      .ok (pageOf l.registry.allHolders start stop) := by
    intro start stop
    rw [h.couponHolders, Registry.sliceAll_eq_pageOf]
  refine ⟨?_, ?_, l.registry.nodup_allHolders, fun a => ?_, fun bounds hascending hlast => ?_, ?_⟩
  · rw [h.couponHolderCount, Registry.totalCount_eq_length]
  · rw [hpage, pageOf, List.drop_zero, Nat.sub_zero, List.take_length]
  · exact ⟨_, h.couponFor a, hl.mem_allHolders_iff a⟩
  · exact couponPages_eq hpage hascending hlast
  · have hamount : ∀ a, ∃ share, b.couponAmountFor now couponId a = .ok share ∧
        share.amount.numerator.toNat = (l.holdingOf a).toNat *
          (b.terms.nominalValue.toNat * coupon.rate.toNat * coupon.period.toNat) ∧
        share.amount.denominator.toNat = coupon.divisor b.terms := by
      intro a
      obtain ⟨share, hshare, hexact⟩ :=
        coupon.exists_amountFrom htoken hnominal hrate (l.holdingOf a)
      refine ⟨share, ?_, hexact⟩
      rw [h.couponAmountFor, hshare]
      rfl
    obtain ⟨amounts, hamounts, hvalues, hdivisor⟩ := exists_mapM hamount l.registry.allHolders
    refine ⟨amounts, hamounts, hdivisor, ?_⟩
    rw [hvalues, List.sum_map_mul_right _ (fun a => (l.holdingOf a).toNat), hl.sum_holdingOf]

/-- The snapshot a coupon points to is what was kept for it. -/
theorem map_holdings_of_couponOf {found : RegisteredCoupon}
    (h : b.couponOf couponId = .ok found) :
    (b.snapshots.get? found.snapshotId).map Snapshot.holdings = b.kept found.actionId := by
  unfold couponOf at h
  split at h
  · cases h
  · split at h
    · cases h
    · next action haction =>
      split at h
      · cases h
        unfold kept SnapshotBook.kept
        rw [haction]
      · cases h

/-- The supply that counts is that of the balances that count. -/
theorem entitledSupply_eq {found : RegisteredCoupon} (hledger : b.ledger.Consistent)
    (h : b.couponOf couponId = .ok found) :
    b.entitledSupply found = (b.recorded found.actionId).totalSupply := by
  unfold entitledSupply recorded
  rw [← map_holdings_of_couponOf h]
  cases b.snapshots.get? found.snapshotId with
  | some snapshot => rfl
  | none => exact hledger.totalSupply_ofLedger.symm

end Bond

/-! ### Histories -/

/-- A bond that can be opened has no more decimal places than allowed. -/
theorem Config.decimals_le_of_check {config : Config} (h : config.check = .ok ()) :
    config.tokenDecimals ≤ maxDecimals ∧ config.nominalValueDecimals ≤ maxDecimals := by
  unfold check at h
  split at h
  · cases h
  · split at h
    · cases h
    · split at h
      · cases h
      · next hdecimals =>
        obtain ⟨hnominal, htoken⟩ := not_or.mp hdecimals
        exact ⟨UInt8.not_lt.mp htoken, UInt8.not_lt.mp hnominal⟩

namespace Session

/-- What is kept for actions was taken from consistent ledgers, and the rates of coupons have no
more decimal places than allowed. -/
structure Payable (config : Config) (s : Session) : Prop where
  sound : s.Sound config
  kept : ∀ id holdings, s.bond.kept id = some holdings →
    ∃ l : Ledger, l.Consistent ∧ holdings = .ofLedger l
  rateDecimals_le : ∀ id coupon, s.bond.actions.kindOf? id = some (.coupon coupon) →
    coupon.rateDecimals ≤ maxDecimals

variable {config : Config} {s : Session} {couponId : UInt64}

theorem payable_of_create {b : Bond} (h : Bond.create config = .ok b) (clock : Clock) :
    Payable config ⟨b, clock⟩ := by
  have hnone : ∀ id, b.actions.kindOf? id = none := by
    obtain ⟨-, rfl⟩ := Bond.create_eq_ok_iff.mp h
    exact ActionStore.kindOf?_empty
  refine ⟨sound_of_create h clock, ?_, ?_⟩
  · intro id holdings hkept
    cases (SnapshotBook.kept_eq_none (hnone id)).symm.trans hkept
  · intro id coupon hknown
    cases (hnone id).symm.trans hknown

/-- Every move keeps the invariant. -/
theorem Payable.step (h : s.Payable config) (move : Move) : (s.step move).2.Payable config := by
  rcases h.sound.step_cases move with halike | hsucceeds
  · refine ⟨h.sound.step move, ?_, ?_⟩
    · intro id
      rw [halike.congr (Bond.kept · id) fun _ _ => rfl]
      exact h.kept id
    · intro id
      rw [halike.congr (fun b => b.actions.kindOf? id) fun _ _ => rfl]
      exact h.rateDecimals_le id
  · refine ⟨h.sound.step move, ?_, ?_⟩
    · intro id holdings hafter
      cases hknown : s.bond.actions.kindOf? id with
      | none =>
        rw [hsucceeds.kept_of_new id hknown] at hafter
        cases hafter
      | some kind =>
        rw [hsucceeds.kept_of_known id kind hknown, Option.or_eq_some_iff] at hafter
        rcases hafter with hbefore | ⟨-, hcaptured⟩
        · exact h.kept id holdings hbefore
        · split at hcaptured
          · cases hcaptured
            exact ⟨s.bond.ledger, h.sound.consistent, rfl⟩
          · cases hcaptured
    · intro id coupon hafter
      cases hknown : s.bond.actions.kindOf? id with
      | none =>
        obtain ⟨added, hkind, hrate⟩ := hsucceeds.kindOf?_of_new id _ hknown hafter
        cases hkind
        exact hrate
      | some kind =>
        rw [hsucceeds.kindOf?_of_eq_some id kind hknown] at hafter
        exact h.rateDecimals_le id coupon (hknown.trans hafter)

/-- Every history keeps the invariant. -/
theorem Payable.run (h : s.Payable config) (moves : List Move) : (s.run moves).Payable config :=
  run_keeps (fun _ hs => hs.step) h moves

/-- The balances that count for an action are those of some consistent ledger. -/
theorem Payable.exists_recorded_eq (h : s.Payable config) (id : ActionId) :
    ∃ l : Ledger, l.Consistent ∧ s.bond.recorded id = .ofLedger l := by
  unfold Bond.recorded
  cases hkept : s.bond.kept id with
  | some holdings => exact h.kept id holdings hkept
  | none => exact ⟨s.bond.ledger, h.sound.consistent, rfl⟩

/-- A coupon whose record date has come is paid out in full, however the bond came to where it
is: the list of its holders names everyone to whom something is owed once, it is put together
from any pages, and the amounts add up to what the supply earns that counts for the coupon. -/
theorem coupon_paid_out {b : Bond} (hcreate : Bond.create config = .ok b) (start : Clock)
    (history : List Move) {found : RegisteredCoupon}
    (hfound : (run ⟨b, start⟩ history).bond.couponOf couponId = .ok found)
    (hdate : found.coupon.recordDate ≤ (run ⟨b, start⟩ history).clock.now) :
    let s := run ⟨b, start⟩ history
    ∃ holders, s.bond.PaysOut s.clock.now couponId found.coupon (s.bond.entitledSupply found)
      holders := by
  intro s
  have h : s.Payable config := (payable_of_create hcreate start).run history
  have hcoupon := Bond.couponAt?_of_couponOf hfound
  obtain ⟨l, hl, hrecorded⟩ := h.exists_recorded_eq found.actionId
  have hsupply : s.bond.entitledSupply found = l.totalSupplyAll := by
    rw [Bond.entitledSupply_eq h.sound.consistent hfound, hrecorded, hl.totalSupply_ofLedger]
  have hanswers := Bond.answers_of_recorded_eq h.sound.consistent hl hcoupon hdate rfl hrecorded
  obtain ⟨htoken, hnominal⟩ := config.decimals_le_of_check h.sound.checked
  have hrate := h.rateDecimals_le _ _ (Bond.couponAt?_eq_some_iff.mp hcoupon).2
  rw [hsupply]
  refine ⟨_, hanswers.paysOut hl ?_ ?_ hrate⟩
  · rw [h.sound.terms_eq]
    exact htoken
  · rw [h.sound.terms_eq]
    exact hnominal

/-- The coupon of the sample is paid out for the ten units of its snapshot. -/
theorem sample_coupon_paid_out :
    let s := sampleStart.run sampleHistory
    ∃ holders, s.bond.PaysOut s.clock.now 1 sampleCoupon 10 holders := by
  intro s
  have hcreate : Bond.create Bond.sampleConfig = .ok sampleStart.bond := rfl
  have hfound : s.bond.couponOf 1 = .ok ⟨1, 1, sampleCoupon, 1⟩ := rfl
  have hdate : sampleCoupon.recordDate ≤ s.clock.now := by decide
  exact coupon_paid_out hcreate ⟨5⟩ sampleHistory hfound hdate

end Session

end CouponBond
