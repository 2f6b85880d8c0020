import CouponBond.Proofs.AllOrNothing
import CouponBond.Proofs.LedgerSteps

/-!
# What each mutation of the ledger does

One statement per mutation: from a consistent ledger it is either refused, with the ledger as
it was, or it leaves the ledger that is written out here.  The arithmetic of a mutation never
leaves the range of an amount; only a record beyond the last number is refused for that.

## Main Results

* `Ledger.issue_spec`, `Ledger.transfer_spec`, `Ledger.redeem_spec`
* `Ledger.lock_spec`, `Ledger.releaseLock_spec`
* `Ledger.createHold_spec`, `Ledger.executeHold_spec`, `Ledger.releaseHold_spec`
* `Ledger.freeze_spec`, `Ledger.unfreeze_spec`
* `Ledger.createClearing_spec`, `Ledger.approveClearing_spec`, `Ledger.cancelClearing_spec`
-/

namespace CouponBond.Ledger

open AllOrNothing Unsigned

variable {l : Ledger}

/-- A counter that cannot be moved on is at its end. -/
theorem eq_greatest_of_add?_eq_none {counter : UInt64} (h : add? counter 1 = none) :
    counter = greatest := by
  have hout : ¬ counter.toNat + (1 : UInt64).toNat < UInt64.size := fun hfits => by
    have hsome := isSome_add?_iff.mpr hfits
    rw [h] at hsome
    cases hsome
  have hle := toNat_le_greatest counter
  have hone : (1 : UInt64).toNat = 1 := rfl
  rw [toNat_greatest, UInt64.size] at hle
  rw [UInt64.size, hone] at hout
  rw [← UInt64.toNat_inj, toNat_greatest, UInt64.size]
  omega

/-! ### Issue, transfer, redemption -/

theorem issue_spec (h : l.Consistent) (holder : Address) (partition : Partition)
    (amount : Amount) :
    AllOrNothing (issue holder partition amount) l (· ≠ .outOfRange) fun _ l' =>
      (amount = 0 ∧ l' = l) ∨ amount ≠ 0 ∧ ∃ supply balance,
        add? (l.totalSupply partition) amount = some supply ∧
        l.totalSupplyAll + amount.toNat ≤ greatest.toNat ∧
        (l.balanceOf holder partition).credit? .free amount = some balance ∧
        l' = (l.withSupply partition supply).withRow holder partition balance := by
  unfold issue
  split
  · next hzero => exact AllOrNothing.pure (.inl ⟨hzero, rfl⟩)
  · next hpos =>
    refine bind_get ?_
    refine allOrNothing_orRefuse (fun _ => nofun) fun supply hsupply => ?_
    refine bind_refuseIf (fun _ => nofun) fun hall => ?_
    -- the new units are missing in the rows, so there is room for them in every row
    have hfits : ∃ balance, (l.balanceOf holder partition).credit? .free amount = some balance := by
      have hnew := l.totalSupplyAll_withSupply partition supply
      have hadd := toNat_of_add? hsupply
      have htransit : (l.withSupply partition supply).InTransit partition amount.toNat :=
        (consistent_iff_inTransit_zero.mp h).withSupply (by omega) (by omega)
      have := htransit.exists_credit? (a := holder) (k := .free) nofun (Int.le_refl _)
      rwa [balanceOf_withSupply] at this
    obtain ⟨balance, hbalance⟩ := hfits
    exact .ok ((bind_ok (exactly_ok hbalance _)).trans rfl)
      (.inr ⟨hpos, supply, balance, hsupply, by omega, hbalance, rfl⟩)

theorem transfer_spec (h : l.Consistent) (source destination : Address) (partition : Partition)
    (amount : Amount) :
    AllOrNothing (transfer source destination partition amount) l (· ≠ .outOfRange) fun _ l' =>
      amount ≤ (l.balanceOf source partition).available ∧
      ((amount = 0 ∨ source = destination) ∧ l' = l ∨
        amount ≠ 0 ∧ source ≠ destination ∧ ∃ sender receiver,
          (l.balanceOf source partition).debit? .free amount = some sender ∧
          (l.balanceOf destination partition).credit? .free amount = some receiver ∧
          l' = (l.withRow source partition sender).withRow destination partition receiver) := by
  unfold transfer
  refine bind_get ?_
  refine allOrNothing_requireAvailable (fun _ => nofun) fun havailable => ?_
  split
  · next hidle => exact AllOrNothing.pure ⟨havailable, .inl ⟨hidle, rfl⟩⟩
  · next hmoves =>
    obtain ⟨hpos, hne⟩ := not_or.mp hmoves
    have hfree := h.le_of_le_available havailable
    obtain ⟨sender, hsender⟩ := Balance.exists_debit?
      (b := l.balanceOf source partition) (k := .free) (u := amount) (by omega)
    -- once the sender has given the units up, the receiver has room for them
    have hreceiver : ∃ receiver,
        (l.balanceOf destination partition).credit? .free amount = some receiver := by
      have htransit := (h.inTransit_zero partition).spend hfree hsender
      have := htransit.exists_credit? (a := destination) (k := .free) (u := amount)
        nofun (by omega)
      rwa [balanceOf_withRow, if_neg (fun e => hne e.1.symm)] at this
    obtain ⟨receiver, hreceiver⟩ := hreceiver
    exact .ok ((bind_ok (exactly_ok hsender _)).trans
        ((bind_ok (exactly_ok hreceiver _)).trans rfl))
      ⟨havailable, .inr ⟨hpos, hne, sender, receiver, hsender, hreceiver, rfl⟩⟩

theorem redeem_spec (h : l.Consistent) (holder : Address) (partition : Partition)
    (amount : Amount) :
    AllOrNothing (redeem holder partition amount) l
      (fun e => (l.balanceOf holder partition).available < amount ∧
        e = .insufficientBalance holder partition amount
          (l.balanceOf holder partition).available) fun _ l' =>
      amount ≤ (l.balanceOf holder partition).available ∧
      ((amount = 0 ∧ l' = l) ∨ amount ≠ 0 ∧ ∃ supply balance,
        sub? (l.totalSupply partition) amount = some supply ∧
        (l.balanceOf holder partition).debit? .free amount = some balance ∧
        l' = (l.withSupply partition supply).withRow holder partition balance) := by
  unfold redeem
  refine bind_get ?_
  refine allOrNothing_requireAvailable (fun hlack => ⟨hlack, rfl⟩) fun havailable => ?_
  split
  · next hzero => exact AllOrNothing.pure ⟨havailable, .inl ⟨hzero, rfl⟩⟩
  · next hpos =>
    have hfree := h.le_of_le_available havailable
    have hrow := sum_le_bookSum (l.book partition) holder
    have hbucket := (l.balanceOf holder partition).toNat_get_le_sum (k := .free) nofun
    obtain ⟨balance, hbalance⟩ := Balance.exists_debit?
      (b := l.balanceOf holder partition) (k := .free) (u := amount) (by omega)
    -- the supply is the sum of the rows, of which this one alone covers the amount
    have hsupply : amount.toNat ≤ (l.totalSupply partition).toNat := by
      rw [← h.conserved]
      unfold balanceOf at hfree hbucket
      omega
    obtain ⟨supply, hsupply⟩ := Option.isSome_iff_exists.mp (isSome_sub?_iff.mpr hsupply)
    exact .ok ((bind_ok (exactly_ok hbalance _)).trans
        ((bind_ok (exactly_ok hsupply _)).trans rfl))
      ⟨havailable, .inr ⟨hpos, supply, balance, hsupply, hbalance, rfl⟩⟩

/-- Available units can be redeemed. -/
theorem exists_redeem (h : l.Consistent) {holder : Address} {partition : Partition}
    {amount : Amount} (havailable : amount ≤ (l.balanceOf holder partition).available) :
    ∃ l', redeem holder partition amount l = .ok () l' := by
  obtain ⟨_, l', hdone, -⟩ := (redeem_spec h holder partition amount).exists_ok fun e he =>
    absurd havailable (UInt64.not_le.mpr he.1)
  exact ⟨l', hdone⟩

/-! ### Locks -/

theorem lock_spec (h : l.Consistent) (holder : Address) (partition : Partition)
    (amount : Amount) (expiration : Timestamp) :
    AllOrNothing (lock holder partition amount expiration) l
      (fun e => e = .outOfRange → l.lockCounter = greatest) fun id l' =>
      amount ≠ 0 ∧ amount ≤ (l.balanceOf holder partition).available ∧ ∃ balance,
        (l.balanceOf holder partition).move? .free .locked amount = some balance ∧
        add? l.lockCounter 1 = some id ∧
        l' = { l with
          lockCounter := id
          locks := l.locks.insert id ⟨id, holder, partition, amount, expiration⟩ }.withRow
            holder partition balance := by
  unfold lock
  refine bind_get ?_
  refine allOrNothing_requirePositive (fun _ => nofun) fun hpos => ?_
  refine allOrNothing_requireAvailable (fun _ => nofun) fun havailable => ?_
  have hfree := h.le_of_le_available havailable
  obtain ⟨balance, hbalance⟩ := h.exists_move? (a := holder) (q := partition) (s := .free)
    (t := .locked) (u := amount) nofun nofun nofun (by omega)
  refine allOrNothing_exactly (fun hnone => ?_) fun balance hbalance => ?_
  · rw [hbalance] at hnone
    cases hnone
  refine allOrNothing_exactly (fun hnone _ => eq_greatest_of_add?_eq_none hnone) fun id hid => ?_
  exact .ok rfl ⟨hpos, havailable, balance, hbalance, hid, rfl⟩

theorem releaseLock_spec (h : l.Consistent) (id : LockId) (now : Timestamp) :
    AllOrNothing (releaseLock id now) l
      (fun e => e ≠ .outOfRange ∧ ∀ r, l.locks.get? id = some r → now < r.expiration)
      fun record l' =>
      l.locks.get? id = some record ∧ record.expiration ≤ now ∧ ∃ balance,
        (l.balanceOf record.holder record.partition).move? .locked .free record.amount =
          some balance ∧
        l' = { l with locks := l.locks.erase id }.withRow record.holder record.partition
          balance := by
  unfold releaseLock
  refine bind_get ?_
  refine allOrNothing_orRefuse (fun hnone => ⟨nofun, fun r hr => ?_⟩) fun record hrecord => ?_
  · cases hnone.symm.trans hr
  refine bind_refuseIf (fun hearly => ⟨nofun, fun r hr => ?_⟩) fun hexpired => ?_
  · cases hrecord.symm.trans hr
    exact hearly
  obtain ⟨balance, hbalance⟩ := h.exists_move? (s := .locked) (t := .free)
    nofun nofun nofun (h.record_le .lock hrecord)
  exact .ok ((bind_ok (exactly_ok hbalance _)).trans rfl)
    ⟨hrecord, UInt64.not_lt.mp hexpired, balance, hbalance, rfl⟩

/-! ### Holds -/

theorem createHold_spec (h : l.Consistent) (holder : Address) (partition : Partition)
    (amount : Amount) (escrow : Address) (destination : Option Address)
    (expiration : Timestamp) :
    AllOrNothing (createHold holder partition amount escrow destination expiration) l
      (fun e => e = .outOfRange → l.holdCounter = greatest) fun id l' =>
      amount ≠ 0 ∧ amount ≤ (l.balanceOf holder partition).available ∧ ∃ balance,
        (l.balanceOf holder partition).move? .free .held amount = some balance ∧
        add? l.holdCounter 1 = some id ∧
        l' = { l with
          holdCounter := id
          holds := l.holds.insert id
            ⟨id, holder, partition, amount, escrow, destination, expiration⟩ }.withRow
              holder partition balance := by
  unfold createHold
  refine bind_get ?_
  refine allOrNothing_requirePositive (fun _ => nofun) fun hpos => ?_
  refine allOrNothing_requireAvailable (fun _ => nofun) fun havailable => ?_
  have hfree := h.le_of_le_available havailable
  obtain ⟨balance, hbalance⟩ := h.exists_move? (a := holder) (q := partition) (s := .free)
    (t := .held) (u := amount) nofun nofun nofun (by omega)
  refine allOrNothing_exactly (fun hnone => ?_) fun balance hbalance => ?_
  · rw [hbalance] at hnone
    cases hnone
  refine allOrNothing_exactly (fun hnone _ => eq_greatest_of_add?_eq_none hnone) fun id hid => ?_
  exact .ok rfl ⟨hpos, havailable, balance, hbalance, hid, rfl⟩

/-- A positive part of a hold is left. -/
def Covers (l : Ledger) (id : HoldId) (amount : Amount) (record : Hold) : Prop :=
  l.holds.get? id = some record ∧ amount ≠ 0 ∧ amount ≤ record.amount

theorem coveringHold_spec (id : HoldId) (amount : Amount) :
    AllOrNothing (coveringHold id amount) l
      (fun e => e ≠ .outOfRange ∧ ∀ r, ¬ l.Covers id amount r) fun record l' =>
      l' = l ∧ l.Covers id amount record := by
  unfold coveringHold
  refine allOrNothing_requirePositive (fun hzero => ⟨nofun, fun _ hr => hr.2.1 hzero⟩)
    fun hpos => ?_
  refine bind_get ?_
  refine allOrNothing_orRefuse (fun hnone => ⟨nofun, fun r hr => ?_⟩) fun record hrecord => ?_
  · cases hnone.symm.trans hr.1
  refine bind_refuseIf (fun hlack => ⟨nofun, fun r hr => ?_⟩) fun hcovers => ?_
  · obtain ⟨hr, -, hle⟩ := hr
    cases hrecord.symm.trans hr
    exact UInt64.not_le.mpr hlack hle
  exact AllOrNothing.pure ⟨rfl, hrecord, hpos, UInt64.not_lt.mp hcovers⟩

theorem executeHold_spec (h : l.Consistent) (id : HoldId) (destination : Address)
    (amount : Amount) (now : Timestamp) :
    AllOrNothing (executeHold id destination amount now) l
      (fun e => e ≠ .outOfRange ∧ ∀ r, l.Covers id amount r → now < r.expiration →
        ∃ expected, r.destination = some expected ∧ expected ≠ destination) fun _ l' =>
      ∃ record, l.holds.get? id = some record ∧ amount ≠ 0 ∧ amount ≤ record.amount ∧
        now < record.expiration ∧
        (∀ expected, record.destination = some expected → expected = destination) ∧
        ∃ sender receiver rest,
          (l.balanceOf record.holder record.partition).debit? .held amount = some sender ∧
          ((l.withRow record.holder record.partition sender).balanceOf destination
            record.partition).credit? .free amount = some receiver ∧
          sub? record.amount amount = some rest ∧
          l' = ((l.withHoldRest id record rest).withRow record.holder record.partition
            sender).withRow destination record.partition receiver := by
  unfold executeHold
  refine bind_read ((coveringHold_spec id amount).mono
    (fun _ he => ⟨he.1, fun r hr => absurd hr (he.2 r)⟩) fun _ _ hq => hq)
    fun record ⟨hrecord, hpos, hcovers⟩ => ?_
  refine bind_refuseIf (fun hexpired => ⟨nofun, fun r hr hearly => ?_⟩) fun hopen => ?_
  · cases hrecord.symm.trans hr.1
    exact absurd hearly (UInt64.not_lt.mpr hexpired)
  have hheld : record.amount.toNat ≤
      ((l.balanceOf record.holder record.partition).get .held).toNat := h.record_le .hold hrecord
  have hunits := UInt64.le_iff_toNat_le.mp hcovers
  obtain ⟨sender, hsender⟩ := Balance.exists_debit?
    (b := l.balanceOf record.holder record.partition) (k := .held) (u := amount)
    (by omega)
  obtain ⟨rest, hrest⟩ := Option.isSome_iff_exists.mp (isSome_sub?_iff.mpr hunits)
  -- the receiver may be the holder, so its row is the one that was just written
  have htransit := h.payOut hrecord hrest hsender
  obtain ⟨receiver, hreceiver⟩ :=
    htransit.exists_credit? (a := destination) (k := .free) nofun (Int.le_refl _)
  have hdone : (do
      let payer ← exactly (((← get).balanceOf record.holder record.partition).debit? .held amount)
      writeRow record.holder record.partition payer
      let payee ← exactly
        (((← get).balanceOf destination record.partition).credit? .free amount)
      writeRow destination record.partition payee
      consumeHold id record amount : Mutation Unit) l =
      .ok () (((l.withHoldRest id record rest).withRow record.holder record.partition
        sender).withRow destination record.partition receiver) :=
    (bind_ok rfl).trans <| (bind_ok (exactly_ok hsender _)).trans <| (bind_ok rfl).trans <|
      (bind_ok rfl).trans <| (bind_ok (exactly_ok hreceiver _)).trans <| (bind_ok rfl).trans <|
        (bind_ok (exactly_ok hrest _)).trans rfl
  split
  · next hany =>
    have hagreed : ∀ expected, record.destination = some expected → expected = destination :=
      fun expected he => by
        rw [hany] at he
        cases he
    exact .ok hdone ⟨record, hrecord, hpos, hcovers, UInt64.not_le.mp hopen, hagreed, sender,
      receiver, rest, hsender, hreceiver, hrest, rfl⟩
  · next named hnamed =>
    refine bind_refuseUnless (fun hother => ⟨nofun, fun r hr _ => ?_⟩) fun hsame => ?_
    · cases hrecord.symm.trans hr.1
      exact ⟨named, hnamed, hother⟩
    have hagreed : ∀ expected, record.destination = some expected → expected = destination :=
      fun expected he => by
        rw [hnamed] at he
        cases he
        exact hsame
    exact .ok hdone ⟨record, hrecord, hpos, hcovers, UInt64.not_le.mp hopen, hagreed, sender,
      receiver, rest, hsender, hreceiver, hrest, rfl⟩

theorem releaseHold_spec (h : l.Consistent) (id : HoldId) (amount : Amount) :
    AllOrNothing (releaseHold id amount) l
      (fun e => e ≠ .outOfRange ∧ ∀ r, ¬ l.Covers id amount r) fun _ l' =>
      ∃ record, l.holds.get? id = some record ∧ amount ≠ 0 ∧ amount ≤ record.amount ∧
        ∃ balance rest,
          (l.balanceOf record.holder record.partition).move? .held .free amount = some balance ∧
          sub? record.amount amount = some rest ∧
          l' = (l.withHoldRest id record rest).withRow record.holder record.partition
            balance := by
  unfold releaseHold
  refine bind_read (coveringHold_spec id amount) fun record ⟨hrecord, hpos, hcovers⟩ => ?_
  have hheld : record.amount.toNat ≤
      ((l.balanceOf record.holder record.partition).get .held).toNat := h.record_le .hold hrecord
  have hunits := UInt64.le_iff_toNat_le.mp hcovers
  obtain ⟨balance, hbalance⟩ := h.exists_move? (a := record.holder) (q := record.partition)
    (s := .held) (t := .free) (u := amount) nofun nofun nofun (by omega)
  obtain ⟨rest, hrest⟩ := Option.isSome_iff_exists.mp (isSome_sub?_iff.mpr hunits)
  refine bind_get ?_
  exact .ok ((bind_ok (exactly_ok hbalance _)).trans <| (bind_ok rfl).trans <|
      (bind_ok (exactly_ok hrest _)).trans rfl)
    ⟨record, hrecord, hpos, hcovers, balance, rest, hbalance, hrest, rfl⟩

/-! ### Freezing -/

theorem freeze_spec (h : l.Consistent) (holder : Address) (partition : Partition)
    (amount : Amount) :
    AllOrNothing (freeze holder partition amount) l (· ≠ .outOfRange) fun _ l' =>
      amount ≠ 0 ∧ amount ≤ (l.balanceOf holder partition).available ∧ ∃ balance,
        (l.balanceOf holder partition).move? .free .frozen amount = some balance ∧
        l' = l.withRow holder partition balance := by
  unfold freeze
  refine bind_get ?_
  refine allOrNothing_requirePositive (fun _ => nofun) fun hpos => ?_
  refine allOrNothing_requireAvailable (fun _ => nofun) fun havailable => ?_
  have hfree := h.le_of_le_available havailable
  obtain ⟨balance, hbalance⟩ := h.exists_move? (a := holder) (q := partition) (s := .free)
    (t := .frozen) (u := amount) nofun nofun nofun (by omega)
  exact .ok ((bind_ok (exactly_ok hbalance _)).trans rfl)
    ⟨hpos, havailable, balance, hbalance, rfl⟩

theorem unfreeze_spec (h : l.Consistent) (holder : Address) (partition : Partition)
    (amount : Amount) :
    AllOrNothing (unfreeze holder partition amount) l
      (fun e => e ≠ .outOfRange ∧ (amount ≠ 0 → (l.balanceOf holder partition).frozen < amount))
      fun _ l' =>
      amount ≠ 0 ∧ amount ≤ (l.balanceOf holder partition).frozen ∧ ∃ balance,
        (l.balanceOf holder partition).move? .frozen .free amount = some balance ∧
        l' = l.withRow holder partition balance := by
  unfold unfreeze
  refine bind_get ?_
  refine allOrNothing_requirePositive (fun hzero => ⟨nofun, fun hpos => absurd hzero hpos⟩)
    fun hpos => ?_
  refine bind_refuseIf (fun hlack => ⟨nofun, fun _ => hlack⟩) fun hfrozen => ?_
  have hle := UInt64.not_lt.mp hfrozen
  obtain ⟨balance, hbalance⟩ := h.exists_move? (a := holder) (q := partition)
    (s := .frozen) (t := .free) (u := amount) nofun nofun nofun
    (UInt64.le_iff_toNat_le.mp hle)
  exact .ok ((bind_ok (exactly_ok hbalance _)).trans rfl) ⟨hpos, hle, balance, hbalance, rfl⟩

/-! ### Clearing -/

theorem createClearing_spec (h : l.Consistent) (source destination : Address)
    (partition : Partition) (amount : Amount) (expiration : Timestamp) :
    AllOrNothing (createClearing source destination partition amount expiration) l
      (fun e => e = .outOfRange → l.clearingCounter = greatest) fun id l' =>
      amount ≠ 0 ∧ amount ≤ (l.balanceOf source partition).available ∧ ∃ balance,
        (l.balanceOf source partition).credit? .cleared amount = some balance ∧
        add? l.clearingCounter 1 = some id ∧
        l' = { l with
          clearingCounter := id
          clearings := l.clearings.insert id
            ⟨id, source, destination, partition, amount, expiration⟩ }.withRow
              source partition balance := by
  unfold createClearing
  refine bind_get ?_
  refine allOrNothing_requirePositive (fun _ => nofun) fun hpos => ?_
  refine allOrNothing_requireAvailable (fun _ => nofun) fun havailable => ?_
  have hfree := h.le_of_le_available havailable
  have hrange := ((l.balanceOf source partition).get .free).toNat_lt
  obtain ⟨balance, hbalance⟩ := Balance.exists_credit? (b := l.balanceOf source partition)
    (k := .cleared) (u := amount) (by rw [UInt64.size]; omega)
  refine allOrNothing_exactly (fun hnone => ?_) fun balance hbalance => ?_
  · rw [hbalance] at hnone
    cases hnone
  refine allOrNothing_exactly (fun hnone _ => eq_greatest_of_add?_eq_none hnone) fun id hid => ?_
  exact .ok rfl ⟨hpos, havailable, balance, hbalance, hid, rfl⟩

theorem approveClearing_spec (h : l.Consistent) (id : ClearingId) (now : Timestamp) :
    AllOrNothing (approveClearing id now) l
      (fun e => e ≠ .outOfRange ∧ ∀ r, l.clearings.get? id = some r → r.expiration ≤ now)
      fun record l' =>
      l.clearings.get? id = some record ∧ now < record.expiration ∧
        ∃ reserved sender receiver,
          (l.balanceOf record.source record.partition).debit? .cleared record.amount =
            some reserved ∧
          reserved.debit? .free record.amount = some sender ∧
          ((l.withRow record.source record.partition sender).balanceOf record.destination
            record.partition).credit? .free record.amount = some receiver ∧
          l' = ({ l with clearings := l.clearings.erase id }.withRow record.source
            record.partition sender).withRow record.destination record.partition receiver := by
  unfold approveClearing
  refine bind_get ?_
  refine allOrNothing_orRefuse (fun hnone => ⟨nofun, fun r hr => ?_⟩) fun record hrecord => ?_
  · cases hnone.symm.trans hr
  refine bind_refuseIf (fun hexpired => ⟨nofun, fun r hr => ?_⟩) fun hopen => ?_
  · cases hrecord.symm.trans hr
    exact hexpired
  -- the record is covered by the reserved units, and these by the free ones
  have hreserved : record.amount.toNat ≤
      ((l.balanceOf record.source record.partition).get .cleared).toNat :=
    h.record_le .clearing hrecord
  have hfree := cleared_le_iff.mp (h.cleared_le record.source record.partition)
  obtain ⟨reserved, hreserved⟩ := Balance.exists_debit?
    (b := l.balanceOf record.source record.partition) hreserved
  have hkept := Balance.toNat_get_of_debit? hreserved .free
  rw [if_neg nofun] at hkept
  obtain ⟨sender, hsender⟩ := Balance.exists_debit? (b := reserved) (k := .free)
    (u := record.amount) (by omega)
  have hboth : ((l.balanceOf record.source record.partition).debit? .cleared record.amount).bind
      (fun b => b.debit? .free record.amount) = some sender := by
    rw [hreserved]
    exact hsender
  have htransit := h.settle hrecord hreserved hsender
  obtain ⟨receiver, hreceiver⟩ :=
    htransit.exists_credit? (a := record.destination) (k := .free) nofun (Int.le_refl _)
  exact .ok ((bind_ok (exactly_ok hboth _)).trans <| (bind_ok rfl).trans <|
      (bind_ok rfl).trans <| (bind_ok rfl).trans <|
        (bind_ok (exactly_ok hreceiver _)).trans rfl)
    ⟨hrecord, UInt64.not_le.mp hopen, reserved, sender, receiver, hreserved, hsender, hreceiver,
      rfl⟩

theorem cancelClearing_spec (h : l.Consistent) (id : ClearingId) :
    AllOrNothing (cancelClearing id) l
      (fun e => e ≠ .outOfRange ∧ l.clearings.get? id = none) fun record l' =>
      l.clearings.get? id = some record ∧ ∃ balance,
        (l.balanceOf record.source record.partition).debit? .cleared record.amount =
          some balance ∧
        l' = { l with clearings := l.clearings.erase id }.withRow record.source record.partition
          balance := by
  unfold cancelClearing
  refine bind_get ?_
  refine allOrNothing_orRefuse (fun hnone => ⟨nofun, hnone⟩) fun record hrecord => ?_
  obtain ⟨balance, hbalance⟩ := Balance.exists_debit?
    (b := l.balanceOf record.source record.partition) (h.record_le .clearing hrecord)
  exact .ok ((bind_ok (exactly_ok hbalance _)).trans rfl) ⟨hrecord, balance, hbalance, rfl⟩

end CouponBond.Ledger
