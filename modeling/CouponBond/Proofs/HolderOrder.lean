import CouponBond.Proofs.LedgerArithmetic
import CouponBond.Proofs.RegistryView

/-!
# The order of the holders

The rosters of the registry are brought in line after every row that is written, so each write
enters one account behind all others or takes it off.  Put together, the writes of a mutation keep
those who stay in their order and enter newcomers behind them, as long as nobody leaves with the
first row to come back with the second.

That happens to one account only: to the holder who is paid its own units out, and all of them at
once, by a hold or a clearing that has the holder at both ends.  The two rows are the same one, and
in between it is empty.  The holder then moves to the end of the rosters, although no total has
changed.

## Main Definitions

* `Registry.Ahead` — one account is enumerated before another
* `Registry.StableOrder` — what a change of totals may do to an enumeration
* `Registry.Continues` — those who stay, in their order, and then the newcomers
* `Ledger.Act.PaysBack` — an act pays an account all of its own units out
* `Ledger.Rewritten` — the rows that an act writes

## Main Results

* `Registry.Continues.stableOrder` — such an enumeration is stable
* `Ledger.Act.rewritten` — every mutation writes no row, one, or two of a payment
* `Ledger.Accounted.holder_order` — the order of the holders, and who loses the place
-/

namespace CouponBond

/-! ### Enumerations -/

namespace Registry

variable {before between after roster : List Address} {was is : Address → Amount} {a b : Address}

/-- One account is enumerated before another. -/
def Ahead (roster : List Address) (a b : Address) : Prop := [a, b].Sublist roster

theorem ahead_or_ahead (ha : a ∈ roster) (hb : b ∈ roster) (hne : a ≠ b) :
    Ahead roster a b ∨ Ahead roster b a := by
  unfold Ahead
  induction roster with
  | nil => cases ha
  | cons first rest ih =>
    rcases List.mem_cons.mp ha with rfl | ha' <;> rcases List.mem_cons.mp hb with rfl | hb'
    · exact absurd rfl hne
    · exact .inl (.cons_cons _ (List.singleton_sublist.mpr hb'))
    · exact .inr (.cons_cons _ (List.singleton_sublist.mpr ha'))
    · exact (ih ha' hb').imp (.cons _) (.cons _)

/-- Nobody stands both before and behind another. -/
theorem Ahead.asymm (h : Ahead roster a b) (hnodup : roster.Nodup) : ¬ Ahead roster b a := by
  unfold Ahead at h ⊢
  intro hback
  induction roster with
  | nil => cases h
  | cons first rest ih =>
    obtain ⟨hfirst, hrest⟩ := List.nodup_cons.mp hnodup
    cases h with
    | cons _ h =>
      cases hback with
      | cons _ hback => exact ih h hrest hback
      | cons_cons _ _ => exact hfirst (h.subset (by simp))
    | cons_cons _ h =>
      cases hback with
      | cons _ hback => exact hfirst (hback.subset (by simp))
      | cons_cons _ _ => exact hfirst (h.subset (by simp))

/-- What a change of totals may do to an enumeration: those who own something before and after it
keep their order, and those who owned nothing before it come behind them. -/
structure StableOrder (before after : List Address) (was is : Address → Amount) : Prop where
  kept : ∀ a b, was a ≠ 0 → is a ≠ 0 → was b ≠ 0 → is b ≠ 0 →
    (Ahead before a b ↔ Ahead after a b)
  behind : ∀ a b, was a ≠ 0 → is a ≠ 0 → was b = 0 → is b ≠ 0 → Ahead after a b

/-- Some of those who were enumerated, in the same order, and then newcomers. -/
def Continues (before after : List Address) : Prop :=
  ∃ stayed arrived, after = stayed ++ arrived ∧ stayed.Sublist before ∧ ∀ a ∈ arrived, a ∉ before

theorem Continues.refl (roster : List Address) : Continues roster roster :=
  ⟨roster, [], (List.append_nil roster).symm, List.Sublist.refl roster, nofun⟩

/-- Changes follow one another as long as nobody leaves and comes back. -/
theorem Continues.trans (h : Continues before between) (hmore : Continues between after)
    (hback : ∀ a ∈ before, a ∈ after → a ∈ between) : Continues before after := by
  obtain ⟨stayed, arrived, rfl, hstayed, harrived⟩ := h
  obtain ⟨stayed', arrived', rfl, hstayed', harrived'⟩ := hmore
  obtain ⟨old, new, rfl, hold, hnew⟩ := List.sublist_append_iff.mp hstayed'
  refine ⟨old, new ++ arrived', List.append_assoc _ _ _, hold.trans hstayed, fun a ha hbefore => ?_⟩
  rcases List.mem_append.mp ha with ha | ha
  · exact harrived a (hnew.subset ha) hbefore
  · refine harrived' a ha (hback a hbefore ?_)
    exact List.mem_append_right _ ha

/-- An enumeration that lists exactly the owners, and that continues another one of the owners
before, is stable. -/
theorem Continues.stableOrder (h : Continues before after) (hbefore : before.Nodup)
    (hafter : after.Nodup) (hwas : ∀ a, a ∈ before ↔ was a ≠ 0)
    (his : ∀ a, a ∈ after ↔ is a ≠ 0) : StableOrder before after was is := by
  obtain ⟨stayed, arrived, rfl, hstayed, harrived⟩ := h
  have hmem {a : Address} (hwasa : was a ≠ 0) (hisa : is a ≠ 0) : a ∈ stayed := by
    rcases List.mem_append.mp ((his a).mpr hisa) with ha | ha
    · exact ha
    · exact absurd ((hwas a).mpr hwasa) (harrived a ha)
  have hleft : stayed.Sublist (stayed ++ arrived) := List.sublist_append_left stayed arrived
  constructor
  · intro a b hwasa hisa hwasb hisb
    by_cases hne : a = b
    · -- nobody is ahead of itself on either roster
      subst hne
      exact ⟨fun h => absurd h (h.asymm hbefore), fun h => absurd h (h.asymm hafter)⟩
    rcases ahead_or_ahead (hmem hwasa hisa) (hmem hwasb hisb) hne with hab | hba
    · exact ⟨fun _ => hab.trans hleft, fun _ => hab.trans hstayed⟩
    · exact ⟨fun h => absurd (hba.trans hstayed) (h.asymm hbefore),
        fun h => absurd (hba.trans hleft) (h.asymm hafter)⟩
  · intro a b hwasa hisa hwasb hisb
    have hb : b ∈ arrived := by
      rcases List.mem_append.mp ((his b).mpr hisb) with hb | hb
      · exact absurd hwasb ((hwas b).mp (hstayed.subset hb))
      · exact hb
    exact (List.singleton_sublist.mpr (hmem hwasa hisa)).append (List.singleton_sublist.mpr hb)

/-- A roster on which an account is entered or from which it is removed. -/
def settle (roster : List Address) (a : Address) (owns : Bool) : List Address :=
  if owns then enter roster a else roster.erase a

theorem continues_settle (roster : List Address) (a : Address) (owns : Bool) :
    Continues roster (settle roster a owns) := by
  unfold settle
  split
  · unfold enter
    split
    · exact .refl roster
    · next hnew =>
      refine ⟨roster, [a], rfl, List.Sublist.refl roster, fun b hb => ?_⟩
      rwa [List.mem_singleton.mp hb]
  · exact ⟨roster.erase a, [], (List.append_nil _).symm, List.erase_sublist, nofun⟩

/-- An account that is taken off and entered again stands at the end. -/
theorem settle_settle (hnodup : roster.Nodup) (a : Address) :
    settle (settle roster a false) a true = roster.erase a ++ [a] :=
  if_neg hnodup.not_mem_erase

theorem settle_of_mem (ha : a ∈ roster) : settle roster a true = roster := if_pos ha

end Registry

namespace Ledger

open AllOrNothing
open Registry (Continues StableOrder settle continues_settle)

variable {l l' : Ledger}

/-! ### Writes -/

section

variable (l : Ledger) (holder : Address) (partition : Partition) (balance : Balance)

theorem nodup_holders (q : Partition) : (l.registry.holders q).Nodup :=
  (l.registry.roster q).nodup_members

theorem nodup_allHolders : l.registry.allHolders.Nodup := l.registry.all.nodup_members

/-- The rosters of the partitions after a write. -/
theorem holders_withRow (q : Partition) :
    (l.withRow holder partition balance).registry.holders q =
      if q = partition then settle (l.registry.holders q) holder (balance.total != 0)
      else l.registry.holders q := by
  refine (Registry.members_reconcilePartition l.registry.partitions holder partition
    (balance.total != 0) q).trans ?_
  split
  · next hq =>
    rw [hq, Roster.members_insert]
    rfl
  · rfl

/-- The roster of the bond after a write. -/
theorem allHolders_withRow : (l.withRow holder partition balance).registry.allHolders =
    settle l.registry.allHolders holder
      ((l.withRow holder partition balance).holdingOf holder != 0) := by
  show (if (l.withRow holder partition balance).holdingOf holder = 0 then
    l.registry.all.erase holder else l.registry.all.insert holder).members = _
  unfold settle
  split
  · next hzero =>
    rw [hzero, Roster.members_erase]
    rfl
  · next hne =>
    rw [bne_iff_ne.mpr hne, if_pos rfl, Roster.members_insert]
    rfl

theorem continues_holders_withRow (q : Partition) :
    Continues (l.registry.holders q)
      ((l.withRow holder partition balance).registry.holders q) := by
  rw [holders_withRow]
  split
  · exact continues_settle _ _ _
  · exact .refl _

theorem continues_allHolders_withRow :
    Continues l.registry.allHolders (l.withRow holder partition balance).registry.allHolders := by
  rw [allHolders_withRow]
  exact continues_settle _ _ _

end

/-- Who owns something in a partition owns something. -/
theorem holdingOf_ne_zero {a : Address} {q : Partition} (h : l.totalBalanceOf a q ≠ 0) :
    l.holdingOf a ≠ 0 :=
  fun hzero => h (holdingOf_eq_zero_iff.mp hzero q)

/-- What an account owns over all partitions is in the range of an amount. -/
theorem Consistent.toNat_holdingOf (h : l.Consistent) (a : Address) :
    (l.holdingOf a).toNat = l.wealthOf a := by
  have hle : l.wealthOf a ≤ l.books.sumOf fun b => (b.balanceOf a).sum := by
    refine SortedMap.sumOf_le_sumOf fun q b _ => ?_
    rw [Balance.toNat_total]
    exact Nat.min_le_left _ _
  rw [← h.exact.holding] at hle
  have hcut := l.toNat_holdingOf a
  omega

/-! ### What an act writes -/

/-- The act pays an account its own units out, all that it owns in a partition at once: it executes
a hold of the account in its own favour, or approves a clearing that has the account at both
ends. -/
def Act.PaysBack (act : Act) (l : Ledger) (a : Address) (p : Partition) : Prop :=
  l.totalBalanceOf a p ≠ 0 ∧
  match act with
  | .executeHold id destination amount _ => ∃ record, l.holds.get? id = some record ∧
      record.holder = a ∧ destination = a ∧ record.partition = p ∧ amount = l.totalBalanceOf a p
  | .approveClearing id _ => ∃ record, l.clearings.get? id = some record ∧
      record.source = a ∧ record.destination = a ∧ record.partition = p ∧
      record.amount = l.totalBalanceOf a p
  | _ => False

/-- The rows that an act writes: none, one, or first that of a payer and then that of a receiver.
The two may be the same, and an act that pays back is such a payment. -/
inductive Rewritten (l : Ledger) (act : Act) : Ledger → Prop where
  | none {l' : Ledger} (registry : l'.registry = l.registry)
      (apart : ∀ a p, ¬ act.PaysBack l a p) : Rewritten l act l'
  | one {l₁ : Ledger} (holder : Address) (partition : Partition) (balance : Balance)
      (registry : l₁.registry = l.registry) (apart : ∀ a p, ¬ act.PaysBack l a p) :
      Rewritten l act (l₁.withRow holder partition balance)
  | two {l₁ : Ledger} (source destination : Address) (partition : Partition) (units : Amount)
      (sender receiver : Balance) (registry : l₁.registry = l.registry) (books : l₁.books = l.books)
      (paid : sender.sum + units.toNat = (l.balanceOf source partition).sum)
      (received : receiver.sum =
        ((l.withRow source partition sender).balanceOf destination partition).sum + units.toNat)
      (back : ∀ a p, act.PaysBack l a p ↔ l.totalBalanceOf a p ≠ 0 ∧ source = a ∧
        destination = a ∧ partition = p ∧ units = l.totalBalanceOf a p) :
      Rewritten l act ((l₁.withRow source partition sender).withRow destination partition receiver)

/-- What is said of a mutation holds of the act. -/
theorem rewritten_forget {α : Type} {m : Mutation α} {E : LedgerError → Prop}
    {Q : α → Ledger → Prop} {act : Act} (hact : act.mutation = forget m)
    (hspec : AllOrNothing m l E Q) (hQ : ∀ a l', Q a l' → Rewritten l act l') :
    AllOrNothing act.mutation l (fun _ => True) fun _ l' => Rewritten l act l' := by
  rw [hact]
  exact allOrNothing_forget hspec hQ

/-- Every act is refused without a trace, or writes no row, one row, or the two of a payment. -/
theorem Act.rewritten (h : l.Consistent) (act : Act) :
    AllOrNothing act.mutation l (fun _ => True) fun _ l' => Rewritten l act l' := by
  cases act with
  | issue holder partition amount =>
    refine rewritten_forget rfl (issue_spec h holder partition amount) fun _ l' hl' => ?_
    obtain ⟨-, rfl⟩ | ⟨-, supply, balance, -, -, -, rfl⟩ := hl'
    · exact .none rfl fun _ _ h => h.2
    · exact .one _ _ _ rfl fun _ _ h => h.2
  | transfer source destination partition amount =>
    refine rewritten_forget rfl (transfer_spec h source destination partition amount)
      fun _ l' hl' => ?_
    obtain ⟨-, ⟨-, rfl⟩ | ⟨-, hne, sender, receiver, hsender, hreceiver, rfl⟩⟩ := hl'
    · exact .none rfl fun _ _ h => h.2
    · refine .two source destination partition amount _ _ rfl rfl
        (Balance.sum_of_debit? hsender nofun) ?_ fun a p => ?_
      · rw [balanceOf_withRow, if_neg (fun e => hne e.1.symm)]
        exact Balance.sum_of_credit? hreceiver nofun
      · exact ⟨fun h => h.2.elim, fun h => absurd (h.2.1.trans h.2.2.1.symm) hne⟩
  | redeem holder partition amount =>
    refine rewritten_forget rfl (redeem_spec h holder partition amount) fun _ l' hl' => ?_
    obtain ⟨-, ⟨-, rfl⟩ | ⟨-, supply, balance, -, -, rfl⟩⟩ := hl'
    · exact .none rfl fun _ _ h => h.2
    · exact .one _ _ _ rfl fun _ _ h => h.2
  | lock holder partition amount expiration =>
    refine rewritten_forget rfl (lock_spec h holder partition amount expiration)
      fun id l' hl' => ?_
    obtain ⟨-, -, balance, -, -, rfl⟩ := hl'
    exact .one _ _ _ rfl fun _ _ h => h.2
  | releaseLock id now =>
    refine rewritten_forget rfl (releaseLock_spec h id now) fun record l' hl' => ?_
    obtain ⟨-, -, balance, -, rfl⟩ := hl'
    exact .one _ _ _ rfl fun _ _ h => h.2
  | createHold holder partition amount escrow destination expiration =>
    refine rewritten_forget rfl
      (createHold_spec h holder partition amount escrow destination expiration)
      fun id l' hl' => ?_
    obtain ⟨-, -, balance, -, -, rfl⟩ := hl'
    exact .one _ _ _ rfl fun _ _ h => h.2
  | executeHold id destination amount now =>
    refine rewritten_forget rfl (executeHold_spec h id destination amount now)
      fun _ l' hl' => ?_
    obtain ⟨record, hrecord, -, -, -, -, sender, receiver, rest, hsender, hreceiver, -, rfl⟩ :=
      hl'
    refine .two record.holder destination record.partition amount _ _ rfl rfl
      (Balance.sum_of_debit? hsender nofun) (Balance.sum_of_credit? hreceiver nofun) fun a p => ?_
    refine and_congr_right fun _ => ⟨?_, fun h => ⟨record, hrecord, h⟩⟩
    rintro ⟨other, hother, h⟩
    cases hrecord.symm.trans hother
    exact h
  | releaseHold id amount =>
    refine rewritten_forget rfl (releaseHold_spec h id amount) fun _ l' hl' => ?_
    obtain ⟨record, -, -, -, balance, rest, -, -, rfl⟩ := hl'
    exact .one _ _ _ rfl fun _ _ h => h.2
  | freeze holder partition amount =>
    refine rewritten_forget rfl (freeze_spec h holder partition amount) fun _ l' hl' => ?_
    obtain ⟨-, -, balance, -, rfl⟩ := hl'
    exact .one _ _ _ rfl fun _ _ h => h.2
  | unfreeze holder partition amount =>
    refine rewritten_forget rfl (unfreeze_spec h holder partition amount) fun _ l' hl' => ?_
    obtain ⟨-, -, balance, -, rfl⟩ := hl'
    exact .one _ _ _ rfl fun _ _ h => h.2
  | createClearing source destination partition amount expiration =>
    refine rewritten_forget rfl
      (createClearing_spec h source destination partition amount expiration) fun id l' hl' => ?_
    obtain ⟨-, -, balance, -, -, rfl⟩ := hl'
    exact .one _ _ _ rfl fun _ _ h => h.2
  | approveClearing id now =>
    refine rewritten_forget rfl (approveClearing_spec h id now) fun record l' hl' => ?_
    obtain ⟨hrecord, -, reserved, sender, receiver, hreserved, hsender, hreceiver, rfl⟩ := hl'
    have hpaid : sender.sum + record.amount.toNat =
        (l.balanceOf record.source record.partition).sum := by
      rw [← Balance.sum_of_debit?_cleared hreserved]
      exact Balance.sum_of_debit? hsender nofun
    refine .two record.source record.destination record.partition record.amount _ _ rfl rfl
      hpaid (Balance.sum_of_credit? hreceiver nofun) fun a p => ?_
    refine and_congr_right fun _ => ⟨?_, fun h => ⟨record, hrecord, h⟩⟩
    rintro ⟨other, hother, h⟩
    cases hrecord.symm.trans hother
    exact h
  | cancelClearing id =>
    refine rewritten_forget rfl (cancelClearing_spec h id) fun record l' hl' => ?_
    obtain ⟨-, balance, -, rfl⟩ := hl'
    exact .one _ _ _ rfl fun _ _ h => h.2

/-! ### The rosters behind an act -/

theorem total_eq_zero_iff {balance : Balance} : balance.total = 0 ↔ balance.sum = 0 := by
  rw [← UInt64.toNat_inj, Balance.toNat_total, Unsigned.toNat_greatest, UInt64.size,
    UInt64.toNat_zero]
  omega

/-- The rosters are continued by every act that does not pay back. -/
theorem Rewritten.continues {act : Act} (hrewritten : Rewritten l act l') (h : l.Consistent)
    (hapart : ∀ a p, ¬ act.PaysBack l a p) :
    (∀ q, Continues (l.registry.holders q) (l'.registry.holders q)) ∧
      Continues l.registry.allHolders l'.registry.allHolders := by
  cases hrewritten with
  | none registry =>
    rw [registry]
    exact ⟨fun _ => .refl _, .refl _⟩
  | one holder partition balance registry =>
    rw [← registry]
    exact ⟨continues_holders_withRow _ _ _ _, continues_allHolders_withRow _ _ _ _⟩
  | @two l₁ source destination partition units sender receiver registry books paid _ back =>
    -- a payer who is paid, and who owned something, still owns something in between
    have hleft : source = destination → l.totalBalanceOf source partition ≠ 0 →
        sender.total ≠ 0 := by
      intro hsame hne hzero
      refine hapart source partition ((back _ _).mpr ⟨hne, rfl, hsame.symm, rfl, ?_⟩)
      rw [total_eq_zero_iff.mp hzero, ← h.exact.total] at paid
      rw [← UInt64.toNat_inj]
      omega
    constructor
    · intro q
      have hfirst := continues_holders_withRow l₁ source partition sender q
      rw [registry] at hfirst
      refine hfirst.trans (continues_holders_withRow _ _ _ _ q) fun a hbefore hafter => ?_
      rw [mem_holders_withRow] at hafter ⊢
      rw [registry]
      split
      · next hpayer =>
        obtain ⟨rfl, rfl⟩ := hpayer
        by_cases hsame : a = destination
        · exact hleft hsame ((h.mem_holders_iff q a).mp hbefore)
        · rwa [if_neg (fun e => hsame e.1), mem_holders_withRow, if_pos ⟨rfl, rfl⟩] at hafter
      · exact hbefore
    · have hfirst := continues_allHolders_withRow l₁ source partition sender
      rw [registry] at hfirst
      refine hfirst.trans (continues_allHolders_withRow _ _ _ _) fun a hbefore hafter => ?_
      rw [mem_allHolders_withRow] at hafter ⊢
      rw [registry]
      split
      · next hpayer =>
        subst hpayer
        by_cases hsame : a = destination
        · -- an account that owns nothing in between owned nothing before
          refine fun hzero => (h.mem_allHolders_iff a).mp hbefore ?_
          have hnothing := holdingOf_eq_zero_iff.mp hzero
          refine holdingOf_eq_zero_iff.mpr fun q => ?_
          have hq := hnothing q
          rw [totalBalanceOf, balanceOf_withRow] at hq
          split at hq
          · next hrow =>
            rw [hrow.2]
            by_contra hne
            exact hleft hsame hne hq
          · rw [totalBalanceOf, balanceOf, book, ← books]
            exact hq
        · rwa [if_neg hsame, mem_allHolders_withRow, if_pos rfl] at hafter
      · exact hbefore

/-- An account that is paid back loses its place in the partition, and in the bond if it owns
nothing elsewhere.  Nobody else does, and no total changes. -/
theorem Rewritten.sent_back {act : Act} (hrewritten : Rewritten l act l') (h : l.Consistent)
    {a : Address} {p : Partition} (hback : act.PaysBack l a p) :
    (∀ b q, l'.totalBalanceOf b q = l.totalBalanceOf b q) ∧
      l'.registry.holders p = (l.registry.holders p).erase a ++ [a] ∧
      (∀ q, q ≠ p → l'.registry.holders q = l.registry.holders q) ∧
      l'.registry.allHolders =
        if l.holdingOf a = l.totalBalanceOf a p then l.registry.allHolders.erase a ++ [a]
        else l.registry.allHolders := by
  cases hrewritten with
  | none _ apart => exact absurd hback (apart a p)
  | one _ _ _ _ apart => exact absurd hback (apart a p)
  | @two l₁ source destination partition units sender receiver registry books paid received back =>
    obtain ⟨hne, rfl, rfl, rfl, rfl⟩ := (back a p).mp hback
    rw [← h.exact.total] at paid
    rw [balanceOf_withRow, if_pos ⟨rfl, rfl⟩] at received
    have hsender : sender.total = 0 := total_eq_zero_iff.mpr (by omega)
    have hreceiver : receiver.sum = (l.balanceOf destination partition).sum := by
      rw [← h.exact.total]
      omega
    have hbalance (b : Address) (q : Partition) : l₁.balanceOf b q = l.balanceOf b q := by
      rw [balanceOf, balanceOf, book, book, books]
    have htotal (b : Address) (q : Partition) :
        ((l₁.withRow destination partition sender).withRow destination partition
          receiver).totalBalanceOf b q = l.totalBalanceOf b q := by
      rw [← UInt64.toNat_inj, totalBalanceOf, totalBalanceOf, Balance.toNat_total,
        Balance.toNat_total, balanceOf_withRow]
      split
      · next hrow => rw [hreceiver, hrow.1, hrow.2]
      · next hrow => rw [balanceOf_withRow, if_neg hrow, hbalance]
    have howns : receiver.total ≠ 0 := by
      have hrow := htotal destination partition
      rw [totalBalanceOf, balanceOf_withRow, if_pos ⟨rfl, rfl⟩] at hrow
      rwa [hrow]
    refine ⟨htotal, ?_, fun q hq => ?_, ?_⟩
    · rw [holders_withRow, if_pos rfl, holders_withRow, if_pos rfl, registry, hsender,
        bne_iff_ne.mpr howns]
      exact Registry.settle_settle (l.nodup_holders partition) destination
    · rw [holders_withRow, if_neg hq, holders_withRow, if_neg hq, registry]
    · have hafter : ((l₁.withRow destination partition sender).withRow destination partition
          receiver).holdingOf destination ≠ 0 :=
        holdingOf_ne_zero ((htotal destination partition).trans_ne hne)
      -- in between the account owns what it owns elsewhere
      have hbetween : (l₁.withRow destination partition sender).holdingOf destination = 0 ↔
          l.holdingOf destination = l.totalBalanceOf destination partition := by
        have hwealth := l₁.wealthOf_withRow destination partition sender destination
        have hsame : l₁.wealthOf destination = l.wealthOf destination := by
          rw [wealthOf, wealthOf, books]
        have hrange := (l.holdingOf destination).toNat_lt_size
        rw [if_pos rfl, hsender, UInt64.toNat_zero, totalBalanceOf, hbalance, hsame,
          ← h.toNat_holdingOf] at hwealth
        rw [← UInt64.toNat_inj, ← UInt64.toNat_inj, toNat_holdingOf, Unsigned.toNat_greatest,
          UInt64.toNat_zero, totalBalanceOf]
        have : 0 < UInt64.size - 1 := by decide
        omega
      rw [allHolders_withRow, allHolders_withRow, registry, bne_iff_ne.mpr hafter]
      split
      · next hall =>
        rw [hbetween.mpr hall]
        exact Registry.settle_settle l.nodup_allHolders destination
      · next hall =>
        have hmem : destination ∈ l.registry.allHolders :=
          (h.mem_allHolders_iff destination).mpr (holdingOf_ne_zero hne)
        rw [bne_iff_ne.mpr (mt hbetween.mp hall), Registry.settle_of_mem hmem,
          Registry.settle_of_mem hmem]

/-- Unless an account is paid back, an act keeps the order of those who own something before and
after it, in every partition and in the bond, and newcomers come behind them.  An account that is
paid back goes to the end, and nobody else moves.  Whoever owns nothing is not enumerated. -/
theorem Accounted.holder_order (h : Accounted l) (act : Act) (hdone : act.mutation l = .ok () l') :
    ((∀ a p, ¬ act.PaysBack l a p) →
      (∀ q, StableOrder (l.registry.holders q) (l'.registry.holders q)
        (fun a => l.totalBalanceOf a q) fun a => l'.totalBalanceOf a q) ∧
      StableOrder l.registry.allHolders l'.registry.allHolders l.holdingOf l'.holdingOf) ∧
    (∀ a p, act.PaysBack l a p →
      (∀ b q, l'.totalBalanceOf b q = l.totalBalanceOf b q) ∧
      l'.registry.holders p = (l.registry.holders p).erase a ++ [a] ∧
      (∀ q, q ≠ p → l'.registry.holders q = l.registry.holders q) ∧
      l'.registry.allHolders =
        if l.holdingOf a = l.totalBalanceOf a p then l.registry.allHolders.erase a ++ [a]
        else l.registry.allHolders) ∧
    (∀ q a, l'.totalBalanceOf a q = 0 → a ∉ l'.registry.holders q) ∧
    ∀ a, l'.holdingOf a = 0 → a ∉ l'.registry.allHolders := by
  have hbefore := h.consistent
  have hafter := (act.allOrNothing hbefore).of_ok hdone
  have hrewritten := (act.rewritten hbefore).of_ok hdone
  refine ⟨fun hapart => ?_, fun a p hback => hrewritten.sent_back hbefore hback, ?_, ?_⟩
  · obtain ⟨hholders, hall⟩ := hrewritten.continues hbefore hapart
    refine ⟨fun q => ?_, ?_⟩
    · exact (hholders q).stableOrder (l.nodup_holders q) (l'.nodup_holders q)
        (hbefore.mem_holders_iff q) (hafter.mem_holders_iff q)
    · exact hall.stableOrder l.nodup_allHolders l'.nodup_allHolders hbefore.mem_allHolders_iff
        hafter.mem_allHolders_iff
  · exact fun q a hzero hmem => (hafter.mem_holders_iff q a).mp hmem hzero
  · exact fun a hzero hmem => (hafter.mem_allHolders_iff a).mp hmem hzero

/-- Two holders, the first with all of its units on hold for anybody. -/
def heldSample : Ledger :=
  empty
    |> Act.after (.issue (.ofLow 7) .default 100)
    |> Act.after (.issue (.ofLow 8) .default 50)
    |> Act.after (.createHold (.ofLow 7) .default 100 (.ofLow 9) none 5000)

/-- Paid to a newcomer, the units take the first holder off the roster; paid back to it, they send
it to the end. -/
theorem held_sample_order :
    let newcomer := Act.executeHold 1 (.ofLow 6) 100 10
    let holder := Act.executeHold 1 (.ofLow 7) 100 10
    heldSample.registry.allHolders = [.ofLow 7, .ofLow 8] ∧
    (newcomer.after heldSample).registry.allHolders = [.ofLow 8, .ofLow 6] ∧
    StableOrder heldSample.registry.allHolders (newcomer.after heldSample).registry.allHolders
      heldSample.holdingOf (newcomer.after heldSample).holdingOf ∧
    (holder.after heldSample).registry.holders .default = [.ofLow 8, .ofLow 7] := by
  intro newcomer holder
  have haccounted : Accounted heldSample := .after _ (.after _ (.after _ .empty))
  have hnewcomer : newcomer.mutation heldSample = .ok () (newcomer.after heldSample) := rfl
  have hholder : holder.mutation heldSample = .ok () (holder.after heldSample) := rfl
  have hhold : heldSample.holds.get? 1 =
      some ⟨1, .ofLow 7, .default, 100, .ofLow 9, none, 5000⟩ := by decide
  have hapart : ∀ a p, ¬ newcomer.PaysBack heldSample a p := by
    rintro a p ⟨-, record, hrecord, hsource, hdestination, -⟩
    cases hhold.symm.trans hrecord
    exact absurd (hsource.trans hdestination.symm) (by decide)
  have hback : holder.PaysBack heldSample (.ofLow 7) .default :=
    ⟨by decide, _, hhold, rfl, rfl, rfl, by decide⟩
  obtain ⟨hstable, -⟩ := haccounted.holder_order newcomer hnewcomer
  obtain ⟨-, hlast, -⟩ := haccounted.holder_order holder hholder
  refine ⟨by decide, by decide, (hstable hapart).2, ?_⟩
  rw [(hlast _ _ hback).2.1]
  decide

/-- Not every act keeps the order of those who own something before and after it. -/
theorem holder_order_lost :
    ¬ ∀ (l l' : Ledger) (act : Act), Accounted l → act.mutation l = .ok () l' →
      StableOrder l.registry.allHolders l'.registry.allHolders l.holdingOf l'.holdingOf := by
  intro hall
  have haccounted : Accounted heldSample := .after _ (.after _ (.after _ .empty))
  have hstable := hall heldSample _ (.executeHold 1 (.ofLow 7) 100 10) haccounted rfl
  have hkept := hstable.kept (.ofLow 7) (.ofLow 8) (by decide) (by decide) (by decide) (by decide)
  unfold Registry.Ahead at hkept
  exact absurd hkept (by decide)

end Ledger

end CouponBond
