import CouponBond.Proofs.LedgerArithmetic
import Mathlib.Algebra.Ring.Nat

/-!
# Encumbering units and setting them free again

Units that are locked, held, frozen or reserved stay in the row of their holder.  While they are
encumbered, the row counts what it counted before, so it is neither dropped nor entered anew, and
the rosters are left alone.  Once the units are free again, the ledger is the one from before: what
remains is that a number was given to the record.

A row is written as a whole, so of several writes only the last one is seen.  A state in between is
therefore described by what is still encumbered, and one call takes it from one such description
to the next.

## Main Definitions

* `Ledger.SameStanding` — everyone owns the same, and stands where they stood
* `Ledger.Encumbered` — a ledger while units of one row are encumbered
* `Ledger.StillIn` — units that have not left another bucket yet
* `Ledger.Freed` — an encumbrance that is undone part by part
* `Ledger.Reversible` — each way of encumbering units can be undone without a trace

## Main Results

* `Ledger.Consistent.withRow_eq_withBalance` — an owner's row keeps the rosters as they are
* `Ledger.Encumbered.write` — one more write of the row, and `Ledger.Encumbered.eq_records` — the
  last one
* `Ledger.Consistent.record_back` — a record of any kind that is opened and dropped
* `Ledger.FreesPart.exists_left`, `Ledger.StillIn.freed` — from what one call does to what all of
  them do
* `Ledger.Consistent.reversible` — locks, holds, freezes and clearings
-/

namespace CouponBond

/-! ### Changes that are taken back -/

namespace SortedMap

variable {K V : Type} [Ranked K] {m : SortedMap K V} {k : K}

theorem insert_insert (m : SortedMap K V) (k : K) (v w : V) :
    (m.insert k v).insert k w = m.insert k w := by
  refine ext_get? fun k' => ?_
  simp only [get?_insert]
  split <;> rfl

theorem erase_insert (v : V) (h : m.get? k = none) : (m.insert k v).erase k = m := by
  refine ext_get? fun k' => ?_
  rw [get?_erase, get?_insert]
  split
  · next hk => rw [rank_injective hk, h]
  · rfl

theorem insert_of_get? {v : V} (h : m.get? k = some v) : m.insert k v = m := by
  refine ext_get? fun k' => ?_
  rw [get?_insert]
  split
  · next hk => rw [rank_injective hk, h]
  · rfl

end SortedMap

namespace Balance

open Unsigned

variable {b b' b₀ : Balance} {bucket source target : Bucket} {units part rest : Amount}

/-- A balance is known by its buckets. -/
theorem ext_get (h : ∀ k, (b.get k).toNat = (b'.get k).toNat) : b = b' := by
  have hget : ∀ k, b.get k = b'.get k := fun k => UInt64.toNat_inj.mp (h k)
  cases b
  cases b'
  rw [mk.injEq]
  exact ⟨hget .free, hget .locked, hget .held, hget .frozen, hget .cleared⟩

/-- What was put into a bucket can be taken out again. -/
theorem debit?_of_credit? (h : b.credit? bucket units = some b') :
    b'.debit? bucket units = some b := by
  have hcredit := toNat_get_of_credit? h
  obtain ⟨c, hc⟩ := exists_debit? (b := b') (k := bucket) (u := units) (by
    rw [hcredit, if_pos rfl]
    exact Nat.le_add_left _ _)
  have hsame : c = b := ext_get fun k => by
    have := hcredit k
    have := toNat_get_of_debit? hc k
    omega
  rw [hc, hsame]

/-- Units that are moved in two goes are moved at once, and the other way round. -/
theorem exists_move?_of_move? (h : b.move? source target units = some b₀) (hne : source ≠ target)
    (hrest : sub? units part = some rest) :
    ∃ b', b.move? source target part = some b' ∧ b'.move? source target rest = some b₀ := by
  obtain ⟨hle, hleft⟩ := toNat_of_sub? hrest
  have hwhole := toNat_get_of_move? h
  have hsource := hwhole source
  have htarget := hwhole target
  rw [if_pos rfl, if_neg hne] at hsource
  rw [if_neg hne.symm, if_pos rfl] at htarget
  have hrange := (b₀.get target).toNat_lt
  obtain ⟨b', hpart⟩ := exists_move? (b := b) (s := source) (t := target) (u := part) (by omega)
    (by rw [UInt64.size]; omega)
  have hsource' := toNat_get_of_move? hpart source
  have htarget' := toNat_get_of_move? hpart target
  rw [if_pos rfl, if_neg hne] at hsource'
  rw [if_neg hne.symm, if_pos rfl] at htarget'
  obtain ⟨c, hlast⟩ := exists_move? (b := b') (s := source) (t := target) (u := rest) (by omega)
    (by rw [UInt64.size]; omega)
  have hsame : c = b₀ := ext_get fun k => by
    have := hwhole k
    have := toNat_get_of_move? hpart k
    have := toNat_get_of_move? hlast k
    grind
  exact ⟨b', hpart, hsame ▸ hlast⟩

/-- What was moved can be moved back. -/
theorem move?_of_move? (h : b.move? source target units = some b') (hne : source ≠ target) :
    b'.move? target source units = some b := by
  have hthere := toNat_get_of_move? h
  have hsource := hthere source
  have htarget := hthere target
  rw [if_pos rfl, if_neg hne] at hsource
  rw [if_neg hne.symm, if_pos rfl] at htarget
  have hrange := (b.get source).toNat_lt
  obtain ⟨c, hback⟩ := exists_move? (b := b') (s := target) (t := source) (u := units) (by omega)
    (by rw [UInt64.size]; omega)
  have hsame : c = b := ext_get fun k => by
    have := hthere k
    have := toNat_get_of_move? hback k
    omega
  rw [hback, hsame]

theorem move?_zero (b : Balance) (source target : Bucket) : b.move? source target 0 = some b := by
  obtain ⟨c, hc⟩ := exists_move? (b := b) (s := source) (t := target) (u := 0)
    (Nat.zero_le _) (b.get target).toNat_lt
  have hsame : c = b := ext_get fun k => by
    have hkept := toNat_get_of_move? hc k
    rwa [UInt64.toNat_zero, ite_self, ite_self] at hkept
  rw [hc, hsame]

end Balance

/-! ### Rosters that are left alone -/

theorem Roster.insert_of_mem {r : Roster} {a : Address} (h : a ∈ r.members) : r.insert a = r := by
  obtain ⟨placement, hsound⟩ := r
  have hcontains : placement.placeOf.contains a = true := contains_iff.mpr h
  simp only [insert, Placement.insert, if_pos hcontains]

/-- A holder with units is entered already. -/
theorem Registry.reconcile_of_mem {r : Registry} {a : Address} {q : Partition}
    {partitionTotal overallTotal : Amount} (hq : a ∈ r.holders q) (hall : a ∈ r.allHolders)
    (hpartition : partitionTotal ≠ 0) (hoverall : overallTotal ≠ 0) :
    r.reconcile a q partitionTotal overallTotal = r := by
  have hrosters : reconcilePartition r.partitions a q (partitionTotal != 0) = r.partitions := by
    unfold reconcilePartition
    unfold holders roster at hq
    rw [if_pos (bne_iff_ne.mpr hpartition)]
    cases hget : r.partitions.get? q with
    | none =>
      rw [hget] at hq
      cases hq
    | some roster =>
      rw [hget, Option.getD_some] at hq
      rw [Option.getD_some, Roster.insert_of_mem hq, SortedMap.insert_of_get? hget]
  unfold reconcile
  rw [hrosters, if_neg hoverall, Roster.insert_of_mem hall]

namespace Book

theorem withRow_withRow (b : Book) (a : Address) (balance balance' : Balance) :
    (b.withRow a balance).withRow a balance' = b.withRow a balance' := by
  unfold withRow
  congr 1
  refine SortedMap.ext_get? fun k => ?_
  split <;> split <;> simp only [SortedMap.get?_insert, SortedMap.get?_erase] <;> split <;> rfl

/-- A row that is kept is written as it is. -/
theorem withRow_balanceOf {b : Book} {a : Address} (h : b.balanceOf a ≠ .zero) :
    b.withRow a (b.balanceOf a) = b := by
  unfold withRow
  rw [if_neg h]
  unfold balanceOf at h ⊢
  cases hget : b.balances.get? a with
  | none =>
    rw [hget] at h
    exact absurd rfl h
  | some balance => rw [Option.getD_some, SortedMap.insert_of_get? hget]

end Book

namespace Ledger

open Unsigned

variable {l l₁ l' : Ledger} {a : Address} {q : Partition} {balance balance' : Balance}

/-! ### Rows of owners -/

/-- The ledger with another row of a holder, and the rosters as they were. -/
def withBalance (l : Ledger) (holder : Address) (partition : Partition) (balance : Balance) :
    Ledger :=
  { l with books := l.books.insert partition ((l.book partition).withRow holder balance) }

theorem balanceOf_withBalance (l : Ledger) (a : Address) (q : Partition) (balance : Balance) :
    (l.withBalance a q balance).balanceOf a q = balance :=
  (l.balanceOf_withRow a q balance a q).trans (if_pos ⟨rfl, rfl⟩)

theorem withBalance_withBalance (l : Ledger) (a : Address) (q : Partition)
    (balance balance' : Balance) :
    (l.withBalance a q balance).withBalance a q balance' = l.withBalance a q balance' := by
  have hbook : (l.withBalance a q balance).book q = (l.book q).withRow a balance :=
    (l.book_withRow a q balance q).trans (if_pos rfl)
  unfold withBalance at hbook ⊢
  rw [hbook, Book.withRow_withRow, SortedMap.insert_insert]

theorem withBalance_balanceOf (h : l.balanceOf a q ≠ .zero) :
    l.withBalance a q (l.balanceOf a q) = l := by
  unfold withBalance
  unfold balanceOf at h ⊢
  rw [Book.withRow_balanceOf h]
  unfold book at h ⊢
  cases hget : l.books.get? q with
  | none =>
    rw [hget] at h
    exact absurd rfl h
  | some b => rw [Option.getD_some, SortedMap.insert_of_get? hget]

/-- A row of an owner is written with as much in it. -/
structure OwnersRow (l : Ledger) (a : Address) (q : Partition) (balance : Balance) : Prop where
  owns : (l.balanceOf a q).sum ≠ 0
  sum : balance.sum = (l.balanceOf a q).sum

namespace OwnersRow

theorem total_eq (h : l.OwnersRow a q balance) : balance.total = l.totalBalanceOf a q := by
  rw [← UInt64.toNat_inj, totalBalanceOf, Balance.toNat_total, Balance.toNat_total, h.sum]

theorem total_ne_zero (h : l.OwnersRow a q balance) : balance.total ≠ 0 := by
  have howns := h.owns
  rw [← h.sum] at howns
  rw [Ne, ← UInt64.toNat_inj, Balance.toNat_total, toNat_greatest, UInt64.size, UInt64.toNat_zero]
  omega

theorem ne_zero (h : l.OwnersRow a q balance) : balance ≠ .zero := fun hzero =>
  h.total_ne_zero (hzero ▸ Balance.total_zero)

theorem balanceOf_ne_zero (h : l.OwnersRow a q balance) : l.balanceOf a q ≠ .zero := fun hzero =>
  h.owns (hzero ▸ Balance.sum_zero)

theorem of_sum_eq (h : l.OwnersRow a q balance) (hsum : balance'.sum = balance.sum) :
    l.OwnersRow a q balance' := ⟨h.owns, hsum.trans h.sum⟩

end OwnersRow

/-- While records change, an owner's row is written, and the rosters are left alone. -/
theorem Consistent.withRow_eq_withBalance (h : l.Consistent) (hrow : l.OwnersRow a q balance)
    (hregistry : l₁.registry = l.registry) :
    l₁.withRow a q balance = l₁.withBalance a q balance := by
  have howns : l.totalBalanceOf a q ≠ 0 := hrow.total_eq ▸ hrow.total_ne_zero
  have hq : a ∈ l₁.registry.holders q := hregistry ▸ (h.mem_holders_iff q a).mpr howns
  have hall : a ∈ l₁.registry.allHolders := by
    rw [hregistry, h.mem_allHolders_iff, Ne, holdingOf_eq_zero_iff]
    exact fun hzero => howns (hzero q)
  have hafter : (l₁.withBalance a q balance).holdingOf a ≠ 0 := by
    rw [Ne, holdingOf_eq_zero_iff]
    refine fun hzero => hrow.total_ne_zero ?_
    rw [← hzero q, totalBalanceOf, balanceOf_withBalance]
  have hrosters := Registry.reconcile_of_mem hq hall hrow.total_ne_zero hafter
  exact congrArg (fun r : Registry => { l₁.withBalance a q balance with registry := r }) hrosters

/-! ### Standing -/

/-- Everyone owns what they owned, in the same rows, and stands where they stood. -/
structure SameStanding (l l' : Ledger) : Prop where
  registry : l'.registry = l.registry
  rows : ∀ a q, ((l'.book q).balances.get? a).isSome = ((l.book q).balances.get? a).isSome
  totals : ∀ a q, l'.totalBalanceOf a q = l.totalBalanceOf a q
  holdings : ∀ a, l'.holdingOf a = l.holdingOf a
  supplies : ∀ q, l'.totalSupply q = l.totalSupply q

/-- A row that is not a row of zeros is kept. -/
theorem isSome_get?_of_balanceOf_ne_zero (h : l.balanceOf a q ≠ .zero) :
    ((l.book q).balances.get? a).isSome := by
  unfold balanceOf Book.balanceOf at h
  cases hget : (l.book q).balances.get? a with
  | none =>
    rw [hget] at h
    exact absurd rfl h
  | some balance => rfl

/-- Whoever writes an owner's row with as much in it leaves everyone's standing alone. -/
theorem OwnersRow.sameStanding (h : l.OwnersRow a q balance) (hbooks : l₁.books = l.books)
    (hregistry : l₁.registry = l.registry) : l.SameStanding (l₁.withBalance a q balance) := by
  obtain ⟨books, registry, locks, holds, clearings, lockCounter, holdCounter, clearingCounter⟩ := l₁
  obtain rfl : books = l.books := hbooks
  obtain rfl : registry = l.registry := hregistry
  have hrow := l.balanceOf_withRow a q balance
  have hwealth := l.wealthOf_withRow a q balance
  refine ⟨rfl, fun b p => ?_, fun b p => ?_, fun b => ?_, l.totalSupply_withRow a q balance⟩
  · by_cases hbp : b = a ∧ p = q
    · obtain ⟨rfl, rfl⟩ := hbp
      rw [isSome_get?_of_balanceOf_ne_zero h.balanceOf_ne_zero]
      refine isSome_get?_of_balanceOf_ne_zero ?_
      rw [balanceOf_withBalance]
      exact h.ne_zero
    · exact congrArg Option.isSome (l.get?_balances_withRow_of_ne a q balance hbp)
  · show ((l.withRow a q balance).balanceOf b p).total = (l.balanceOf b p).total
    rw [hrow]
    split
    · next hbp => rw [hbp.1, hbp.2, h.total_eq, totalBalanceOf]
    · rfl
  · show (l.withRow a q balance).holdingOf b = l.holdingOf b
    have hb : (if b = a then balance.total else l.totalBalanceOf b q) = l.totalBalanceOf b q := by
      split
      · next heq => rw [heq, h.total_eq]
      · rfl
    have hsame := hwealth b
    rw [hb] at hsame
    rw [← UInt64.toNat_inj, toNat_holdingOf, toNat_holdingOf, Nat.add_right_cancel hsame]

/-! ### Units that stay in their row -/

/-- A change of records and counters, which neither sees nor touches the books and the rosters. -/
def OnlyRecords (update : Ledger → Ledger) : Prop :=
  ∀ (s : Ledger) books registry, update { s with books := books, registry := registry } =
    { update s with books := books, registry := registry }

/-- A ledger that differs from `l` in one row of an owner, which has as much in it, and in its
records and counters, which are those of `records`. -/
structure Encumbered (l : Ledger) (a : Address) (q : Partition) (balance : Balance)
    (records s : Ledger) : Prop where
  consistent : s.Consistent
  row : l.OwnersRow a q balance
  books : records.books = l.books
  registry : records.registry = l.registry
  eq_withBalance : s = records.withBalance a q balance

namespace Encumbered

variable {records records' s s' : Ledger}

theorem start (h : l.Consistent) (howns : (l.balanceOf a q).sum ≠ 0) :
    l.Encumbered a q (l.balanceOf a q) l l :=
  have hrow : l.OwnersRow a q (l.balanceOf a q) := ⟨howns, rfl⟩
  ⟨h, hrow, rfl, rfl, (withBalance_balanceOf hrow.balanceOf_ne_zero).symm⟩

theorem sameStanding (h : l.Encumbered a q balance records s) : l.SameStanding s :=
  h.eq_withBalance ▸ h.row.sameStanding h.books h.registry

theorem balanceOf_eq (h : l.Encumbered a q balance records s) : s.balanceOf a q = balance := by
  rw [h.eq_withBalance, balanceOf_withBalance]

/-- When the row is the old one again, only records and counters differ. -/
theorem eq_records (h : l.Encumbered a q (l.balanceOf a q) records s) : s = records := by
  have hsame : records.balanceOf a q = l.balanceOf a q := by
    rw [balanceOf, balanceOf, book, book, h.books]
  rw [h.eq_withBalance, ← hsame, withBalance_balanceOf]
  rw [hsame]
  exact h.row.balanceOf_ne_zero

/-- The row is written once more while records change. -/
theorem write (h : l.Encumbered a q balance records s) (update : Ledger → Ledger)
    (hupdate : OnlyRecords update) (hsum : balance'.sum = balance.sum)
    (hdone : ((update s).withRow a q balance').Consistent) :
    l.Encumbered a q balance' (update records) ((update s).withRow a q balance') := by
  have hbooks : ∀ s, (update s).books = s.books := fun s =>
    (congrArg Ledger.books (hupdate s s.books s.registry) :)
  have hregistry : ∀ s, (update s).registry = s.registry := fun s =>
    (congrArg Ledger.registry (hupdate s s.books s.registry) :)
  have hrecords : update s = (update records).withBalance a q balance := by
    have hbook : (update records).book q = records.book q := by rw [book, book, hbooks]
    rw [h.eq_withBalance, withBalance, withBalance, hbook, hbooks]
    refine (hupdate records _ records.registry).trans ?_
    rw [← hregistry]
  have hrow : s.OwnersRow a q balance' := by
    refine ⟨?_, ?_⟩
    · rw [h.balanceOf_eq, h.row.sum]
      exact h.row.owns
    · rw [h.balanceOf_eq, hsum]
  refine ⟨hdone, h.row.of_sum_eq hsum, (hbooks _).trans h.books, (hregistry _).trans h.registry, ?_⟩
  rw [h.consistent.withRow_eq_withBalance hrow (hregistry s), hrecords, withBalance_withBalance]

end Encumbered

/-- Whoever can spend something owns something. -/
theorem sum_ne_zero_of_available {amount : Amount} (hpos : amount ≠ 0)
    (havailable : amount ≤ (l.balanceOf a q).available) : (l.balanceOf a q).sum ≠ 0 := by
  have hspent := UInt64.le_iff_toNat_le.mp havailable
  have htotal := (l.balanceOf a q).toNat_available_le_total
  rw [Balance.toNat_total] at htotal
  rw [Ne, ← UInt64.toNat_inj, UInt64.toNat_zero] at hpos
  omega

/-! ### Records that are dropped as a whole -/

section Records

variable {holder source destination : Address} {partition : Partition} {amount : Amount}
  {expiration : Timestamp}

/-- A record is opened while its row goes on counting the same.  As long as it is open everyone
stands where they stood; once it is dropped and the row is the old one again, only the counter has
moved on. -/
theorem Consistent.record_back (h : l.Consistent) (kind : RecordKind) {id : UInt64}
    {r : kind.Record} (hid : add? (l.counterOf kind) 1 = some id)
    (howns : (l.balanceOf a q).sum ≠ 0) (hsum : balance.sum = (l.balanceOf a q).sum)
    (h₁ : l₁.Consistent)
    (hopened : l₁ = (l.withRecords kind id ((l.recordsOf kind).insert id r)).withRow a q balance) :
    l.SameStanding l₁ ∧ l₁.balanceOf a q = balance ∧ (l₁.recordsOf kind).get? id = some r ∧
      ∀ l' : Ledger, l'.Consistent →
        l' = (l₁.withRecords kind (l₁.counterOf kind) ((l₁.recordsOf kind).erase id)).withRow a q
          (l.balanceOf a q) →
        l' = l.withRecords kind id (l.recordsOf kind) := by
  have hadds : OnlyRecords fun s => s.withRecords kind id ((s.recordsOf kind).insert id r) := by
    cases kind <;> exact fun _ _ _ => rfl
  have hdrops : OnlyRecords fun s =>
      s.withRecords kind (s.counterOf kind) ((s.recordsOf kind).erase id) := by
    cases kind <;> exact fun _ _ _ => rfl
  have hfresh := (h.numbered kind).fresh (lt_of_add?_one hid)
  subst hopened
  have hopen := (Encumbered.start h howns).write _ hadds hsum h₁
  refine ⟨hopen.sameStanding, hopen.balanceOf_eq, ?_, fun l' hl' hdropped => ?_⟩
  · rw [recordsOf_withRow, recordsOf_withRecords, SortedMap.get?_insert, if_pos rfl]
  · subst hdropped
    refine (hopen.write _ hdrops hsum.symm hl').eq_records.trans ?_
    rw [counterOf_withRecords, recordsOf_withRecords, SortedMap.erase_insert _ hfresh,
      withRecords_withRecords]

/-- Locked units stay in their row, and an expired lock is released without a trace. -/
theorem Consistent.lock_back (h : l.Consistent) {id : LockId}
    (hl : Ledger.lock holder partition amount expiration l = .ok id l₁) :
    add? l.lockCounter 1 = some id ∧ l.SameStanding l₁ ∧ ∀ now, expiration ≤ now →
      releaseLock id now l₁ = .ok ⟨id, holder, partition, amount, expiration⟩
        { l with lockCounter := id } := by
  have h₁ : l₁.Consistent := h.of_ok (.lock holder partition amount expiration) rfl hl
  obtain ⟨hpos, havailable, balance, hbalance, hid, hopened⟩ := (lock_spec h _ _ _ _).of_ok hl
  obtain ⟨hstanding, hrow, hrecord, hdropped⟩ := h.record_back .lock hid
    (sum_ne_zero_of_available hpos havailable) (Balance.sum_of_move? hbalance nofun nofun) h₁
    hopened
  refine ⟨hid, hstanding, fun now hnow => ?_⟩
  obtain ⟨l', hdone⟩ := h₁.recordsEnd.releaseLock id _ now hrecord hnow
  obtain ⟨-, -, back, hback, hl'⟩ := (releaseLock_spec h₁ id now).of_ok hdone
  -- the units move back, so the row is the one from before
  rw [hrow, Balance.move?_of_move? hbalance nofun] at hback
  obtain rfl := Option.some.inj hback
  rw [hdone, hdropped l' (h₁.of_ok (.releaseLock id now) rfl hdone) hl']
  rfl

/-- Reserved units stay in their row, and a clearing is cancelled without a trace. -/
theorem Consistent.clearing_back (h : l.Consistent) {id : ClearingId}
    (hl : createClearing source destination partition amount expiration l = .ok id l₁) :
    add? l.clearingCounter 1 = some id ∧ l.SameStanding l₁ ∧
      cancelClearing id l₁ = .ok ⟨id, source, destination, partition, amount, expiration⟩
        { l with clearingCounter := id } := by
  have h₁ : l₁.Consistent :=
    h.of_ok (.createClearing source destination partition amount expiration) rfl hl
  obtain ⟨hpos, havailable, balance, hbalance, hid, hopened⟩ :=
    (createClearing_spec h _ _ _ _ _).of_ok hl
  obtain ⟨hstanding, hrow, hrecord, hdropped⟩ := h.record_back .clearing hid
    (sum_ne_zero_of_available hpos havailable) (Balance.sum_of_credit?_cleared hbalance) h₁ hopened
  refine ⟨hid, hstanding, ?_⟩
  obtain ⟨l', hdone⟩ := h₁.recordsEnd.cancelClearing id _ hrecord
  obtain ⟨-, back, hback, hl'⟩ := (cancelClearing_spec h₁ id).of_ok hdone
  rw [hrow, Balance.debit?_of_credit? hbalance] at hback
  obtain rfl := Option.some.inj hback
  rw [hdone, hdropped l' (h₁.of_ok (.cancelClearing id) rfl hdone) hl']
  rfl

end Records

/-! ### Parts -/

/-- The ledger that calls for one part after the other leave, each of them applied or refused. -/
def afterParts (act : Amount → Act) (parts : List Amount) (l : Ledger) : Ledger :=
  parts.foldl (fun s part => (act part).after s) l

/-- What was encumbered in `l₁` is set free part by part.  The calls are accepted, in between
everyone stands as in `l`, and the last call leaves `final`. -/
structure Freed (l l₁ : Ledger) (act : Amount → Act) (parts : List Amount) (final : Ledger) :
    Prop where
  accepted : ∀ done part rest, parts = done ++ part :: rest → part ≠ 0 →
    ∃ l', (act part).mutation (afterParts act done l₁) = .ok () l'
  between : ∀ done rest, parts = done ++ rest → l.SameStanding (afterParts act done l₁)
  ends : afterParts act parts l₁ = final

section Parts

variable {act : Amount → Act} {Left : Amount → Ledger → Prop}

/-- One call takes its part off what is left, and a call for nothing changes nothing. -/
structure FreesPart (act : Amount → Act) (Left : Amount → Ledger → Prop) : Prop where
  idle : ∀ s, (act 0).after s = s
  step : ∀ left part rest s, Left left s → part ≠ 0 → sub? left part = some rest →
    ∃ s', (act part).mutation s = .ok () s' ∧ Left rest s'

/-- Calls take what they add up to off what is left. -/
theorem FreesPart.exists_left (h : FreesPart act Left) (parts : List Amount) {left : Amount}
    {s : Ledger} (hleft : Left left s) (hsum : (parts.map UInt64.toNat).sum ≤ left.toNat) :
    ∃ rest : Amount, rest.toNat + (parts.map UInt64.toNat).sum = left.toNat ∧
      Left rest (afterParts act parts s) := by
  induction parts generalizing left s with
  | nil => exact ⟨left, rfl, hleft⟩
  | cons part parts ih =>
    rw [List.map_cons, List.sum_cons] at hsum ⊢
    by_cases hpart : part = 0
    · subst hpart
      rw [UInt64.toNat_zero, Nat.zero_add] at hsum ⊢
      rw [afterParts, List.foldl_cons, h.idle]
      exact ih hleft hsum
    · obtain ⟨rest, hrest⟩ := Option.isSome_iff_exists.mp
        (isSome_sub?_iff (a := left) (b := part).mpr (by omega))
      obtain ⟨s', hdone, hleft'⟩ := h.step left part rest s hleft hpart hrest
      have hafter : (act part).after s = s' := by rw [Act.after, hdone]
      obtain ⟨hle, hsub⟩ := toNat_of_sub? hrest
      obtain ⟨last, hlast, hleftLast⟩ := ih hleft' (by omega)
      rw [afterParts, List.foldl_cons, hafter]
      exact ⟨last, by omega, hleftLast⟩

end Parts

/-! ### Units that leave a bucket part by part -/

/-- In `s`, so many units that are free in `l` still are in another bucket of their row. -/
def StillIn (l : Ledger) (a : Address) (q : Partition) (bucket : Bucket)
    (records : Amount → Ledger) (left : Amount) (s : Ledger) : Prop :=
  ∃ balance, l.Encumbered a q balance (records left) s ∧
    balance.move? bucket .free left = some (l.balanceOf a q)

namespace StillIn

variable {bucket : Bucket} {records : Amount → Ledger} {left part rest amount : Amount}
  {s : Ledger} {act : Amount → Act} {parts : List Amount}

theorem consistent (h : l.StillIn a q bucket records left s) : s.Consistent := by
  obtain ⟨balance, hs, -⟩ := h
  exact hs.consistent

theorem sameStanding (h : l.StillIn a q bucket records left s) : l.SameStanding s := by
  obtain ⟨balance, hs, -⟩ := h
  exact hs.sameStanding

theorem eq_records (h : l.StillIn a q bucket records 0 s) : s = records 0 := by
  obtain ⟨balance, hs, hnothing⟩ := h
  rw [Balance.move?_zero] at hnothing
  obtain rfl := Option.some.inj hnothing
  exact hs.eq_records

/-- The units are moved into the bucket, and could be moved back. -/
theorem start (h : l.Encumbered a q balance (records amount) s)
    (hbalance : (l.balanceOf a q).move? .free bucket amount = some balance)
    (hbucket : bucket ≠ .free) : l.StillIn a q bucket records amount s :=
  ⟨balance, h, Balance.move?_of_move? hbalance hbucket.symm⟩

/-- One part moves out of the bucket while records change. -/
theorem exists_move? (h : l.StillIn a q bucket records left s) (hbucket : bucket ≠ .free)
    (hcounted : bucket ≠ .cleared) (hrest : sub? left part = some rest) :
    ∃ next, (s.balanceOf a q).move? bucket .free part = some next ∧
      ∀ update, OnlyRecords update → update (records left) = records rest →
        ((update s).withRow a q next).Consistent →
          l.StillIn a q bucket records rest ((update s).withRow a q next) := by
  obtain ⟨balance, hs, hback⟩ := h
  obtain ⟨next, hpart, hback'⟩ := Balance.exists_move?_of_move? hback hbucket hrest
  refine ⟨next, hs.balanceOf_eq ▸ hpart, fun update hupdate hrecords hdone => ⟨next, ?_, hback'⟩⟩
  rw [← hrecords]
  exact hs.write update hupdate (Balance.sum_of_move? hpart hcounted nofun) hdone

/-- Parts that add up to what was encumbered set all of it free. -/
theorem freed (h : l.StillIn a q bucket records amount l₁)
    (hact : FreesPart act (l.StillIn a q bucket records))
    (hsum : (parts.map UInt64.toNat).sum = amount.toNat) :
    l.Freed l₁ act parts (records 0) := by
  refine ⟨fun done part rest hparts hpos => ?_, fun done rest hparts => ?_, ?_⟩
  · rw [hparts, List.map_append, List.sum_append, List.map_cons, List.sum_cons] at hsum
    obtain ⟨left, hle, hdone⟩ := hact.exists_left done h (by omega)
    obtain ⟨last, hlast⟩ := Option.isSome_iff_exists.mp
      (isSome_sub?_iff (a := left) (b := part).mpr (by omega))
    obtain ⟨s', hs', -⟩ := hact.step left part last _ hdone hpos hlast
    exact ⟨s', hs'⟩
  · rw [hparts, List.map_append, List.sum_append] at hsum
    obtain ⟨left, -, hdone⟩ := hact.exists_left done h (by omega)
    exact hdone.sameStanding
  · obtain ⟨left, hle, hdone⟩ := hact.exists_left parts h (Nat.le_of_eq hsum)
    obtain rfl : left = 0 := UInt64.toNat_inj.mp (by rw [UInt64.toNat_zero]; omega)
    exact hdone.eq_records

end StillIn

/-! ### Frozen units -/

theorem freesPart_unfreeze (l : Ledger) (holder : Address) (partition : Partition) :
    FreesPart (.unfreeze holder partition)
      (l.StillIn holder partition .frozen fun _ => l) where
  idle _ := rfl
  step left part rest s hleft hpos hrest := by
    obtain ⟨next, hpart, hwrite⟩ := hleft.exists_move? nofun nofun hrest
    have hcovered : part ≤ (s.balanceOf holder partition).frozen := by
      have hmoved := Balance.toNat_get_of_move? hpart .frozen
      rw [if_pos rfl, if_neg nofun] at hmoved
      rw [UInt64.le_iff_toNat_le]
      show part.toNat ≤ ((s.balanceOf holder partition).get .frozen).toNat
      omega
    obtain ⟨_, s', hdone, -, -, written, hwritten, rfl⟩ :=
      (unfreeze_spec hleft.consistent holder partition part).exists_ok
        fun e he => absurd (he.2 hpos) (UInt64.not_lt.mpr hcovered)
    obtain rfl := Option.some.inj (hpart.symm.trans hwritten)
    exact ⟨_, AllOrNothing.bind_ok hdone, hwrite id (fun _ _ _ => rfl) rfl
      (hleft.consistent.of_ok (.unfreeze holder partition part) rfl hdone)⟩

/-- Frozen units stay in their row, and are unfrozen without a trace. -/
theorem Consistent.freeze_back (h : l.Consistent) {holder : Address} {partition : Partition}
    {amount : Amount} (hl : Ledger.freeze holder partition amount l = .ok () l₁) :
    l.SameStanding l₁ ∧ ∀ parts : List Amount, (parts.map UInt64.toNat).sum = amount.toNat →
      l.Freed l₁ (.unfreeze holder partition) parts l := by
  have h₁ : l₁.Consistent := h.of_ok (.freeze holder partition amount) rfl hl
  obtain ⟨hpos, havailable, balance, hbalance, rfl⟩ := (freeze_spec h _ _ _).of_ok hl
  have hstart := Encumbered.start h (sum_ne_zero_of_available hpos havailable)
  have hfrozen := hstart.write id (fun _ _ _ => rfl)
    (Balance.sum_of_move? hbalance nofun nofun) h₁
  have hstill : l.StillIn holder partition .frozen (fun _ => l) amount _ :=
    .start hfrozen hbalance nofun
  exact ⟨hfrozen.sameStanding, fun _ => hstill.freed (freesPart_unfreeze l holder partition)⟩

/-! ### Held units -/

/-- The ledger with a hold of which so many units are left; one that is used up is gone. -/
def withHold (l : Ledger) (id : HoldId) (record : Hold) (left : Amount) : Ledger :=
  { l with
    holdCounter := id
    holds := if left = 0 then l.holds else l.holds.insert id { record with amount := left } }

theorem withHoldRest_withHold {id : HoldId} (hfresh : l.holds.get? id = none) (record : Hold)
    {left : Amount} (hleft : left ≠ 0) (rest : Amount) :
    (l.withHold id record left).withHoldRest id { record with amount := left } rest =
      l.withHold id record rest := by
  unfold withHoldRest withHold
  simp only [if_neg hleft, SortedMap.erase_insert _ hfresh, SortedMap.insert_insert]

theorem StillIn.get?_holds {id : HoldId} {record : Hold} {left : Amount} {s : Ledger}
    (h : l.StillIn a q .held (l.withHold id record) left s) (hopen : left ≠ 0) :
    s.holds.get? id = some { record with amount := left } := by
  obtain ⟨balance, hs, -⟩ := h
  rw [hs.eq_withBalance]
  show (l.withHold id record left).holds.get? id = _
  unfold withHold
  rw [if_neg hopen, SortedMap.get?_insert, if_pos rfl]

theorem freesPart_releaseHold {id : HoldId} (hfresh : l.holds.get? id = none) (record : Hold) :
    FreesPart (.releaseHold id)
      (l.StillIn record.holder record.partition .held (l.withHold id record)) where
  idle _ := rfl
  step left part rest s hleft hpos hrest := by
    obtain ⟨next, hpart, hwrite⟩ := hleft.exists_move? nofun nofun hrest
    obtain ⟨hle, -⟩ := toNat_of_sub? hrest
    have hopen : left ≠ 0 := by
      rintro rfl
      exact hpos (UInt64.toNat_inj.mp (Nat.le_zero.mp hle))
    have hrecord := hleft.get?_holds hopen
    obtain ⟨s', hdone⟩ := hleft.consistent.recordsEnd.releaseHold id _ part
      ⟨hrecord, hpos, UInt64.le_iff_toNat_le.mpr hle⟩
    obtain ⟨found, hfound, -, -, written, kept, hwritten, hkept, rfl⟩ :=
      (releaseHold_spec hleft.consistent id part).of_ok hdone
    obtain rfl := Option.some.inj (hrecord.symm.trans hfound)
    obtain rfl := Option.some.inj (hrest.symm.trans hkept)
    obtain rfl := Option.some.inj (hpart.symm.trans hwritten)
    exact ⟨_, AllOrNothing.bind_ok hdone,
      hwrite (fun s => s.withHoldRest id { record with amount := left } rest) (fun _ _ _ => rfl)
        (withHoldRest_withHold hfresh record hopen rest)
        (hleft.consistent.of_ok (.releaseHold id part) rfl hdone)⟩

/-- Held units stay in their row, and the hold is released part by part without a trace. -/
theorem Consistent.hold_back (h : l.Consistent) {holder : Address} {partition : Partition}
    {amount : Amount} {escrow : Address} {destination : Option Address} {expiration : Timestamp}
    {id : HoldId}
    (hl : createHold holder partition amount escrow destination expiration l = .ok id l₁) :
    add? l.holdCounter 1 = some id ∧ l.SameStanding l₁ ∧
      ∀ parts : List Amount, (parts.map UInt64.toNat).sum = amount.toNat →
        l.Freed l₁ (.releaseHold id) parts { l with holdCounter := id } := by
  have h₁ : l₁.Consistent :=
    h.of_ok (.createHold holder partition amount escrow destination expiration) rfl hl
  obtain ⟨hpos, havailable, balance, hbalance, hid, rfl⟩ :=
    (createHold_spec h _ _ _ _ _ _).of_ok hl
  have hfresh := h.holds_numbered.fresh (lt_of_add?_one hid)
  have hrecords : { l with
      holdCounter := id
      holds := l.holds.insert id
        ⟨id, holder, partition, amount, escrow, destination, expiration⟩ } = l.withHold id
          ⟨id, holder, partition, amount, escrow, destination, expiration⟩ amount := by
    rw [withHold, if_neg hpos]
  rw [hrecords] at h₁ ⊢
  have hstart := Encumbered.start h (sum_ne_zero_of_available hpos havailable)
  have hheld := hstart.write (fun s => s.withHold id _ amount) (fun _ _ _ => rfl)
    (Balance.sum_of_move? hbalance nofun nofun) h₁
  have hstill : l.StillIn holder partition .held (l.withHold id _) amount _ :=
    .start hheld hbalance nofun
  exact ⟨hid, hheld.sameStanding, fun _ => hstill.freed (freesPart_releaseHold hfresh
    ⟨id, holder, partition, amount, escrow, destination, expiration⟩)⟩

/-! ### All four -/

/-- Each way of encumbering units can be undone without a trace: what remains is that the counter
of records has moved on.  While the units are encumbered, everyone stands where they stood. -/
structure Reversible (l : Ledger) : Prop where
  lock : ∀ holder partition amount expiration id l₁,
    Ledger.lock holder partition amount expiration l = .ok id l₁ →
      add? l.lockCounter 1 = some id ∧ l.SameStanding l₁ ∧ ∀ now, expiration ≤ now →
        releaseLock id now l₁ = .ok ⟨id, holder, partition, amount, expiration⟩
          { l with lockCounter := id }
  hold : ∀ holder partition amount escrow destination expiration id l₁,
    createHold holder partition amount escrow destination expiration l = .ok id l₁ →
      add? l.holdCounter 1 = some id ∧ l.SameStanding l₁ ∧
        ∀ parts : List Amount, (parts.map UInt64.toNat).sum = amount.toNat →
          l.Freed l₁ (.releaseHold id) parts { l with holdCounter := id }
  freezing : ∀ holder partition amount l₁, freeze holder partition amount l = .ok () l₁ →
    l.SameStanding l₁ ∧ ∀ parts : List Amount, (parts.map UInt64.toNat).sum = amount.toNat →
      l.Freed l₁ (.unfreeze holder partition) parts l
  clearing : ∀ source destination partition amount expiration id l₁,
    createClearing source destination partition amount expiration l = .ok id l₁ →
      add? l.clearingCounter 1 = some id ∧ l.SameStanding l₁ ∧
        cancelClearing id l₁ = .ok ⟨id, source, destination, partition, amount, expiration⟩
          { l with clearingCounter := id }

theorem Consistent.reversible (h : l.Consistent) : l.Reversible where
  lock _ _ _ _ _ _ := h.lock_back
  hold _ _ _ _ _ _ _ _ := h.hold_back
  freezing _ _ _ _ := h.freeze_back
  clearing _ _ _ _ _ _ _ := h.clearing_back

/-- Of ten units three are locked, two are held and one is reserved. -/
def busySample : Ledger :=
  empty
    |> Act.after (.issue (.ofLow 7) .default 10)
    |> Act.after (.lock (.ofLow 7) .default 3 100)
    |> Act.after (.createHold (.ofLow 7) .default 2 (.ofLow 9) none 200)
    |> Act.after (.createClearing (.ofLow 7) (.ofLow 8) .default 1 300)

/-- All that is available is encumbered in each of the four ways and set free again. -/
theorem busy_sample_restored :
    (∃ l₁, Ledger.lock (.ofLow 7) .default 4 500 busySample = .ok 2 l₁ ∧
      busySample.SameStanding l₁ ∧
      releaseLock 2 500 l₁ = .ok ⟨2, .ofLow 7, .default, 4, 500⟩
        { busySample with lockCounter := 2 }) ∧
    (∃ l₁, createHold (.ofLow 7) .default 4 (.ofLow 9) none 500 busySample = .ok 2 l₁ ∧
      busySample.Freed l₁ (.releaseHold 2) [1, 2, 1] { busySample with holdCounter := 2 }) ∧
    (∃ l₁, freeze (.ofLow 7) .default 4 busySample = .ok () l₁ ∧
      busySample.Freed l₁ (.unfreeze (.ofLow 7) .default) [3, 1] busySample) ∧
    ∃ l₁, createClearing (.ofLow 7) (.ofLow 8) .default 4 500 busySample = .ok 2 l₁ ∧
      cancelClearing 2 l₁ = .ok ⟨2, .ofLow 7, .ofLow 8, .default, 4, 500⟩
        { busySample with clearingCounter := 2 } := by
  have hconsistent : busySample.Consistent :=
    (((consistent_empty.after _).after _).after _).after _
  obtain ⟨hlock, hhold, hfreeze, hclearing⟩ := hconsistent.reversible
  have hlocked : Ledger.lock (.ofLow 7) .default 4 500 busySample =
      .ok 2 ((Act.lock (.ofLow 7) .default 4 500).after busySample) := rfl
  have hheld : createHold (.ofLow 7) .default 4 (.ofLow 9) none 500 busySample =
      .ok 2 ((Act.createHold (.ofLow 7) .default 4 (.ofLow 9) none 500).after busySample) := rfl
  have hfrozen : freeze (.ofLow 7) .default 4 busySample =
      .ok () ((Act.freeze (.ofLow 7) .default 4).after busySample) := rfl
  have hreserved : createClearing (.ofLow 7) (.ofLow 8) .default 4 500 busySample =
      .ok 2 ((Act.createClearing (.ofLow 7) (.ofLow 8) .default 4 500).after busySample) := rfl
  obtain ⟨-, hstanding, hreleased⟩ := hlock _ _ _ _ _ _ hlocked
  exact ⟨⟨_, hlocked, hstanding, hreleased 500 (by decide)⟩,
    ⟨_, hheld, (hhold _ _ _ _ _ _ _ _ hheld).2.2 [1, 2, 1] rfl⟩,
    ⟨_, hfrozen, (hfreeze _ _ _ _ hfrozen).2 [3, 1] rfl⟩,
    ⟨_, hreserved, (hclearing _ _ _ _ _ _ _ hreserved).2.2⟩⟩

end Ledger

end CouponBond
