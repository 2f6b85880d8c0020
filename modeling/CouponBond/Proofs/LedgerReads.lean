import CouponBond.Ledger.Audit
import CouponBond.Ledger.Mutation
import CouponBond.Proofs.BalanceArithmetic

/-!
# Reading a ledger that was written to

A mutation writes rows (`Ledger.withRow`) and supplies (`Ledger.withSupply`).  What the reads
of the ledger answer afterwards is said here once, so that no later proof opens a book.

## Main Definitions

* `Ledger.wealthOf` — what a holder owns over all partitions, not cut off

## Main Results

* `Ledger.balanceOf_withRow`, `Ledger.bookSum_withRow` — the rows after a write
* `Ledger.mem_holders_withRow`, `Ledger.mem_allHolders_withRow` — the registry after a write
* `Ledger.holdingOf_eq_zero_iff` — a holding is zero when nothing is owned in any partition
-/

namespace CouponBond

/-! ### Rosters of a registry -/

namespace Registry

open Roster

/-- A reconciled roster has the holder entered or removed; the others are as they were. -/
theorem members_reconcilePartition (rosters : SortedMap Partition Roster) (holder : Address)
    (partition : Partition) (owns : Bool) (q : Partition) :
    (((reconcilePartition rosters holder partition owns).get? q).getD .empty).members =
      if q = partition then
        if owns then (((rosters.get? partition).getD .empty).insert holder).members
        else ((rosters.get? partition).getD .empty).members.erase holder
      else ((rosters.get? q).getD .empty).members := by
  unfold reconcilePartition
  by_cases hq : q = partition
  · subst hq
    rw [if_pos rfl]
    cases owns with
    | true =>
      simp only [if_true, SortedMap.get?_insert, Option.getD_some]
    | false =>
      cases hold : rosters.get? q with
      | none => simp [hold]
      | some roster =>
        simp only [Bool.false_eq_true, if_false, Option.getD_some]
        split
        · next hsize =>
          -- a roster that loses its last holder is dropped, which reads as an empty one
          have hnil : (roster.erase holder).members = [] :=
            List.eq_nil_of_length_eq_zero (by rw [← size_eq_length]; exact hsize)
          rw [SortedMap.get?_erase, if_pos rfl, ← members_erase, hnil]
          rfl
        · rw [SortedMap.get?_insert, if_pos rfl, Option.getD_some, members_erase]
  · have hne : ¬ rank q = rank partition := fun e => hq (rank_injective e)
    rw [if_neg hq]
    cases owns with
    | true => simp only [if_true, SortedMap.get?_insert, if_neg hne]
    | false =>
      cases hold : rosters.get? partition with
      | none => rfl
      | some roster =>
        simp only [Bool.false_eq_true, if_false]
        split
        · rw [SortedMap.get?_erase, if_neg hne]
        · rw [SortedMap.get?_insert, if_neg hne]

theorem mem_insert_iff {r : Roster} {a b : Address} :
    a ∈ (r.insert b).members ↔ a = b ∨ a ∈ r.members := by
  rw [members_insert]
  split
  · next hmem => exact ⟨.inr, fun h => h.elim (fun e => e ▸ hmem) id⟩
  · simp [or_comm]

theorem mem_erase_iff {r : Roster} {a b : Address} :
    a ∈ r.members.erase b ↔ a ≠ b ∧ a ∈ r.members := r.nodup_members.mem_erase_iff

/-- Reconciled, the roster of the partition lists the holder if units are owned there. -/
theorem mem_holders_reconcile (r : Registry) (holder : Address) (partition : Partition)
    (partitionTotal overallTotal : Amount) (a : Address) (q : Partition) :
    a ∈ (r.reconcile holder partition partitionTotal overallTotal).holders q ↔
      if a = holder ∧ q = partition then partitionTotal ≠ 0 else a ∈ r.holders q := by
  show a ∈ (((reconcilePartition _ _ _ _).get? q).getD .empty).members ↔ _
  rw [members_reconcilePartition]
  by_cases hq : q = partition
  · subst hq
    rw [if_pos rfl]
    by_cases htotal : partitionTotal = 0
    · simp only [htotal, bne_self_eq_false, Bool.false_eq_true, if_false, mem_erase_iff]
      by_cases ha : a = holder
      · simp [ha]
      · simp [ha, holders, roster]
    · have hne : (partitionTotal != 0) = true := bne_iff_ne.mpr htotal
      simp only [hne, if_true, mem_insert_iff]
      by_cases ha : a = holder
      · simp [ha, htotal]
      · simp [ha, holders, roster]
  · simp [hq, holders, roster]

/-- Reconciled, the roster of the bond lists the holder if units are owned at all. -/
theorem mem_allHolders_reconcile (r : Registry) (holder : Address) (partition : Partition)
    (partitionTotal overallTotal : Amount) (a : Address) :
    a ∈ (r.reconcile holder partition partitionTotal overallTotal).allHolders ↔
      if a = holder then overallTotal ≠ 0 else a ∈ r.allHolders := by
  unfold reconcile allHolders
  by_cases htotal : overallTotal = 0
  · simp only [htotal, if_true, members_erase, mem_erase_iff]
    by_cases ha : a = holder <;> simp [ha]
  · simp only [htotal, if_false, mem_insert_iff]
    by_cases ha : a = holder <;> simp [ha, htotal]

end Registry

/-! ### Rows of a book -/

namespace Book

variable (b : Book) (holder : Address) (balance : Balance)

theorem balanceOf_withRow (a : Address) :
    (b.withRow holder balance).balanceOf a = if a = holder then balance else b.balanceOf a := by
  unfold withRow balanceOf
  by_cases hzero : balance = .zero
  · by_cases ha : a = holder
    · simp [hzero, ha, SortedMap.get?_erase]
    · simp [hzero, ha, SortedMap.get?_erase, rank_inj]
  · by_cases ha : a = holder
    · simp [hzero, ha, SortedMap.get?_insert]
    · simp [hzero, ha, SortedMap.get?_insert, rank_inj]

/-- A write exchanges the figure of the replaced row for that of the new one. -/
theorem sumOf_withRow (figure : Balance → Nat) (hzero : figure .zero = 0) :
    (b.withRow holder balance).balances.sumOf figure + figure (b.balanceOf holder) =
      b.balances.sumOf figure + figure balance := by
  have hold : figure (b.balanceOf holder) = (b.balances.get? holder).elim 0 figure := by
    unfold balanceOf
    cases b.balances.get? holder with
    | none => exact hzero
    | some _ => rfl
  rw [hold]
  unfold withRow
  split
  · next h =>
    rw [h, hzero]
    exact b.balances.sumOf_erase figure holder
  · exact b.balances.sumOf_insert figure holder balance

end Book

/-! ### Reads after a write -/

namespace Ledger

variable (l : Ledger) (holder : Address) (partition : Partition) (balance : Balance)

theorem book_withRow (q : Partition) :
    (l.withRow holder partition balance).book q =
      if q = partition then (l.book partition).withRow holder balance else l.book q := by
  show ((l.books.insert partition _).get? q).getD .empty = _
  by_cases hq : q = partition
  · simp [hq, SortedMap.get?_insert]
  · simp [hq, SortedMap.get?_insert, rank_inj, book]

theorem book_withSupply (supply : Amount) (q : Partition) :
    (l.withSupply partition supply).book q =
      if q = partition then { l.book partition with totalSupply := supply } else l.book q := by
  show ((l.books.insert partition _).get? q).getD .empty = _
  by_cases hq : q = partition
  · simp [hq, SortedMap.get?_insert]
  · simp [hq, SortedMap.get?_insert, rank_inj, book]

theorem balanceOf_withRow (a : Address) (q : Partition) :
    (l.withRow holder partition balance).balanceOf a q =
      if a = holder ∧ q = partition then balance else l.balanceOf a q := by
  unfold balanceOf
  rw [book_withRow]
  by_cases hq : q = partition
  · subst hq
    simp [Book.balanceOf_withRow]
  · simp [hq]

theorem balanceOf_withSupply (supply : Amount) (a : Address) (q : Partition) :
    (l.withSupply partition supply).balanceOf a q = l.balanceOf a q := by
  unfold balanceOf
  rw [book_withSupply]
  by_cases hq : q = partition
  · subst hq
    simp [Book.balanceOf]
  · simp [hq]

/-- A write touches one row. -/
theorem get?_balances_withRow_of_ne {a : Address} {q : Partition}
    (hrow : ¬ (a = holder ∧ q = partition)) :
    ((l.withRow holder partition balance).book q).balances.get? a =
      (l.book q).balances.get? a := by
  rw [book_withRow]
  split
  · next hq =>
    have ha : ¬ rank a = rank holder := fun e => hrow ⟨rank_injective e, hq⟩
    rw [hq, Book.withRow]
    split
    · rw [SortedMap.get?_erase, if_neg ha]
    · rw [SortedMap.get?_insert, if_neg ha]
  · rfl

theorem totalSupply_withRow (q : Partition) :
    (l.withRow holder partition balance).totalSupply q = l.totalSupply q := by
  unfold totalSupply
  rw [book_withRow]
  by_cases hq : q = partition
  · subst hq
    simp [Book.withRow]
  · simp [hq]

theorem totalSupply_withSupply (supply : Amount) (q : Partition) :
    (l.withSupply partition supply).totalSupply q =
      if q = partition then supply else l.totalSupply q := by
  unfold totalSupply
  rw [book_withSupply]
  by_cases hq : q = partition
  · simp [hq]
  · simp [hq]

/-- A figure of the books that is zero for an empty book follows the exchange of one book. -/
theorem sumOf_insert_book (figure : Book → Nat) (hzero : figure .empty = 0) (b : Book) :
    (l.books.insert partition b).sumOf figure + figure (l.book partition) =
      l.books.sumOf figure + figure b := by
  rw [← l.books.sumOf_insert figure partition b]
  unfold book
  cases l.books.get? partition with
  | none =>
    rw [Option.getD_none, Option.elim_none]
    exact congrArg _ hzero
  | some _ => rfl

theorem totalSupplyAll_withRow :
    (l.withRow holder partition balance).totalSupplyAll = l.totalSupplyAll := by
  have h := l.sumOf_insert_book partition (fun b => b.totalSupply.toNat) rfl
    ((l.book partition).withRow holder balance)
  exact Nat.add_right_cancel h

theorem totalSupplyAll_withSupply (supply : Amount) :
    (l.withSupply partition supply).totalSupplyAll + (l.totalSupply partition).toNat =
      l.totalSupplyAll + supply.toNat :=
  l.sumOf_insert_book partition (fun b => b.totalSupply.toNat) rfl
    { l.book partition with totalSupply := supply }

/-- A write exchanges the replaced row for the new one in what the holders of a book own. -/
theorem bookSum_withRow (q : Partition) :
    bookSum ((l.withRow holder partition balance).book q) +
        (if q = partition then (l.balanceOf holder partition).sum else 0) =
      bookSum (l.book q) + if q = partition then balance.sum else 0 := by
  rw [book_withRow]
  by_cases hq : q = partition
  · subst hq
    rw [if_pos rfl, if_pos rfl, if_pos rfl]
    exact (l.book q).sumOf_withRow holder balance Balance.sum rfl
  · rw [if_neg hq, if_neg hq, if_neg hq]

theorem bookSum_withSupply (supply : Amount) (q : Partition) :
    bookSum ((l.withSupply partition supply).book q) = bookSum (l.book q) := by
  rw [book_withSupply]
  by_cases hq : q = partition
  · subst hq
    rw [if_pos rfl]
    rfl
  · rw [if_neg hq]

/-! ### Holdings -/

/-- What a holder owns over all partitions. -/
def wealthOf (a : Address) : Nat := l.books.sumOf fun b => (b.balanceOf a).total.toNat

/-- A sum that is cut off at every step is the sum of the entries, cut off once. -/
theorem toNat_foldl_addCapped {V : Type} (amount : V → Amount) (entries : List (Partition × V))
    (start : Amount) :
    (((entries.map (·.2)).map amount).foldl Unsigned.addCapped start).toNat =
      min (start.toNat + SortedMap.sumEntries (fun v => (amount v).toNat) entries)
        Unsigned.greatest.toNat := by
  induction entries generalizing start with
  | nil =>
    have := Unsigned.toNat_le_greatest start
    simp only [List.map_nil, List.foldl_nil, SortedMap.sumEntries]
    omega
  | cons hd tl ih =>
    rw [List.map_cons, List.map_cons, List.foldl_cons, ih, Unsigned.toNat_addCapped,
      SortedMap.sumEntries]
    omega

/-- A holding is what the holder owns, cut off at the largest amount. -/
theorem toNat_holdingOf (a : Address) :
    (l.holdingOf a).toNat = min (l.wealthOf a) Unsigned.greatest.toNat := by
  have hsum := toNat_foldl_addCapped (fun b : Book => (b.balanceOf a).total) l.books.entries 0
  rw [UInt64.toNat_zero, Nat.zero_add] at hsum
  exact hsum

theorem wealthOf_withRow (a : Address) :
    (l.withRow holder partition balance).wealthOf a + (l.totalBalanceOf a partition).toNat =
      l.wealthOf a +
        (if a = holder then balance.total else l.totalBalanceOf a partition).toNat := by
  have h := l.sumOf_insert_book partition (fun b => (b.balanceOf a).total.toNat) rfl
    ((l.book partition).withRow holder balance)
  simp only [Book.balanceOf_withRow] at h
  by_cases ha : a = holder
  · rw [if_pos ha] at h ⊢
    exact h
  · rw [if_neg ha] at h ⊢
    exact h

theorem holdingOf_withRow_of_ne {a : Address} (ha : a ≠ holder) :
    (l.withRow holder partition balance).holdingOf a = l.holdingOf a := by
  have h := l.wealthOf_withRow holder partition balance a
  rw [if_neg ha] at h
  rw [← UInt64.toNat_inj, toNat_holdingOf, toNat_holdingOf, Nat.add_right_cancel h]

theorem holdingOf_withSupply (supply : Amount) (a : Address) :
    (l.withSupply partition supply).holdingOf a = l.holdingOf a := by
  have h : (l.withSupply partition supply).wealthOf a = l.wealthOf a :=
    Nat.add_right_cancel (l.sumOf_insert_book partition (fun b => (b.balanceOf a).total.toNat) rfl
      { l.book partition with totalSupply := supply })
  rw [← UInt64.toNat_inj, toNat_holdingOf, toNat_holdingOf, h]

/-- Nothing is held over all partitions exactly when nothing is owned in any of them. -/
theorem holdingOf_eq_zero_iff {l : Ledger} {a : Address} :
    l.holdingOf a = 0 ↔ ∀ q, l.totalBalanceOf a q = 0 := by
  have hsum : ∀ entries : List (Partition × Book),
      SortedMap.sumEntries (fun b : Book => (b.balanceOf a).total.toNat) entries = 0 ↔
        ∀ e ∈ entries, (e.2.balanceOf a).total = 0 := by
    intro entries
    induction entries with
    | nil => simp [SortedMap.sumEntries]
    | cons hd tl ih =>
      simp only [SortedMap.sumEntries, Nat.add_eq_zero_iff, ih, List.forall_mem_cons,
        ← UInt64.toNat_inj, UInt64.toNat_zero]
  -- cutting off at the largest amount does not make anything zero
  have hwealth : l.holdingOf a = 0 ↔ l.wealthOf a = 0 := by
    rw [← UInt64.toNat_inj, toNat_holdingOf, UInt64.toNat_zero, Unsigned.toNat_greatest,
      UInt64.size]
    omega
  rw [hwealth, wealthOf, SortedMap.sumOf, hsum]
  exact SortedMap.forall_mem_entries_iff_getD
    (Q := fun _ (b : Book) => (b.balanceOf a).total = 0) fun _ => rfl

/-! ### The registry -/

theorem mem_holders_withRow (a : Address) (q : Partition) :
    a ∈ (l.withRow holder partition balance).registry.holders q ↔
      if a = holder ∧ q = partition then balance.total ≠ 0 else a ∈ l.registry.holders q :=
  l.registry.mem_holders_reconcile holder partition _ _ a q

theorem mem_allHolders_withRow (a : Address) :
    a ∈ (l.withRow holder partition balance).registry.allHolders ↔
      if a = holder then (l.withRow holder partition balance).holdingOf holder ≠ 0
      else a ∈ l.registry.allHolders :=
  l.registry.mem_allHolders_reconcile holder partition _ _ a

end Ledger

end CouponBond
