import CouponBond.Proofs.LedgerConsistency

/-!
# The arithmetic of the ledger is exact

Only the issue of units compares a sum with the range of an amount.  Every other mutation adds
and subtracts without a look at the range, and the reads of the ledger cut off at the range
without saying so.  Neither of the two ever happens: an account of every unit bounds each bucket
by the supply of the bond, and the records by the buckets.

A mutation that writes two rows has the registry read the ledger in between.  The account is
short of some units there, which bounds the rows just as well, so the reads are exact there too.

## Main Definitions

* `Ledger.Exact` — the reads that cut off at the range of an amount give the exact value
* `Ledger.NumbersLeft` — another record of every kind can be numbered
* `Ledger.WrittenExactly` — some writes lead to a ledger, with exact reads after each row
* `Ledger.RecordsEnd` — every open record can be brought to its end

## Main Results

* `Ledger.InTransit.exact` — the reads are exact, also between two writes
* `Ledger.Act.writtenExactly` — a mutation stays in range, and exact reads lead to its result
* `Ledger.Accounted.arithmetic_exact` — all of it, for the ledgers that mutations reach
-/

namespace CouponBond.Ledger

open AllOrNothing

/-! ### Reads that cut off -/

/-- The reads that cut off at the range of an amount give the exact value. -/
structure Exact (l : Ledger) : Prop where
  total : ∀ a q, (l.totalBalanceOf a q).toNat = (l.balanceOf a q).sum
  available : ∀ a q, (l.balanceOf a q).available.toNat + (l.balanceOf a q).cleared.toNat =
    (l.balanceOf a q).free.toNat
  holding : ∀ a, (l.holdingOf a).toNat = l.books.sumOf fun b => (b.balanceOf a).sum

variable {l : Ledger}

/-- The reads of a ledger that is short of some units are exact: what the rows count is bounded
by the supply, in each partition and over all of them. -/
theorem InTransit.exact {partition : Partition} {missing : Int}
    (h : l.InTransit partition missing) (hshort : 0 ≤ missing) : l.Exact := by
  have hbook : ∀ q, bookSum (l.book q) ≤ (l.totalSupply q).toNat := by
    intro q
    have hconserved := h.conserved q
    split at hconserved <;> omega
  have hrow : ∀ a q, (l.balanceOf a q).sum ≤ (l.totalSupply q).toNat := by
    intro a q
    have := sum_le_bookSum (l.book q) a
    have := hbook q
    unfold balanceOf
    omega
  have htotal : ∀ a q, (l.totalBalanceOf a q).toNat = (l.balanceOf a q).sum := by
    intro a q
    have := hrow a q
    have := l.totalSupply_le q
    have := h.supply_le
    rw [totalBalanceOf, Balance.toNat_total]
    omega
  refine ⟨htotal, fun a q => ?_, fun a => ?_⟩
  · have hcleared := UInt64.le_iff_toNat_le.mp (h.cleared_le a q)
    rw [Balance.toNat_available]
    omega
  · -- the rows of the holder are bounded one by one, so their sum is by the supply of the bond
    have hbooks : ∀ q b, l.books.get? q = some b → l.book q = b := by
      intro q b hget
      rw [book, hget, Option.getD_some]
    have hwealth : l.wealthOf a = l.books.sumOf fun b => (b.balanceOf a).sum := by
      refine SortedMap.sumOf_congr fun q b hget => ?_
      have := htotal a q
      rwa [totalBalanceOf, balanceOf, hbooks q b hget] at this
    have hbound : (l.books.sumOf fun b => (b.balanceOf a).sum) ≤ l.totalSupplyAll := by
      refine SortedMap.sumOf_le_sumOf fun q b hget => ?_
      have := hrow a q
      rwa [totalSupply, balanceOf, hbooks q b hget] at this
    have := h.supply_le
    rw [toNat_holdingOf, hwealth]
    omega

theorem Consistent.exact (h : l.Consistent) : l.Exact :=
  (h.inTransit_zero .default).exact (Int.le_refl 0)

/-! ### Writes -/

/-- Another record of every kind can be numbered. -/
structure NumbersLeft (l : Ledger) : Prop where
  locks : l.lockCounter < Unsigned.greatest
  holds : l.holdCounter < Unsigned.greatest
  clearings : l.clearingCounter < Unsigned.greatest

/-- Some way leads to a ledger by writing records, supplies and rows one after another, the reads
being exact whenever a row was written.  It need not be the way of a mutation with this result:
the ledgers in between are not part of the result, so nothing ties them to it.  The ways that
`Act.writtenExactly` shows write the rows that the specification of the mutation names. -/
inductive WrittenExactly (l : Ledger) : Ledger → Prop where
  | unchanged : WrittenExactly l l
  | records {l₁ l₂ : Ledger} (before : WrittenExactly l l₁) (books : l₂.books = l₁.books)
      (registry : l₂.registry = l₁.registry) : WrittenExactly l l₂
  | supply {l₁ : Ledger} {partition : Partition} {supply : Amount}
      (before : WrittenExactly l l₁) : WrittenExactly l (l₁.withSupply partition supply)
  | row {l₁ : Ledger} {holder : Address} {partition : Partition} {balance : Balance}
      (before : WrittenExactly l l₁) (exact : (l₁.withRow holder partition balance).Exact) :
      WrittenExactly l (l₁.withRow holder partition balance)

/-- What is said of a mutation holds of the act, whose result is known to be consistent. -/
theorem writtenExactly_forget (h : l.Consistent) {α : Type} {m : Mutation α}
    {E : LedgerError → Prop} {Q : α → Ledger → Prop} (act : Act) (hact : act.mutation = forget m)
    (hspec : AllOrNothing m l E Q) (hE : ∀ e, E e → e ≠ .outOfRange)
    (hQ : ∀ a l', Q a l' → l'.Consistent → l.WrittenExactly l') :
    AllOrNothing act.mutation l (· ≠ .outOfRange) fun _ l' => l.WrittenExactly l' := by
  rw [hact]
  cases hm : m l with
  | ok a l' =>
    exact .ok (bind_ok hm) (hQ a l' (hspec.of_ok hm) (h.of_ok act hact hm))
  | error e l' =>
    obtain ⟨rfl, he⟩ := hspec.of_error hm
    exact .refuse (bind_error hm) (hE e he)

/-- As long as records can be numbered, no sum and no difference of a mutation leaves the range
of an amount, and its result is reached by writes with exact reads after every row. -/
theorem Act.writtenExactly (h : l.Consistent) (hnumbers : l.NumbersLeft) (act : Act) :
    AllOrNothing act.mutation l (· ≠ .outOfRange) fun _ l' => l.WrittenExactly l' := by
  cases act with
  | issue holder partition amount =>
    refine writtenExactly_forget h _ rfl (issue_spec h holder partition amount)
      (fun _ he => he) fun _ l' hl' hdone => ?_
    obtain ⟨-, rfl⟩ | ⟨-, supply, balance, -, -, -, rfl⟩ := hl'
    · exact .unchanged
    · exact .row (.supply .unchanged) hdone.exact
  | transfer source destination partition amount =>
    refine writtenExactly_forget h _ rfl (transfer_spec h source destination partition amount)
      (fun _ he => he) fun _ l' hl' hdone => ?_
    obtain ⟨havailable, ⟨-, rfl⟩ | ⟨-, -, sender, receiver, hsender, -, rfl⟩⟩ := hl'
    · exact .unchanged
    · have htransit := (h.inTransit_zero partition).spend (h.le_of_le_available havailable) hsender
      exact .row (.row .unchanged (htransit.exact (by omega))) hdone.exact
  | redeem holder partition amount =>
    refine writtenExactly_forget h _ rfl (redeem_spec h holder partition amount)
      (fun e he => ?_) fun _ l' hl' hdone => ?_
    · rw [he.2]
      exact nofun
    obtain ⟨-, ⟨-, rfl⟩ | ⟨-, supply, balance, -, -, rfl⟩⟩ := hl'
    · exact .unchanged
    · exact .row (.supply .unchanged) hdone.exact
  | lock holder partition amount expiration =>
    refine writtenExactly_forget h _ rfl (lock_spec h holder partition amount expiration)
      (fun e he hout => ?_) fun id l' hl' hdone => ?_
    · exact UInt64.ne_of_lt hnumbers.locks (he hout)
    obtain ⟨-, -, balance, -, -, rfl⟩ := hl'
    exact .row (.records .unchanged rfl rfl) hdone.exact
  | releaseLock id now =>
    refine writtenExactly_forget h _ rfl (releaseLock_spec h id now) (fun e he => he.1)
      fun record l' hl' hdone => ?_
    obtain ⟨-, -, balance, -, rfl⟩ := hl'
    exact .row (.records .unchanged rfl rfl) hdone.exact
  | createHold holder partition amount escrow destination expiration =>
    refine writtenExactly_forget h _ rfl
      (createHold_spec h holder partition amount escrow destination expiration)
      (fun e he hout => ?_) fun id l' hl' hdone => ?_
    · exact UInt64.ne_of_lt hnumbers.holds (he hout)
    obtain ⟨-, -, balance, -, -, rfl⟩ := hl'
    exact .row (.records .unchanged rfl rfl) hdone.exact
  | executeHold id destination amount now =>
    refine writtenExactly_forget h _ rfl (executeHold_spec h id destination amount now)
      (fun e he => he.1) fun _ l' hl' hdone => ?_
    obtain ⟨record, hrecord, -, -, -, -, sender, receiver, rest, hsender, -, hrest, rfl⟩ := hl'
    have htransit := h.payOut hrecord hrest hsender
    exact .row (.row (.records .unchanged rfl rfl) (htransit.exact (by omega))) hdone.exact
  | releaseHold id amount =>
    refine writtenExactly_forget h _ rfl (releaseHold_spec h id amount) (fun e he => he.1)
      fun _ l' hl' hdone => ?_
    obtain ⟨record, -, -, -, balance, rest, -, -, rfl⟩ := hl'
    exact .row (.records .unchanged rfl rfl) hdone.exact
  | freeze holder partition amount =>
    refine writtenExactly_forget h _ rfl (freeze_spec h holder partition amount)
      (fun _ he => he) fun _ l' hl' hdone => ?_
    obtain ⟨-, -, balance, -, rfl⟩ := hl'
    exact .row .unchanged hdone.exact
  | unfreeze holder partition amount =>
    refine writtenExactly_forget h _ rfl (unfreeze_spec h holder partition amount)
      (fun _ he => he.1) fun _ l' hl' hdone => ?_
    obtain ⟨-, -, balance, -, rfl⟩ := hl'
    exact .row .unchanged hdone.exact
  | createClearing source destination partition amount expiration =>
    refine writtenExactly_forget h _ rfl
      (createClearing_spec h source destination partition amount expiration)
      (fun e he hout => ?_) fun id l' hl' hdone => ?_
    · exact UInt64.ne_of_lt hnumbers.clearings (he hout)
    obtain ⟨-, -, balance, -, -, rfl⟩ := hl'
    exact .row (.records .unchanged rfl rfl) hdone.exact
  | approveClearing id now =>
    refine writtenExactly_forget h _ rfl (approveClearing_spec h id now) (fun e he => he.1)
      fun record l' hl' hdone => ?_
    obtain ⟨hrecord, -, reserved, sender, receiver, hreserved, hsender, -, rfl⟩ := hl'
    have htransit := h.settle hrecord hreserved hsender
    exact .row (.row (.records .unchanged rfl rfl) (htransit.exact (by omega))) hdone.exact
  | cancelClearing id =>
    refine writtenExactly_forget h _ rfl (cancelClearing_spec h id) (fun e he => he.1)
      fun record l' hl' hdone => ?_
    obtain ⟨-, balance, -, rfl⟩ := hl'
    exact .row (.records .unchanged rfl rfl) hdone.exact

/-! ### Open records -/

/-- Every open record can be brought to its end: an expired lock is released, a clearing is
approved in time or cancelled, and any part of a hold is released or, in time, paid out to a
destination that it admits. -/
structure RecordsEnd (l : Ledger) : Prop where
  releaseLock : ∀ id record now, l.locks.get? id = some record → record.expiration ≤ now →
    ∃ l', Ledger.releaseLock id now l = .ok record l'
  approveClearing : ∀ id record now, l.clearings.get? id = some record →
    now < record.expiration → ∃ l', Ledger.approveClearing id now l = .ok record l'
  cancelClearing : ∀ id record, l.clearings.get? id = some record →
    ∃ l', Ledger.cancelClearing id l = .ok record l'
  releaseHold : ∀ id record amount, l.Covers id amount record →
    ∃ l', Ledger.releaseHold id amount l = .ok () l'
  executeHold : ∀ id record amount destination now, l.Covers id amount record →
    now < record.expiration →
    (∀ expected, record.destination = some expected → expected = destination) →
    ∃ l', Ledger.executeHold id destination amount now l = .ok () l'

theorem Consistent.recordsEnd (h : l.Consistent) : l.RecordsEnd where
  releaseLock id record now hrecord hexpired := by
    obtain ⟨answer, l', hdone, hfound, -⟩ := (releaseLock_spec h id now).exists_ok fun e he =>
      absurd hexpired (UInt64.not_le.mpr (he.2 record hrecord))
    cases hrecord.symm.trans hfound
    exact ⟨l', hdone⟩
  approveClearing id record now hrecord hopen := by
    obtain ⟨answer, l', hdone, hfound, -⟩ := (approveClearing_spec h id now).exists_ok fun e he =>
      absurd hopen (UInt64.not_lt.mpr (he.2 record hrecord))
    cases hrecord.symm.trans hfound
    exact ⟨l', hdone⟩
  cancelClearing id record hrecord := by
    obtain ⟨answer, l', hdone, hfound, -⟩ := (cancelClearing_spec h id).exists_ok fun e he =>
      nomatch hrecord.symm.trans he.2
    cases hrecord.symm.trans hfound
    exact ⟨l', hdone⟩
  releaseHold id record amount hcovers := by
    obtain ⟨_, l', hdone, -⟩ := (releaseHold_spec h id amount).exists_ok fun e he =>
      he.2 record hcovers
    exact ⟨l', hdone⟩
  executeHold id record amount destination now hcovers hopen hadmits := by
    obtain ⟨_, l', hdone, -⟩ :=
      (executeHold_spec h id destination amount now).exists_ok fun e he => by
        obtain ⟨expected, hexpected, hne⟩ := he.2 record hcovers hopen
        exact hne (hadmits expected hexpected)
    exact ⟨l', hdone⟩

/-! ### All ledgers that mutations reach -/

/-- In a ledger that mutations reach from the empty one or from one that the audits accept, the
reads are exact and every open record can be brought to its end.  As long as records can be
numbered, no mutation is refused for its arithmetic, and writes with exact reads lead to what it
leaves. -/
theorem Accounted.arithmetic_exact (h : Accounted l) :
    l.Exact ∧ l.RecordsEnd ∧
      (l.NumbersLeft → ∀ act : Act,
        AllOrNothing act.mutation l (· ≠ .outOfRange) fun _ l' => l.WrittenExactly l') :=
  ⟨h.consistent.exact, h.consistent.recordsEnd, fun hnumbers act =>
    act.writtenExactly h.consistent hnumbers⟩

/-- Of ten units four are locked, three are held and two are reserved, and the last one is paid
to a third party. -/
def encumberedSample : Ledger :=
  empty
    |> Act.after (.issue (.ofLow 7) .default 10)
    |> Act.after (.lock (.ofLow 7) .default 4 100)
    |> Act.after (.createHold (.ofLow 7) .default 3 (.ofLow 9) none 200)
    |> Act.after (.createClearing (.ofLow 7) (.ofLow 8) .default 2 300)
    |> Act.after (.transfer (.ofLow 7) (.ofLow 8) .default 1)

/-- Nothing is available to the holder any more, but the lock comes free when it has expired, the
reserved units are delivered in time, and two of the held ones are paid out.  An issue that would
fill the range of an amount is refused, and not for its arithmetic. -/
theorem encumbered_sample_ends :
    (∃ l', releaseLock 1 100 encumberedSample = .ok ⟨1, .ofLow 7, .default, 4, 100⟩ l') ∧
      (∃ l', approveClearing 1 299 encumberedSample =
        .ok ⟨1, .ofLow 7, .ofLow 8, .default, 2, 300⟩ l') ∧
      (∃ l', executeHold 1 (.ofLow 5) 2 199 encumberedSample = .ok () l') ∧
      AllOrNothing (Act.issue (.ofLow 7) .default Unsigned.greatest).mutation encumberedSample
        (· ≠ .outOfRange) fun _ l' => encumberedSample.WrittenExactly l' := by
  have haccounted : Accounted encumberedSample :=
    .after _ (.after _ (.after _ (.after _ (.after _ .empty))))
  have hlocks : encumberedSample.locks.get? 1 = some ⟨1, .ofLow 7, .default, 4, 100⟩ := by decide
  have hclearings : encumberedSample.clearings.get? 1 =
      some ⟨1, .ofLow 7, .ofLow 8, .default, 2, 300⟩ := by decide
  have hcovers : encumberedSample.Covers 1 2
      ⟨1, .ofLow 7, .default, 3, .ofLow 9, none, 200⟩ := by
    unfold Covers
    decide
  have hnumbers : encumberedSample.NumbersLeft := ⟨by decide, by decide, by decide⟩
  obtain ⟨-, hends, hacts⟩ := haccounted.arithmetic_exact
  refine ⟨hends.releaseLock _ _ _ hlocks (by decide), ?_, ?_, hacts hnumbers _⟩
  · exact hends.approveClearing _ _ _ hclearings (by decide)
  · exact hends.executeHold _ _ _ _ _ hcovers (by decide) nofun

end CouponBond.Ledger
