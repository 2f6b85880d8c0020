import CouponBond.Proofs.LedgerReads

/-!
# The invariant of the ledger

A consistent ledger accounts for every unit: the rows of a partition add up to its supply,
the records explain the encumbered buckets, and the registry lists exactly the holders.

A mutation that moves units from one row to another passes through a ledger in which the
first row has given them up and the second has not received them yet.  `Ledger.InTransit`
describes that ledger too, with the units that are missing; a ledger is consistent when
nothing is missing.  So every mutation is a chain of the two steps `InTransit.write` and
`InTransit.withSupply`.

## Main Definitions

* `RecordKind.Record`, `Ledger.recordsOf`, `Ledger.withRecords` — the records of a kind
* `Ledger.recorded` — what the records say a bucket should hold
* `Ledger.Consistent` — the invariant
* `Ledger.InTransit` — the invariant with some units of one partition missing
* `Numbered` — records kept under their own numbers, none beyond the counter

## Main Results

* `Ledger.InTransit.write`, `Ledger.InTransit.withSupply` — the two steps of a mutation
* `Ledger.InTransit.sum_add_le` — a row can take what is missing without leaving the range
* `Ledger.Consistent.record_le` — an open record covers no more than is encumbered
* `Ledger.recorded_insert`, `Ledger.recorded_erase`, `Ledger.recorded_replace` — what the records
  say when one of them is added, dropped or replaced

## Design Notes

Locks, holds and clearings obey the same laws.  What is said of their records is said once, of a
kind, and read at the kind where it is used.
-/

namespace CouponBond

/-- Records are kept under their own numbers, which run from 1 to the counter. -/
def Numbered {R : Type} (records : SortedMap UInt64 R) (idOf : R → UInt64)
    (counter : UInt64) : Prop :=
  ∀ key r, records.get? key = some r → key = idOf r ∧ idOf r ≠ 0 ∧ idOf r ≤ counter

/-- The buckets whose units are explained by records. -/
def Bucket.recorded : List Bucket := [.locked, .held, .cleared]

/-! ### Kinds of records -/

namespace RecordKind

/-- The records of a kind. -/
def Record : RecordKind → Type
  | .lock => Lock
  | .hold => Hold
  | .clearing => Clearing

/-- The bucket whose units the records of a kind explain. -/
def bucket : RecordKind → Bucket
  | .lock => .locked
  | .hold => .held
  | .clearing => .cleared

/-- The number that a record bears. -/
def idOf : (kind : RecordKind) → kind.Record → UInt64
  | .lock => Lock.id
  | .hold => Hold.id
  | .clearing => Clearing.id

/-- The holder whose units a record encumbers. -/
def holderOf : (kind : RecordKind) → kind.Record → Address
  | .lock => Lock.holder
  | .hold => Hold.holder
  | .clearing => Clearing.source

/-- The partition in which a record encumbers units. -/
def partitionOf : (kind : RecordKind) → kind.Record → Partition
  | .lock => Lock.partition
  | .hold => Hold.partition
  | .clearing => Clearing.partition

/-- The units that a record encumbers. -/
def amountOf : (kind : RecordKind) → kind.Record → Amount
  | .lock => Lock.amount
  | .hold => Hold.amount
  | .clearing => Clearing.amount

/-- What a record encumbers for a holder in a partition. -/
def share (kind : RecordKind) (holder : Address) (partition : Partition) (r : kind.Record) : Nat :=
  if kind.holderOf r = holder ∧ kind.partitionOf r = partition then (kind.amountOf r).toNat else 0

theorem bucket_mem_recorded (kind : RecordKind) : kind.bucket ∈ Bucket.recorded := by
  cases kind <;> decide

end RecordKind

namespace Ledger

/-- The open records of a kind. -/
def recordsOf (l : Ledger) : (kind : RecordKind) → SortedMap UInt64 kind.Record
  | .lock => l.locks
  | .hold => l.holds
  | .clearing => l.clearings

/-- The number of the last record of a kind. -/
def counterOf (l : Ledger) : RecordKind → UInt64
  | .lock => l.lockCounter
  | .hold => l.holdCounter
  | .clearing => l.clearingCounter

/-- The ledger with another counter and other records of a kind. -/
def withRecords (l : Ledger) :
    (kind : RecordKind) → UInt64 → SortedMap UInt64 kind.Record → Ledger
  | .lock, lockCounter, locks => { l with lockCounter, locks }
  | .hold, holdCounter, holds => { l with holdCounter, holds }
  | .clearing, clearingCounter, clearings => { l with clearingCounter, clearings }

/-- Units that records of one kind encumber for a holder in a partition. -/
def recorded (l : Ledger) (holder : Address) (partition : Partition) : Bucket → Nat
  | .locked => l.locks.sumOf fun r =>
      if r.holder = holder ∧ r.partition = partition then r.amount.toNat else 0
  | .held => l.holds.sumOf fun r =>
      if r.holder = holder ∧ r.partition = partition then r.amount.toNat else 0
  | .cleared => l.clearings.sumOf fun r =>
      if r.source = holder ∧ r.partition = partition then r.amount.toNat else 0
  | _ => 0

/-- The ledger accounts for every unit. -/
structure Consistent (l : Ledger) : Prop where
  /-- In every partition, the holders own the supply. -/
  conserved : ∀ q, bookSum (l.book q) = (l.totalSupply q).toNat
  supply_le : l.totalSupplyAll ≤ Unsigned.greatest.toNat
  /-- The records of a holder in a partition add up to the encumbered buckets. -/
  explained : ∀ a q, ∀ k ∈ Bucket.recorded,
    l.recorded a q k = ((l.balanceOf a q).get k).toNat
  cleared_le : ∀ a q, (l.balanceOf a q).cleared ≤ (l.balanceOf a q).free
  locks_numbered : Numbered l.locks Lock.id l.lockCounter
  holds_numbered : Numbered l.holds Hold.id l.holdCounter
  clearings_numbered : Numbered l.clearings Clearing.id l.clearingCounter
  /-- The registry of a partition lists exactly those who own something there. -/
  mem_holders_iff : ∀ q a, a ∈ l.registry.holders q ↔ l.totalBalanceOf a q ≠ 0
  /-- The registry of the bond lists exactly those who own something. -/
  mem_allHolders_iff : ∀ a, a ∈ l.registry.allHolders ↔ l.holdingOf a ≠ 0

/-- The ledger accounts for every unit but some that are missing in one partition; a negative
number of missing units is a surplus. -/
structure InTransit (l : Ledger) (partition : Partition) (missing : Int) : Prop where
  conserved : ∀ q, (bookSum (l.book q) : Int) + (if q = partition then missing else 0) =
    (l.totalSupply q).toNat
  supply_le : l.totalSupplyAll ≤ Unsigned.greatest.toNat
  explained : ∀ a q, ∀ k ∈ Bucket.recorded,
    l.recorded a q k = ((l.balanceOf a q).get k).toNat
  cleared_le : ∀ a q, (l.balanceOf a q).cleared ≤ (l.balanceOf a q).free
  locks_numbered : Numbered l.locks Lock.id l.lockCounter
  holds_numbered : Numbered l.holds Hold.id l.holdCounter
  clearings_numbered : Numbered l.clearings Clearing.id l.clearingCounter
  mem_holders_iff : ∀ q a, a ∈ l.registry.holders q ↔ l.totalBalanceOf a q ≠ 0
  mem_allHolders_iff : ∀ a, a ∈ l.registry.allHolders ↔ l.holdingOf a ≠ 0

variable {l : Ledger} {partition : Partition} {missing : Int}

section Kind

variable {kind : RecordKind} {counter : UInt64} {records : SortedMap UInt64 kind.Record}

@[simp]
theorem books_withRecords : (l.withRecords kind counter records).books = l.books := by
  cases kind <;> rfl

@[simp]
theorem registry_withRecords : (l.withRecords kind counter records).registry = l.registry := by
  cases kind <;> rfl

@[simp]
theorem recordsOf_withRecords : (l.withRecords kind counter records).recordsOf kind = records := by
  cases kind <;> rfl

@[simp]
theorem counterOf_withRecords : (l.withRecords kind counter records).counterOf kind = counter := by
  cases kind <;> rfl

@[simp]
theorem withRecords_withRecords (counter' : UInt64) (records' : SortedMap UInt64 kind.Record) :
    (l.withRecords kind counter records).withRecords kind counter' records' =
      l.withRecords kind counter' records' := by
  cases kind <;> rfl

@[simp]
theorem recordsOf_withRow (a : Address) (q : Partition) (balance : Balance) :
    (l.withRow a q balance).recordsOf kind = l.recordsOf kind := by
  cases kind <;> rfl

/-- The records of a kind explain its bucket. -/
theorem recorded_bucket (l : Ledger) (kind : RecordKind) (a : Address) (q : Partition) :
    l.recorded a q kind.bucket = (l.recordsOf kind).sumOf (kind.share a q) := by
  cases kind <;> rfl

/-- Other records of a kind say something else of its bucket, and the same of the others. -/
theorem recorded_withRecords (a : Address) (q : Partition) (k : Bucket) :
    (l.withRecords kind counter records).recorded a q k =
      if k = kind.bucket then records.sumOf (kind.share a q) else l.recorded a q k := by
  cases kind <;> cases k <;> rfl

/-- Other records of a kind leave those of the other kinds numbered. -/
theorem numbered_withRecords
    (h : ∀ other, Numbered (l.recordsOf other) other.idOf (l.counterOf other))
    (hrecords : Numbered records kind.idOf counter) (other : RecordKind) :
    Numbered ((l.withRecords kind counter records).recordsOf other) other.idOf
      ((l.withRecords kind counter records).counterOf other) := by
  have hkept := h other
  cases kind <;> cases other <;> first | exact hrecords | exact hkept

end Kind

theorem InTransit.numbered (h : l.InTransit partition missing) (kind : RecordKind) :
    Numbered (l.recordsOf kind) kind.idOf (l.counterOf kind) := by
  cases kind with
  | lock => exact h.locks_numbered
  | hold => exact h.holds_numbered
  | clearing => exact h.clearings_numbered

/-- A ledger is consistent when nothing is missing. -/
theorem consistent_iff_inTransit_zero {q : Partition} : l.Consistent ↔ l.InTransit q 0 := by
  constructor
  · intro h
    refine ⟨fun q => ?_, h.supply_le, h.explained, h.cleared_le, h.locks_numbered,
      h.holds_numbered, h.clearings_numbered, h.mem_holders_iff, h.mem_allHolders_iff⟩
    rw [ite_self, Int.add_zero, h.conserved]
  · intro h
    refine ⟨fun q => ?_, h.supply_le, h.explained, h.cleared_le, h.locks_numbered,
      h.holds_numbered, h.clearings_numbered, h.mem_holders_iff, h.mem_allHolders_iff⟩
    have hq := h.conserved q
    rw [ite_self, Int.add_zero] at hq
    exact Int.ofNat.inj hq

theorem Consistent.numbered (h : l.Consistent) (kind : RecordKind) :
    Numbered (l.recordsOf kind) kind.idOf (l.counterOf kind) :=
  (consistent_iff_inTransit_zero.mp h : l.InTransit .default 0).numbered kind

/-! ### Bounds -/

theorem sum_le_bookSum (b : Book) (a : Address) : (b.balanceOf a).sum ≤ bookSum b := by
  have h := b.sumOf_withRow a .zero Balance.sum rfl
  unfold bookSum
  rw [Balance.sum_zero] at h
  omega

theorem totalSupply_le (l : Ledger) (q : Partition) :
    (l.totalSupply q).toNat ≤ l.totalSupplyAll := by
  have h := l.totalSupplyAll_withSupply q 0
  rw [UInt64.toNat_zero] at h
  omega

/-- A row can take what is missing without leaving the range of an amount. -/
theorem InTransit.sum_add_le (h : l.InTransit partition missing) (a : Address) :
    ((l.balanceOf a partition).sum : Int) + missing ≤ Unsigned.greatest.toNat := by
  have hrow := sum_le_bookSum (l.book partition) a
  have hsupply := l.totalSupply_le partition
  have hconserved := h.conserved partition
  have hfits := h.supply_le
  rw [if_pos rfl] at hconserved
  unfold balanceOf
  omega

theorem Consistent.sum_le (h : l.Consistent) (a : Address) (q : Partition) :
    (l.balanceOf a q).sum ≤ Unsigned.greatest.toNat := by
  have := (consistent_iff_inTransit_zero.mp h : l.InTransit q 0).sum_add_le a
  omega

/-- What is missing can be put into any bucket that counts. -/
theorem InTransit.exists_credit? (h : l.InTransit partition missing) {a : Address}
    {k : Bucket} {u : Amount} (hcounted : k ≠ .cleared) (hunits : (u.toNat : Int) ≤ missing) :
    ∃ balance, (l.balanceOf a partition).credit? k u = some balance := by
  have hrow := h.sum_add_le a
  have hbucket := (l.balanceOf a partition).toNat_get_le_sum hcounted
  refine Balance.exists_credit? ?_
  rw [Unsigned.toNat_greatest, UInt64.size] at hrow
  rw [UInt64.size]
  omega

/-- Units of a bucket that counts can be moved to any other one. -/
theorem Consistent.exists_move? (h : l.Consistent) {a : Address} {q : Partition}
    {s t : Bucket} {u : Amount} (hsource : s ≠ .cleared) (htarget : t ≠ .cleared) (hne : s ≠ t)
    (hunits : u.toNat ≤ ((l.balanceOf a q).get s).toNat) :
    ∃ balance, (l.balanceOf a q).move? s t u = some balance := by
  have hrow := h.sum_le a q
  have hbuckets := (l.balanceOf a q).toNat_get_add_get_le_sum hsource htarget hne
  refine Balance.exists_move? hunits ?_
  rw [Unsigned.toNat_greatest] at hrow
  rw [UInt64.size] at hrow ⊢
  omega

/-- Units that are available are free, and reserving them keeps within the free ones. -/
theorem Consistent.le_of_le_available (h : l.Consistent) {a : Address} {q : Partition}
    {units : Amount} (havailable : units ≤ (l.balanceOf a q).available) :
    ((l.balanceOf a q).get .cleared).toNat + units.toNat ≤
      ((l.balanceOf a q).get .free).toNat := by
  have hcleared := UInt64.le_iff_toNat_le.mp (h.cleared_le a q)
  have hunits := UInt64.le_iff_toNat_le.mp havailable
  rw [Balance.toNat_available] at hunits
  show (l.balanceOf a q).cleared.toNat + _ ≤ (l.balanceOf a q).free.toNat
  omega

/-! ### Open records -/

/-- An open record covers no more than is encumbered. -/
theorem Consistent.record_le (h : l.Consistent) (kind : RecordKind) {id : UInt64}
    {r : kind.Record} (hget : (l.recordsOf kind).get? id = some r) :
    (kind.amountOf r).toNat ≤
      ((l.balanceOf (kind.holderOf r) (kind.partitionOf r)).get kind.bucket).toNat := by
  rw [← h.explained _ _ kind.bucket kind.bucket_mem_recorded, recorded_bucket]
  have hpart := SortedMap.le_sumOf_of_get?
    (kind.share (kind.holderOf r) (kind.partitionOf r)) hget
  rwa [RecordKind.share, if_pos ⟨rfl, rfl⟩] at hpart

/-! ### The steps of a mutation -/

/-- A row is written while records change.  The records have to follow the row, the row must
not reserve more than it has, and what the row counts less is missing afterwards. -/
theorem InTransit.write (h : l.InTransit partition missing) (l₁ : Ledger)
    (hbooks : l₁.books = l.books) (hregistry : l₁.registry = l.registry)
    (hnumbered : ∀ kind, Numbered (l₁.recordsOf kind) kind.idOf (l₁.counterOf kind))
    {holder : Address} {balance : Balance} {missing' : Int}
    (hrecords : ∀ a q, ∀ k ∈ Bucket.recorded,
      l₁.recorded a q k +
          (if a = holder ∧ q = partition then
            ((l.balanceOf holder partition).get k).toNat else 0) =
        l.recorded a q k + if a = holder ∧ q = partition then (balance.get k).toNat else 0)
    (hcleared : balance.cleared ≤ balance.free)
    (hsum : (balance.sum : Int) + missing' = (l.balanceOf holder partition).sum + missing) :
    (l₁.withRow holder partition balance).InTransit partition missing' := by
  -- before the row is written, only records and counters differ
  have hbook : ∀ q, l₁.book q = l.book q := fun q => by rw [book, book, hbooks]
  have hbalance : ∀ a q, l₁.balanceOf a q = l.balanceOf a q := fun a q => by
    rw [balanceOf, balanceOf, hbook]
  have hsupply : ∀ q, l₁.totalSupply q = l.totalSupply q := fun q => by
    rw [totalSupply, totalSupply, hbook]
  have hholding : ∀ a, l₁.holdingOf a = l.holdingOf a := fun a => by
    rw [holdingOf, holdingOf, hbooks]
  refine ⟨fun q => ?_, ?_, fun a q k hk => ?_, fun a q => ?_, hnumbered .lock, hnumbered .hold,
    hnumbered .clearing, fun q a => ?_, fun a => ?_⟩
  · -- the sum over the rows moves by the difference of the two rows
    have hrow := l₁.bookSum_withRow holder partition balance q
    have hconserved := h.conserved q
    rw [hbook, hbalance] at hrow
    rw [totalSupply_withRow, hsupply]
    by_cases hq : q = partition
    · rw [if_pos hq, if_pos hq] at hrow
      rw [if_pos hq] at hconserved ⊢
      omega
    · rw [if_neg hq, if_neg hq] at hrow
      rw [if_neg hq] at hconserved ⊢
      omega
  · rw [totalSupplyAll_withRow, totalSupplyAll, hbooks]
    exact h.supply_le
  · have hold := h.explained a q k hk
    have hnew := hrecords a q k hk
    show l₁.recorded a q k = _
    rw [balanceOf_withRow, hbalance]
    split
    · next heq =>
      obtain ⟨rfl, rfl⟩ := heq
      rw [if_pos ⟨rfl, rfl⟩, if_pos ⟨rfl, rfl⟩] at hnew
      omega
    · next hne =>
      rw [if_neg hne, if_neg hne] at hnew
      omega
  · rw [balanceOf_withRow, hbalance]
    split
    · exact hcleared
    · exact h.cleared_le a q
  · rw [mem_holders_withRow, totalBalanceOf, balanceOf_withRow, hregistry, hbalance]
    split
    · rfl
    · exact h.mem_holders_iff q a
  · rw [mem_allHolders_withRow, hregistry]
    split
    · next ha => rw [ha]
    · next ha =>
      rw [holdingOf_withRow_of_ne _ _ _ _ ha, hholding]
      exact h.mem_allHolders_iff a

/-- A write that leaves all records alone. -/
theorem InTransit.withRow (h : l.InTransit partition missing) {holder : Address}
    {balance : Balance} {missing' : Int}
    (hkept : ∀ k ∈ Bucket.recorded,
      (balance.get k).toNat = ((l.balanceOf holder partition).get k).toNat)
    (hcleared : balance.cleared ≤ balance.free)
    (hsum : (balance.sum : Int) + missing' = (l.balanceOf holder partition).sum + missing) :
    (l.withRow holder partition balance).InTransit partition missing' := by
  refine h.write l rfl rfl h.numbered (fun a q k hk => ?_) hcleared hsum
  rw [hkept k hk]

/-- What a new supply has more than the old one is missing in the rows. -/
theorem InTransit.withSupply (h : l.InTransit partition missing) {supply : Amount}
    {missing' : Int}
    (hall : (l.withSupply partition supply).totalSupplyAll ≤ Unsigned.greatest.toNat)
    (hsupply : (supply.toNat : Int) + missing = (l.totalSupply partition).toNat + missing') :
    (l.withSupply partition supply).InTransit partition missing' := by
  refine ⟨fun q => ?_, hall, fun a q k hk => ?_, fun a q => ?_, h.locks_numbered,
    h.holds_numbered, h.clearings_numbered, fun q a => ?_, fun a => ?_⟩
  · have hconserved := h.conserved q
    rw [bookSum_withSupply, totalSupply_withSupply]
    split at hconserved
    · next hq =>
      rw [if_pos hq, if_pos hq]
      subst hq
      omega
    · next hq =>
      rw [if_neg hq, if_neg hq]
      exact hconserved
  · rw [balanceOf_withSupply]
    exact h.explained a q k hk
  · rw [balanceOf_withSupply]
    exact h.cleared_le a q
  · rw [totalBalanceOf, balanceOf_withSupply]
    exact h.mem_holders_iff q a
  · rw [holdingOf_withSupply]
    exact h.mem_allHolders_iff a

end Ledger

/-! ### Changes of records -/

namespace Numbered

variable {R : Type} {records : SortedMap UInt64 R} {idOf : R → UInt64} {counter : UInt64}

/-- The number behind the counter is free. -/
theorem fresh (h : Numbered records idOf counter) {id : UInt64}
    (hid : counter.toNat < id.toNat) : records.get? id = none := by
  cases hget : records.get? id with
  | none => rfl
  | some r =>
    obtain ⟨hkey, -, hle⟩ := h id r hget
    rw [← hkey] at hle
    exact absurd (UInt64.le_iff_toNat_le.mp hle) (Nat.not_le_of_gt hid)

/-- A record is added under the number behind the counter, and the counter follows. -/
theorem insert (h : Numbered records idOf counter) {id : UInt64} {r : R}
    (hid : counter.toNat < id.toNat) (hr : idOf r = id) :
    Numbered (records.insert id r) idOf id := by
  intro key r' hget
  rw [SortedMap.get?_insert] at hget
  split at hget
  · next hkey =>
    cases hget
    rw [hr]
    refine ⟨rank_injective hkey, fun hzero => ?_, UInt64.le_refl _⟩
    rw [hzero] at hid
    exact absurd hid (Nat.not_lt_zero _)
  · obtain ⟨hkey, hpos, hle⟩ := h key r' hget
    refine ⟨hkey, hpos, ?_⟩
    rw [UInt64.le_iff_toNat_le] at hle ⊢
    omega

/-- A record is replaced by one of the same number. -/
theorem replace (h : Numbered records idOf counter) {id : UInt64} {r r' : R}
    (hget : records.get? id = some r) (hr : idOf r' = idOf r) :
    Numbered (records.insert id r') idOf counter := by
  intro key s hs
  rw [SortedMap.get?_insert] at hs
  split at hs
  · next hkey =>
    cases hs
    rw [rank_injective hkey, hr]
    exact h id r hget
  · exact h key s hs

theorem erase (h : Numbered records idOf counter) (id : UInt64) :
    Numbered (records.erase id) idOf counter := by
  intro key r hget
  rw [SortedMap.get?_erase] at hget
  split at hget
  · cases hget
  · exact h key r hget

end Numbered

namespace Ledger

variable {l : Ledger}

/-- What one record counts for a holder in a partition, asked the other way round. -/
theorem charge_comm (holder a : Address) (partition q : Partition) (units : Nat) :
    (if holder = a ∧ partition = q then units else 0) =
      if a = holder ∧ q = partition then units else 0 := by
  simp only [eq_comm]

section Records

variable (kind : RecordKind) (counter : UInt64) {id : UInt64} {r s : kind.Record}
  {units : Amount}

/-- A new record explains the units that it encumbers. -/
theorem recorded_insert (hfresh : (l.recordsOf kind).get? id = none)
    (a : Address) (q : Partition) (k : Bucket) :
    (l.withRecords kind counter ((l.recordsOf kind).insert id r)).recorded a q k =
      l.recorded a q k +
        if a = kind.holderOf r ∧ q = kind.partitionOf r then
          (if k = kind.bucket then (kind.amountOf r).toNat else 0)
        else 0 := by
  rw [recorded_withRecords, ← charge_comm]
  by_cases hk : k = kind.bucket
  · have h := (l.recordsOf kind).sumOf_insert (kind.share a q) id r
    rw [hfresh] at h
    rw [if_pos hk, if_pos hk, hk, recorded_bucket]
    exact h
  · rw [if_neg hk, if_neg hk, ite_self, Nat.add_zero]

/-- Without a record, the units that it encumbered are not explained any more. -/
theorem recorded_erase (hget : (l.recordsOf kind).get? id = some r)
    (a : Address) (q : Partition) (k : Bucket) :
    (l.withRecords kind counter ((l.recordsOf kind).erase id)).recorded a q k +
        (if a = kind.holderOf r ∧ q = kind.partitionOf r then
          (if k = kind.bucket then (kind.amountOf r).toNat else 0)
        else 0) =
      l.recorded a q k := by
  rw [recorded_withRecords, ← charge_comm]
  by_cases hk : k = kind.bucket
  · have h := (l.recordsOf kind).sumOf_erase (kind.share a q) id
    rw [hget] at h
    rw [if_pos hk, if_pos hk, hk, recorded_bucket]
    exact h
  · rw [if_neg hk, if_neg hk, ite_self, Nat.add_zero]

/-- A record that encumbers some units less explains as many less. -/
theorem recorded_replace (hget : (l.recordsOf kind).get? id = some r)
    (hholder : kind.holderOf s = kind.holderOf r)
    (hpartition : kind.partitionOf s = kind.partitionOf r)
    (hunits : (kind.amountOf s).toNat + units.toNat = (kind.amountOf r).toNat)
    (a : Address) (q : Partition) (k : Bucket) :
    (l.withRecords kind counter ((l.recordsOf kind).insert id s)).recorded a q k +
        (if a = kind.holderOf r ∧ q = kind.partitionOf r then
          (if k = kind.bucket then units.toNat else 0)
        else 0) =
      l.recorded a q k := by
  rw [recorded_withRecords, ← charge_comm]
  by_cases hk : k = kind.bucket
  · have h := (l.recordsOf kind).sumOf_insert (kind.share a q) id s
    have hparts : kind.share a q s + (if kind.holderOf r = a ∧ kind.partitionOf r = q then
        units.toNat else 0) = kind.share a q r := by
      unfold RecordKind.share
      rw [hholder, hpartition]
      split <;> omega
    rw [hget, Option.elim_some] at h
    rw [if_pos hk, if_pos hk, hk, recorded_bucket]
    omega
  · rw [if_neg hk, if_neg hk, ite_self, Nat.add_zero]

end Records

/-- The ledger with what is left of a hold; it is dropped when nothing is left. -/
def withHoldRest (l : Ledger) (id : HoldId) (r : Hold) (rest : Amount) : Ledger :=
  { l with
    holds := if rest = 0 then l.holds.erase id else l.holds.insert id { r with amount := rest } }

theorem recorded_withHoldRest {id : HoldId} {r : Hold} {units rest : Amount}
    (hget : l.holds.get? id = some r) (hrest : rest.toNat + units.toNat = r.amount.toNat)
    (a : Address) (q : Partition) (k : Bucket) :
    (l.withHoldRest id r rest).recorded a q k +
        (if a = r.holder ∧ q = r.partition then (if k = .held then units.toNat else 0) else 0) =
      l.recorded a q k := by
  unfold withHoldRest
  split
  · next hzero =>
    rw [hzero, UInt64.toNat_zero, Nat.zero_add] at hrest
    rw [hrest]
    exact recorded_erase .hold l.holdCounter hget a q k
  · exact recorded_replace .hold l.holdCounter (s := { r with amount := rest }) hget rfl rfl hrest
      a q k

end Ledger

end CouponBond
