import CouponBond.Proofs.RecordDateTriggers

/-!
# Accounts and partitions on record

A command that names the zero address is refused, and so is one that names a partition which the
bond does not have.  But not every command names what it works on: one that draws on a lock, a
hold or a clearing finds the parties and the partition in the record, full redemption finds its
partitions in the books, and a snapshot is taken of whatever the registry lists.  These get no
further check.  They need none: what is on record came through the checks, or from other records.

Which accounts and which partitions are let through does not matter for the argument, so it is
made for accounts of any kind `A` and partitions of any kind `P`.

## Main Definitions

* `SortedMap.Every` — a map all of whose entries are of one kind
* `Registry.NamesOnly`, `Hold.NamesOnly`, `Ledger.NamesOnly`, `Holdings.NamesOnly`,
  `Bond.NamesOnly` — nothing is on record but accounts and partitions of the two kinds
* `Bond.LetsThrough` — what passes the checks of a command is of the two kinds

## Main Results

* `Ledger.NamesOnly.withRow` — writing a row
* `Bond.Performed.namesOnly` — a command leaves nothing on record but what passed its checks or
  was on record before
* `Session.names_on_record` — after any history
-/

namespace CouponBond

/-! ### Maps -/

namespace SortedMap

variable {K V : Type} [Ranked K] {Q : K → V → Prop} {m : SortedMap K V}

/-- Every entry of a map is of one kind. -/
def Every (Q : K → V → Prop) (m : SortedMap K V) : Prop :=
  ∀ k v, m.get? k = some v → Q k v

theorem every_empty : (empty : SortedMap K V).Every Q := nofun

theorem Every.insert (h : m.Every Q) {k : K} {v : V} (hnew : Q k v) :
    (m.insert k v).Every Q := by
  intro k' v' hv'
  rw [get?_insert] at hv'
  split at hv'
  · next hk =>
    cases hv'
    exact rank_injective hk ▸ hnew
  · exact h k' v' hv'

theorem Every.erase (h : m.Every Q) (k : K) : (m.erase k).Every Q := by
  intro k' v' hv'
  rw [get?_erase] at hv'
  split at hv'
  · cases hv'
  · exact h k' v' hv'

/-- The table of a function over a list has entries for the members of the list. -/
theorem every_ofList_map [DecidableEq K] {f : K → V} {keys : List K}
    (h : ∀ k ∈ keys, Q k (f k)) : (ofList (keys.map fun k => (k, f k))).Every Q := by
  intro k v hv
  rw [get?_ofList_map] at hv
  split at hv
  · next hk =>
    cases hv
    exact h k hk
  · cases hv

end SortedMap

variable (A : Address → Prop) (P : Partition → Prop)

/-! ### What is on record -/

/-- A book has rows for accounts of one kind only. -/
def Book.NamesOnly (b : Book) : Prop := b.balances.Every fun a _ => A a

/-- A registry lists only accounts of one kind, under partitions of one kind. -/
structure Registry.NamesOnly (r : Registry) : Prop where
  partition : ∀ q ∈ r.knownPartitions, P q
  holder : ∀ q, ∀ a ∈ r.holders q, A a
  anyHolder : ∀ a ∈ r.allHolders, A a

/-- The party and the partition of a lock. -/
structure Lock.NamesOnly (r : Lock) : Prop where
  holder : A r.holder
  partition : P r.partition

/-- The parties and the partition of a hold; there need not be a destination. -/
structure Hold.NamesOnly (r : Hold) : Prop where
  holder : A r.holder
  escrow : A r.escrow
  destination : ∀ account, r.destination = some account → A account
  partition : P r.partition

/-- The parties and the partition of a clearing. -/
structure Clearing.NamesOnly (r : Clearing) : Prop where
  source : A r.source
  destination : A r.destination
  partition : P r.partition

/-- Books, registry and records of a ledger. -/
structure Ledger.NamesOnly (l : Ledger) : Prop where
  books : l.books.Every fun q book => P q ∧ book.NamesOnly A
  registry : l.registry.NamesOnly A P
  locks : l.locks.Every fun _ r => r.NamesOnly A P
  holds : l.holds.Every fun _ r => r.NamesOnly A P
  clearings : l.clearings.Every fun _ r => r.NamesOnly A P

/-- The accounts and the partitions of balances that were kept. -/
structure Holdings.NamesOnly (h : Holdings) : Prop where
  holder : ∀ a ∈ h.holders, A a
  totals : h.totals.Every fun a _ => A a
  byPartition : h.byPartition.Every fun q amounts => P q ∧ amounts.Every fun a _ => A a

/-- The ledger of a bond and its snapshots. -/
structure Bond.NamesOnly (b : Bond) : Prop where
  ledger : b.ledger.NamesOnly A P
  snapshot : ∀ snapshot ∈ b.snapshots.snapshots, snapshot.holdings.NamesOnly A P

/-- What the checks of a command let through. -/
structure Bond.LetsThrough (b : Bond) : Prop where
  account : ∀ a : Address, a.isZero = false → A a
  partition : ∀ q : Partition, b.terms.isMultiPartition = true ∨ q.isDefault = true → P q

variable {A : Address → Prop} {P : Partition → Prop}

/-! ### Registries -/

namespace Registry

variable {r r' : Registry}

theorem namesOnly_empty : empty.NamesOnly A P := ⟨nofun, fun _ => nofun, nofun⟩

/-- A roster that is reconciled is one of the partition, the others stay. -/
theorem mem_knownPartitions_reconcile {holder : Address} {p q : Partition}
    {partitionTotal overallTotal : Amount}
    (h : q ∈ (r.reconcile holder p partitionTotal overallTotal).knownPartitions) :
    q = p ∨ q ∈ r.knownPartitions := by
  change q ∈ (reconcilePartition r.partitions holder p (partitionTotal != 0)).keys at h
  unfold reconcilePartition at h
  dsimp only at h
  split at h
  · exact SortedMap.mem_keys_insert_iff.mp h
  · split at h
    · exact .inr h
    · split at h
      · exact .inr (SortedMap.mem_keys_erase_iff.mp h).2
      · exact SortedMap.mem_keys_insert_iff.mp h

theorem NamesOnly.reconcile (h : r.NamesOnly A P) {holder : Address} {p : Partition}
    (hholder : A holder) (hp : P p) (partitionTotal overallTotal : Amount) :
    (r.reconcile holder p partitionTotal overallTotal).NamesOnly A P := by
  refine ⟨fun q hq => ?_, fun q a ha => ?_, fun a ha => ?_⟩
  · obtain rfl | hold := mem_knownPartitions_reconcile hq
    · exact hp
    · exact h.partition q hold
  · rw [mem_holders_reconcile] at ha
    split at ha
    · next hsame => exact hsame.1 ▸ hholder
    · exact h.holder q a ha
  · rw [mem_allHolders_reconcile] at ha
    split at ha
    · next hsame => exact hsame ▸ hholder
    · exact h.anyHolder a ha

/-- Registries that look the same list the same. -/
theorem NamesOnly.of_view (h : r.NamesOnly A P) (hview : r'.view = r.view) :
    r'.NamesOnly A P := by
  refine ⟨?_, ?_, ?_⟩
  · rw [knownPartitions_eq hview]
    exact h.partition
  · intro q
    rw [holders_eq hview]
    exact h.holder q
  · rw [allHolders_eq hview]
    exact h.anyHolder

end Registry

/-! ### Ledgers -/

namespace Ledger

variable {l l' : Ledger} {holder : Address} {partition : Partition} {amount : Amount}

theorem namesOnly_empty : empty.NamesOnly A P :=
  ⟨SortedMap.every_empty, Registry.namesOnly_empty, SortedMap.every_empty, SortedMap.every_empty,
    SortedMap.every_empty⟩

theorem NamesOnly.book (h : l.NamesOnly A P) (q : Partition) : (l.book q).NamesOnly A := by
  unfold Ledger.book
  cases hq : l.books.get? q with
  | none => exact SortedMap.every_empty
  | some book => exact (h.books q book hq).2

theorem NamesOnly.withSupply (h : l.NamesOnly A P) (hpartition : P partition) (supply : Amount) :
    (l.withSupply partition supply).NamesOnly A P :=
  { h with books := h.books.insert ⟨hpartition, h.book partition⟩ }

theorem NamesOnly.withRow (h : l.NamesOnly A P) (hholder : A holder) (hpartition : P partition)
    (balance : Balance) : (l.withRow holder partition balance).NamesOnly A P := by
  have hbook : ((l.book partition).withRow holder balance).NamesOnly A := by
    unfold Book.withRow Book.NamesOnly
    dsimp only
    split
    · exact SortedMap.Every.erase (h.book partition) holder
    · exact SortedMap.Every.insert (h.book partition) hholder
  exact { h with
    books := h.books.insert ⟨hpartition, hbook⟩
    registry := h.registry.reconcile hholder hpartition _ _ }

theorem NamesOnly.withHoldRest (h : l.NamesOnly A P) {id : HoldId} {r : Hold}
    (hr : r.NamesOnly A P) (rest : Amount) : (l.withHoldRest id r rest).NamesOnly A P := by
  refine { h with holds := ?_ }
  unfold Ledger.withHoldRest
  dsimp only
  split
  · exact h.holds.erase id
  · exact h.holds.insert ⟨hr.holder, hr.escrow, hr.destination, hr.partition⟩

theorem NamesOnly.of_alike (h : l.NamesOnly A P) (halike : l.Alike l') : l'.NamesOnly A P := by
  rw [halike.eq_withRegistry]
  exact { h with registry := h.registry.of_view halike.view_eq }

theorem NamesOnly.of_redeem (h : l.NamesOnly A P) (hconsistent : l.Consistent)
    (hholder : A holder) (hpartition : P partition)
    (hl' : Ledger.redeem holder partition amount l = .ok () l') : l'.NamesOnly A P := by
  obtain ⟨-, ⟨-, rfl⟩ | ⟨-, supply, balance, -, -, rfl⟩⟩ :=
    (redeem_spec hconsistent holder partition amount).of_ok hl'
  · exact h
  · exact (h.withSupply hpartition supply).withRow hholder hpartition balance

/-- A plan of redemption names its partitions. -/
theorem NamesOnly.of_redeemEach (h : l.NamesOnly A P) (hconsistent : l.Consistent)
    (hholder : A holder) {plan : List (Partition × Amount)} (hplan : ∀ entry ∈ plan, P entry.1)
    (hl' : Bond.redeemEach holder plan l = .ok () l') : l'.NamesOnly A P := by
  induction plan generalizing l with
  | nil =>
    cases hl'
    exact h
  | cons entry rest ih =>
    obtain ⟨hfirst, hrest⟩ := List.forall_mem_cons.mp hplan
    obtain ⟨l₁, hm, h₁, hl'⟩ := Bond.redeem_of_redeemEach hconsistent hl'
    exact ih (h.of_redeem hconsistent hholder hfirst hm) h₁ hrest hl'

/-- What can be redeemed altogether is in books that there are. -/
theorem NamesOnly.redeemable (h : l.NamesOnly A P) (holder : Address) :
    ∀ entry ∈ Bond.redeemable l holder, P entry.1 := by
  intro entry hentry
  obtain ⟨q, hq, rfl⟩ := List.mem_map.mp (List.mem_filter.mp hentry).1
  obtain ⟨book, hbook, -⟩ := SortedMap.mem_keys_filter_iff.mp hq
  exact (h.books q book hbook).1

/-- Balances that are kept show what the registry lists. -/
theorem NamesOnly.holdings (h : l.NamesOnly A P) : (Holdings.ofLedger l).NamesOnly A P where
  holder := h.registry.anyHolder
  totals := SortedMap.every_ofList_map h.registry.anyHolder
  byPartition := SortedMap.every_ofList_map fun q hq =>
    ⟨h.registry.partition q hq, SortedMap.every_ofList_map (h.registry.holder q)⟩

end Ledger

/-! ### Commands -/

namespace Bond

variable {desk : Desk} {b b' changed : Bond} {command : Command} {outcome : Outcome}
  {facts : List Fact}

theorem NamesOnly.of_alike (h : b.NamesOnly A P) (halike : b.Alike b') : b'.NamesOnly A P := by
  refine ⟨h.ledger.of_alike halike.ledger, ?_⟩
  rw [show b'.snapshots = b.snapshots from halike.congr Bond.snapshots fun _ _ => rfl]
  exact h.snapshot

/-- A command works on accounts and partitions that passed its checks, or that it finds on
record. -/
theorem Performed.namesOnly_ledger (h : Performed desk b command outcome facts changed)
    (hconsistent : b.ledger.Consistent) (hlets : b.LetsThrough A P)
    (hnames : b.ledger.NamesOnly A P) : changed.ledger.NamesOnly A P := by
  cases h with
  | setCoupon => exact hnames
  | updateMaturityDate => exact hnames
  | issue hholder hpartition _ hl' =>
    obtain ⟨-, rfl⟩ | ⟨-, supply, balance, -, -, -, rfl⟩ :=
      (Ledger.issue_spec hconsistent _ _ _).of_ok hl'
    · exact hnames
    · exact (hnames.withSupply (hlets.partition _ hpartition) supply).withRow
        (hlets.account _ hholder) (hlets.partition _ hpartition) balance
  | transfer hsource hdestination hpartition _ hl' =>
    obtain ⟨-, ⟨-, rfl⟩ | ⟨-, -, sender, receiver, -, -, rfl⟩⟩ :=
      (Ledger.transfer_spec hconsistent _ _ _ _).of_ok hl'
    · exact hnames
    · exact (hnames.withRow (hlets.account _ hsource) (hlets.partition _ hpartition)
        sender).withRow (hlets.account _ hdestination) (hlets.partition _ hpartition) receiver
  | redeem hholder hpartition _ hl' =>
    exact hnames.of_redeem hconsistent (hlets.account _ hholder) (hlets.partition _ hpartition) hl'
  | redeemAtMaturity hholder hpartition _ _ hl' =>
    exact hnames.of_redeem hconsistent (hlets.account _ hholder) (hlets.partition _ hpartition) hl'
  | redeemAllAtMaturity hholder _ _ hl' =>
    exact hnames.of_redeemEach hconsistent (hlets.account _ hholder) (hnames.redeemable _) hl'
  | lock hholder hpartition _ hl' =>
    obtain ⟨-, -, balance, -, -, rfl⟩ := (Ledger.lock_spec hconsistent _ _ _ _).of_ok hl'
    have hheld := hlets.account _ hholder
    have hin := hlets.partition _ hpartition
    refine Ledger.NamesOnly.withRow ?_ hheld hin balance
    exact { hnames with locks := hnames.locks.insert ⟨hheld, hin⟩ }
  | releaseLock _ _ hl' =>
    obtain ⟨hrecord, -, balance, -, rfl⟩ := (Ledger.releaseLock_spec hconsistent _ _).of_ok hl'
    have hr := hnames.locks _ _ hrecord
    refine Ledger.NamesOnly.withRow ?_ hr.holder hr.partition balance
    exact { hnames with locks := hnames.locks.erase _ }
  | createHold hholder hescrow hdestination hpartition _ hl' =>
    obtain ⟨-, -, balance, -, -, rfl⟩ :=
      (Ledger.createHold_spec hconsistent _ _ _ _ _ _).of_ok hl'
    have hheld := hlets.account _ hholder
    have hin := hlets.partition _ hpartition
    refine Ledger.NamesOnly.withRow ?_ hheld hin balance
    exact { hnames with holds := hnames.holds.insert ⟨hheld, hlets.account _ hescrow,
      fun account haccount => hlets.account _ (hdestination account haccount), hin⟩ }
  | executeHold hdestination _ _ hl' =>
    obtain ⟨r, hrecord, -, -, -, -, sender, receiver, rest, -, -, -, rfl⟩ :=
      (Ledger.executeHold_spec hconsistent _ _ _ _).of_ok hl'
    have hr := hnames.holds _ _ hrecord
    exact ((hnames.withHoldRest hr rest).withRow hr.holder hr.partition sender).withRow
      (hlets.account _ hdestination) hr.partition receiver
  | releaseHold _ _ hl' =>
    obtain ⟨r, hrecord, -, -, balance, rest, -, -, rfl⟩ :=
      (Ledger.releaseHold_spec hconsistent _ _).of_ok hl'
    have hr := hnames.holds _ _ hrecord
    exact (hnames.withHoldRest hr rest).withRow hr.holder hr.partition balance
  | freeze hholder hpartition _ hl' =>
    obtain ⟨-, -, balance, -, rfl⟩ := (Ledger.freeze_spec hconsistent _ _ _).of_ok hl'
    exact hnames.withRow (hlets.account _ hholder) (hlets.partition _ hpartition) balance
  | unfreeze hholder hpartition _ hl' =>
    obtain ⟨-, -, balance, -, rfl⟩ := (Ledger.unfreeze_spec hconsistent _ _ _).of_ok hl'
    exact hnames.withRow (hlets.account _ hholder) (hlets.partition _ hpartition) balance
  | createClearing hsource hdestination hpartition _ hl' =>
    obtain ⟨-, -, balance, -, -, rfl⟩ :=
      (Ledger.createClearing_spec hconsistent _ _ _ _ _).of_ok hl'
    have hfrom := hlets.account _ hsource
    have hin := hlets.partition _ hpartition
    refine Ledger.NamesOnly.withRow ?_ hfrom hin balance
    exact { hnames with
      clearings := hnames.clearings.insert ⟨hfrom, hlets.account _ hdestination, hin⟩ }
  | approveClearing _ _ hl' =>
    obtain ⟨hrecord, -, reserved, sender, receiver, -, -, -, rfl⟩ :=
      (Ledger.approveClearing_spec hconsistent _ _).of_ok hl'
    have hr := hnames.clearings _ _ hrecord
    refine Ledger.NamesOnly.withRow ?_ hr.destination hr.partition receiver
    refine Ledger.NamesOnly.withRow ?_ hr.source hr.partition sender
    exact { hnames with clearings := hnames.clearings.erase _ }
  | cancelClearing _ _ hl' =>
    obtain ⟨hrecord, balance, -, rfl⟩ := (Ledger.cancelClearing_spec hconsistent _).of_ok hl'
    have hr := hnames.clearings _ _ hrecord
    refine Ledger.NamesOnly.withRow ?_ hr.source hr.partition balance
    exact { hnames with clearings := hnames.clearings.erase _ }

/-- A command leaves nothing on record but what passed its checks or was on record before, and
its snapshots show what was. -/
theorem Performed.namesOnly (h : Performed desk b command outcome facts changed)
    (hconsistent : b.ledger.Consistent) (hagrees : b.Agrees) (hlets : b.LetsThrough A P)
    (hnames : b.NamesOnly A P) : (b.closed desk.now changed facts).NamesOnly A P := by
  obtain ⟨triggers, taken, hcatches⟩ := h.catchesUp hagrees
  refine ⟨h.namesOnly_ledger hconsistent hlets hnames.ledger, ?_⟩
  rw [hcatches.snapshots_eq]
  intro snapshot hmem
  rcases List.mem_append.mp hmem with hold | hnew
  · exact hnames.snapshot snapshot hold
  · rw [(hcatches.moment snapshot hnew).2]
    exact hnames.ledger.holdings

end Bond

/-! ### Histories -/

namespace Session

variable {config : Config}

/-- After any history, the zero address is nowhere on record: not in a row, in the registry, in a
lock, a hold or a clearing, and not in a snapshot.  A bond with a single partition has no other
one on record either. -/
theorem names_on_record {b : Bond} (hcreate : Bond.create config = .ok b) (start : Clock)
    (history : List Move) :
    ((⟨b, start⟩ : Session).run history).bond.NamesOnly (· ≠ .zero)
      fun q => config.isMultiPartition = true ∨ q = .default := by
  refine (sound_of_create hcreate start).bond_keeps (fun halike hnames => hnames.of_alike halike)
    (fun {s} _ _ _ _ _ _ hsound hperformed hnames => ?_) ?_ history
  · have hlets : s.bond.LetsThrough (· ≠ .zero)
        fun q => config.isMultiPartition = true ∨ q = .default := by
      refine ⟨fun a ha => bne_iff_ne.mp (by simpa [Address.isZero] using ha), fun q hq => ?_⟩
      rw [hsound.terms_eq] at hq
      exact hq.imp_right beq_iff_eq.mp
    exact hperformed.namesOnly hsound.consistent hsound.agrees hlets hnames
  · obtain ⟨-, rfl⟩ := Bond.create_eq_ok_iff.mp hcreate
    exact ⟨Ledger.namesOnly_empty, nofun⟩

/-- Some units are locked, some are held, some await approval, and then a record date comes. -/
def sampleEncumbrances : List Move :=
  [.command [] none (.issue (.ofLow 7) .default 10), .command [] none (.setCoupon sampleCoupon),
    .command [] none (.lock (.ofLow 7) .default 2 90),
    .command [] none (.createHold (.ofLow 7) .default 2 (.ofLow 9) (some (.ofLow 8)) 90),
    .command [] none (.createClearing (.ofLow 7) (.ofLow 8) .default 2 90), .advance 50,
    .command [] none (.transfer (.ofLow 7) (.ofLow 8) .default 3)]

/-- A bond with a single partition that has records of every kind and a snapshot. -/
theorem sample_names_on_record :
    Bond.sampleConfig.isMultiPartition = false ∧
    (sampleStart.run sampleEncumbrances).bond.ledger.locks.size = 1 ∧
    (sampleStart.run sampleEncumbrances).bond.ledger.holds.size = 1 ∧
    (sampleStart.run sampleEncumbrances).bond.ledger.clearings.size = 1 ∧
    (sampleStart.run sampleEncumbrances).bond.snapshots.count = 1 ∧
    (sampleStart.run sampleEncumbrances).bond.NamesOnly (· ≠ .zero)
      fun q => Bond.sampleConfig.isMultiPartition = true ∨ q = .default := by
  have hopened : Bond.create Bond.sampleConfig = .ok sampleStart.bond := rfl
  exact ⟨rfl, by decide, by decide, by decide, by decide,
    names_on_record hopened sampleStart.clock sampleEncumbrances⟩

end Session

end CouponBond
