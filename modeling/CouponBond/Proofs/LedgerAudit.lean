import CouponBond.Proofs.LedgerInvariant
import Mathlib.Data.List.Nodup
import Mathlib.Data.List.Perm.Subperm
import Mathlib.Tactic.ByContra

/-!
# What an audit accepts

The audits of a ledger accept exactly the consistent ledgers: an audit reports the first
disagreement, so it is silent when there is none.

The audit of the records strikes the rows off a tally and looks at what is left.  A row is
judged by what the tally says at its own position, which no other row strikes off, so the scan
amounts to a look at every position on its own.

## Main Definitions

* `Ledger.Encumbrance.Explains` — a balance shows what the records encumber
* `Ledger.RecordsAgree` — what the audit of the records decides

## Main Results

* `Ledger.scan_and_rest_eq_ok_iff` — scan and leftovers judge every balance
* `Ledger.auditSupply_eq_ok_iff` — the audit of the supply is conservation
* `Ledger.auditRecords_eq_ok_iff` — the audit of the records is the rest of the invariant
* `Ledger.audits_iff_consistent` — both audits together are the invariant
* `Ledger.audits_decide` — what each audit decides, in terms of rows, records and rosters
-/

namespace CouponBond.Ledger

variable {l : Ledger}

/-! ### Checks in a row -/

theorem bind_eq_ok_iff {ε α : Type} {first : Except ε Unit} {rest : Unit → Except ε α}
    {a : α} : (first >>= rest) = .ok a ↔ first = .ok () ∧ rest () = .ok a := by
  cases first with
  | ok u => exact ⟨fun h => ⟨rfl, h⟩, fun h => h.2⟩
  | error e => exact ⟨fun h => (nomatch h), fun h => (nomatch h.1)⟩

theorem bind_eq_ok_iff_exists {ε α β : Type} {first : Except ε α} {rest : α → Except ε β}
    {b : β} : (first >>= rest) = .ok b ↔ ∃ a, first = .ok a ∧ rest a = .ok b := by
  cases first with
  | ok a => exact ⟨fun h => ⟨a, rfl, h⟩, fun ⟨_, ha, hb⟩ => Except.ok.inj ha ▸ hb⟩
  | error e => exact ⟨fun h => (nomatch h), fun ⟨_, ha, _⟩ => (nomatch ha)⟩

theorem ite_eq_ok_iff {ε : Type} {c : Prop} [Decidable c] {e : ε} :
    (if c then .ok () else .error e : Except ε Unit) = .ok () ↔ c := by
  split
  · next h => exact ⟨fun _ => h, fun _ => rfl⟩
  · next h => exact ⟨fun he => (nomatch he), fun hc => absurd hc h⟩

theorem refuseFirst_eq_ok_iff {α : Type} {check : α → Except LedgerError Unit} {as : List α} :
    refuseFirst check as = .ok () ↔ ∀ a ∈ as, check a = .ok () := by
  induction as with
  | nil => exact ⟨fun _ _ h => (nomatch h), fun _ => rfl⟩
  | cons hd tl ih => rw [refuseFirst, bind_eq_ok_iff, ih, List.forall_mem_cons]

/-! ### Supply -/

theorem auditBook_eq_ok_iff {entry : Partition × Book} :
    auditBook entry = .ok () ↔ bookSum entry.2 = entry.2.totalSupply.toNat :=
  ite_eq_ok_iff

/-- The audit of the supply accepts the ledgers in which the rows add up to the supply. -/
theorem auditSupply_eq_ok_iff :
    l.auditSupply = .ok () ↔ ∀ q, bookSum (l.book q) = (l.totalSupply q).toNat := by
  rw [auditSupply, refuseFirst_eq_ok_iff]
  simp only [auditBook_eq_ok_iff]
  exact SortedMap.forall_mem_entries_iff_getD
    (Q := fun _ b => bookSum b = b.totalSupply.toNat) fun _ => rfl

/-! ### Numbers -/

theorem auditNumber_eq_ok_iff {kind : RecordKind} {key id counter : UInt64} :
    auditNumber kind key id counter = .ok () ↔ key = id ∧ id ≠ 0 ∧ id ≤ counter :=
  ite_eq_ok_iff

theorem auditNumbers_eq_ok_iff {R : Type} {kind : RecordKind} {records : SortedMap UInt64 R}
    {idOf : R → UInt64} {counter : UInt64} :
    refuseFirst (fun e => auditNumber kind e.1 (idOf e.2) counter) records.entries = .ok () ↔
      Numbered records idOf counter := by
  rw [refuseFirst_eq_ok_iff]
  simp only [auditNumber_eq_ok_iff]
  exact SortedMap.forall_mem_entries_iff (m := records)
    (Q := fun key r => key = idOf r ∧ idOf r ≠ 0 ∧ idOf r ≤ counter)

/-! ### The tally -/

theorem Encumbrance.get_none (k : Bucket) : Encumbrance.none.get k = 0 := by
  cases k <;> rfl

theorem Encumbrance.get_add (e : Encumbrance) {k : Bucket} (hk : k ∈ Bucket.recorded)
    (units : Nat) (k' : Bucket) :
    (e.add k units).get k' = e.get k' + if k' = k then units else 0 := by
  simp only [Bucket.recorded, List.mem_cons, List.not_mem_nil, or_false] at hk
  rcases hk with rfl | rfl | rfl <;> cases k' <;> rfl

namespace Tally

variable {t : Tally}

theorem entry_empty (p : Position) : entry .empty p = .none := rfl

theorem entry_insert (p p' : Position) (e : Encumbrance) :
    entry (t.insert p e) p' = if p' = p then e else t.entry p' := by
  unfold entry
  rw [SortedMap.get?_insert]
  simp only [rank_inj]
  split <;> rfl

theorem entry_erase (p p' : Position) :
    entry (t.erase p) p' = if p' = p then .none else t.entry p' := by
  unfold entry
  rw [SortedMap.get?_erase]
  simp only [rank_inj]
  split <;> rfl

/-- Records add their units to the bucket of their kind, each at its position. -/
theorem get_entry_enterAll {R : Type} {k : Bucket} (hk : k ∈ Bucket.recorded)
    (position : R → Position) (amount : R → Amount) (records : SortedMap UInt64 R)
    (p : Position) (k' : Bucket) :
    ((t.enterAll k position amount records.values).entry p).get k' = (t.entry p).get k' +
      if k' = k then records.sumOf fun r => if position r = p then (amount r).toNat else 0
      else 0 := by
  unfold SortedMap.values SortedMap.sumOf
  generalize records.entries = entries
  induction entries generalizing t with
  | nil => simp [enterAll, SortedMap.sumEntries]
  | cons hd tl ih =>
    have hstep : ((t.enter (position hd.2) k (amount hd.2)).entry p).get k' =
        (t.entry p).get k' +
          if k' = k then if position hd.2 = p then (amount hd.2).toNat else 0 else 0 := by
      unfold enter
      rw [entry_insert]
      by_cases hp : p = position hd.2
      · rw [if_pos hp, Encumbrance.get_add _ hk, if_pos hp.symm, hp]
      · have hp' : ¬ position hd.2 = p := fun e => hp e.symm
        rw [if_neg hp, if_neg hp', ite_self, Nat.add_zero]
    rw [List.map_cons]
    refine (ih (t := t.enter (position hd.2) k (amount hd.2))).trans ?_
    rw [hstep, SortedMap.sumEntries]
    split <;> omega

end Tally

/-- At each position the tally shows what the records add up to. -/
theorem get_entry_tally (a : Address) (q : Partition) (k : Bucket) :
    (l.tally.entry ⟨a, q⟩).get k = l.recorded a q k := by
  unfold tally
  dsimp only
  rw [Tally.get_entry_enterAll (by decide), Tally.get_entry_enterAll (by decide),
    Tally.get_entry_enterAll (by decide), Tally.entry_empty, Encumbrance.get_none]
  cases k <;> simp [recorded]

/-! ### Rows -/

theorem mem_rows_iff {a : Address} {q : Partition} {b : Balance} :
    (⟨a, q⟩, b) ∈ l.rows ↔ (l.book q).balances.get? a = some b := by
  simp only [rows, List.mem_flatMap, List.mem_map, Prod.mk.injEq, Position.mk.injEq]
  constructor
  · rintro ⟨e, he, row, hrow, ⟨rfl, rfl⟩, rfl⟩
    rw [book, SortedMap.get?_eq_some_iff.mpr he]
    exact SortedMap.get?_eq_some_iff.mpr hrow
  · intro h
    unfold book at h
    cases hq : l.books.get? q with
    | none =>
      rw [hq] at h
      cases h
    | some book =>
      rw [hq] at h
      exact ⟨(q, book), SortedMap.get?_eq_some_iff.mp hq, (a, b),
        SortedMap.get?_eq_some_iff.mp h, ⟨rfl, rfl⟩, rfl⟩

/-- No position has two rows. -/
theorem nodup_rows (l : Ledger) : (l.rows.map Prod.fst).Nodup := by
  have hflat : l.rows.map Prod.fst = l.books.entries.flatMap fun e =>
      e.2.balances.keys.map fun a => (⟨a, e.1⟩ : Position) := by
    simp only [rows, List.map_flatMap, SortedMap.keys, List.map_map, Function.comp_def]
  rw [hflat, List.nodup_flatMap]
  constructor
  · intro e _
    exact (SortedMap.nodup_keys _).map fun a a' h => congrArg Position.holder h
  · -- rows of different books differ in their partitions
    refine l.books.ascending.imp fun {e e'} hlt p hp hp' => ?_
    obtain ⟨a, -, rfl⟩ := List.mem_map.mp hp
    obtain ⟨a', -, heq⟩ := List.mem_map.mp hp'
    have hpartition : e'.1 = e.1 := congrArg Position.partition heq
    exact Nat.ne_of_gt hlt (congrArg rank hpartition)

theorem balanceOf_of_mem_rows {p : Position} {b : Balance} (h : (p, b) ∈ l.rows) :
    l.balanceOf p.holder p.partition = b := by
  rw [balanceOf, Book.balanceOf, mem_rows_iff.mp h]
  rfl

/-- A position without a row has an empty balance. -/
theorem balanceOf_of_not_mem_rows {p : Position} (h : p ∉ l.rows.map Prod.fst) :
    l.balanceOf p.holder p.partition = .zero := by
  unfold balanceOf Book.balanceOf
  cases hrow : (l.book p.partition).balances.get? p.holder with
  | none => rfl
  | some b => exact absurd (List.mem_map.mpr ⟨(p, b), mem_rows_iff.mpr hrow, rfl⟩) h

/-! ### Rows and records -/

/-- The buckets of a balance show what the records encumber. -/
def Encumbrance.Explains (e : Encumbrance) (b : Balance) : Prop :=
  ∀ k ∈ Bucket.recorded, e.get k = (b.get k).toNat

theorem Encumbrance.none_explains_zero : Encumbrance.none.Explains .zero := by
  intro k _
  rw [get_none]
  cases k <;> rfl

theorem auditBuckets_eq_ok_iff {p : Position} {e : Encumbrance} {b : Balance} :
    auditBuckets p e b = .ok () ↔ e.Explains b := by
  rw [auditBuckets, refuseFirst_eq_ok_iff]
  exact forall_congr' fun k => forall_congr' fun _ => ite_eq_ok_iff

/-- What the audit of one row asks for. -/
def RowPasses (t : Tally) (row : Position × Balance) : Prop :=
  (t.entry row.1).Explains row.2 ∧ row.2.cleared ≤ row.2.free

theorem auditRow_eq_ok_iff {t t' : Tally} {row : Position × Balance} :
    auditRow t row = .ok t' ↔ RowPasses t row ∧ t.erase row.1 = t' := by
  unfold auditRow RowPasses
  rw [bind_eq_ok_iff, auditBuckets_eq_ok_iff, and_assoc]
  refine and_congr_right fun _ => ?_
  split
  · next h => exact ⟨fun e => (nomatch e), fun e => absurd h (UInt64.not_lt.mpr e.1)⟩
  · next h =>
    exact ⟨fun e => ⟨UInt64.not_lt.mp h, Except.ok.inj e⟩, fun e => congrArg Except.ok e.2⟩

/-- The tally after the positions of rows were struck off. -/
def Tally.strike (t : Tally) (rows : List (Position × Balance)) : Tally :=
  rows.foldl (fun t row => t.erase row.1) t

theorem Tally.entry_strike (t : Tally) (rows : List (Position × Balance)) (p : Position) :
    (t.strike rows).entry p = if p ∈ rows.map Prod.fst then .none else t.entry p := by
  induction rows generalizing t with
  | nil => rfl
  | cons hd tl ih =>
    rw [List.map_cons, strike, List.foldl_cons]
    refine (ih (t.erase hd.1)).trans ?_
    rw [entry_erase]
    by_cases htl : p ∈ tl.map Prod.fst
    · rw [if_pos htl, if_pos (.tail _ htl)]
    · simp only [List.mem_cons, htl, or_false, if_false]

/-- A scan passes when each row does, and it leaves the positions without a row.  A row is
judged by the tally at the start, since only its own position is struck off for it. -/
theorem scan_eq_ok_iff {rows : List (Position × Balance)} (hrows : (rows.map Prod.fst).Nodup)
    {t t' : Tally} :
    rows.foldlM auditRow t = .ok t' ↔ (∀ row ∈ rows, RowPasses t row) ∧ t.strike rows = t' := by
  induction rows generalizing t with
  | nil => exact ⟨fun e => ⟨fun _ h => (nomatch h), Except.ok.inj e⟩, fun e => congrArg _ e.2⟩
  | cons hd tl ih =>
    rw [List.map_cons, List.nodup_cons] at hrows
    have hlater : ∀ row ∈ tl, RowPasses (t.erase hd.1) row ↔ RowPasses t row := by
      intro row hrow
      have hne : row.1 ≠ hd.1 := fun e => hrows.1 (e ▸ List.mem_map_of_mem hrow)
      rw [RowPasses, RowPasses, Tally.entry_erase, if_neg hne]
    rw [List.foldlM_cons, bind_eq_ok_iff_exists, List.forall_mem_cons, and_assoc]
    constructor
    · rintro ⟨t₁, hhd, htl⟩
      obtain ⟨hpass, rfl⟩ := auditRow_eq_ok_iff.mp hhd
      obtain ⟨hall, hrest⟩ := (ih hrows.2).mp htl
      exact ⟨hpass, fun row hrow => (hlater row hrow).mp (hall row hrow), hrest⟩
    · rintro ⟨hpass, hall, hrest⟩
      exact ⟨t.erase hd.1, auditRow_eq_ok_iff.mpr ⟨hpass, rfl⟩,
        (ih hrows.2).mpr ⟨fun row hrow => (hlater row hrow).mpr (hall row hrow), hrest⟩⟩

theorem auditRest_eq_ok_iff {t : Tally} :
    auditRest t = .ok () ↔ ∀ p, (t.entry p).Explains .zero := by
  rw [auditRest, refuseFirst_eq_ok_iff]
  simp only [auditBuckets_eq_ok_iff]
  exact SortedMap.forall_mem_entries_iff_getD
    (Q := fun _ (e : Encumbrance) => e.Explains .zero) fun _ => Encumbrance.none_explains_zero

/-- The scan of the rows and the look at what is left together judge every balance, with a
row or without. -/
theorem scan_and_rest_eq_ok_iff :
    (∃ rest, l.rows.foldlM auditRow l.tally = .ok rest ∧ auditRest rest = .ok ()) ↔
      (∀ a q, ∀ k ∈ Bucket.recorded, l.recorded a q k = ((l.balanceOf a q).get k).toNat) ∧
        ∀ a q, (l.balanceOf a q).cleared ≤ (l.balanceOf a q).free := by
  have hexplained : ∀ a q b, (l.tally.entry ⟨a, q⟩).Explains b ↔
      ∀ k ∈ Bucket.recorded, l.recorded a q k = (b.get k).toNat := fun a q b =>
    forall_congr' fun k => by rw [get_entry_tally]
  simp only [scan_eq_ok_iff l.nodup_rows, auditRest_eq_ok_iff, and_assoc, ← hexplained]
  constructor
  · rintro ⟨-, hrows, rfl, hrest⟩
    have hpasses : ∀ a q, RowPasses l.tally (⟨a, q⟩, l.balanceOf a q) := by
      intro a q
      by_cases hmem : (⟨a, q⟩ : Position) ∈ l.rows.map Prod.fst
      · obtain ⟨⟨p, b⟩, hrow, rfl⟩ := List.mem_map.mp hmem
        rw [balanceOf_of_mem_rows hrow]
        exact hrows _ hrow
      · -- without a row the position is still on the tally when the rows are through
        have hleft := hrest ⟨a, q⟩
        rw [Tally.entry_strike, if_neg hmem] at hleft
        rw [balanceOf_of_not_mem_rows hmem]
        exact ⟨hleft, UInt64.le_refl _⟩
    exact ⟨fun a q => (hpasses a q).1, fun a q => (hpasses a q).2⟩
  · rintro ⟨hbuckets, hcleared⟩
    refine ⟨_, fun row hrow => ?_, rfl, fun p => ?_⟩
    · have hbalance := balanceOf_of_mem_rows hrow
      exact ⟨hbalance ▸ hbuckets row.1.holder row.1.partition,
        hbalance ▸ hcleared row.1.holder row.1.partition⟩
    · rw [Tally.entry_strike]
      split
      · exact Encumbrance.none_explains_zero
      · next hmem =>
        rw [← balanceOf_of_not_mem_rows hmem]
        exact hbuckets p.holder p.partition

/-! ### Registry -/

/-- Two lists without repetition pass when they have the same members. -/
theorem auditRoster_eq_ok_iff {expected listed : List Address} (hexpected : expected.Nodup)
    (hlisted : listed.Nodup) :
    auditRoster expected listed = .ok () ↔ ∀ a, a ∈ listed ↔ a ∈ expected := by
  unfold auditRoster
  split
  · next a hfound =>
    have hout : a ∉ listed := by simpa using List.find?_some hfound
    exact ⟨fun e => (nomatch e),
      fun h => absurd ((h a).mpr (List.mem_of_find?_eq_some hfound)) hout⟩
  · next hnone =>
    have hsub : expected ⊆ listed := fun a ha => by
      have := List.find?_eq_none.mp hnone a ha
      simpa using this
    dsimp only
    rw [ite_eq_ok_iff]
    -- all that is expected is listed, so equal lengths leave no room for strays
    constructor
    · intro hlength
      have hperm := (List.Nodup.subperm hexpected hsub).perm_of_length_le (Nat.le_of_eq hlength)
      exact fun a => hperm.mem_iff.symm
    · intro h
      exact ((List.perm_ext_iff_of_nodup hlisted hexpected).mpr h).length_eq

theorem mem_owners_iff {a : Address} {q : Partition} :
    a ∈ l.owners q ↔ l.totalBalanceOf a q ≠ 0 := by
  unfold owners totalBalanceOf balanceOf Book.balanceOf
  rw [SortedMap.mem_keys_filter_iff]
  cases h : (l.book q).balances.get? a with
  | none => simp
  | some b => simp [Balance.isEmpty]

theorem nodup_owners (q : Partition) : (l.owners q).Nodup := SortedMap.nodup_keys _

theorem nodup_ownersAll : l.ownersAll.Nodup := SortedMap.nodup_keys _

/-- A partition that is not looked at has no owners and no roster. -/
theorem of_not_mem_auditedPartitions {q : Partition} (h : q ∉ l.auditedPartitions) :
    l.owners q = [] ∧ l.registry.holders q = [] := by
  unfold auditedPartitions at h
  rw [SortedMap.mem_keys_foldl_insert_iff, SortedMap.mem_keys_foldl_insert_iff, not_or, not_or]
    at h
  obtain ⟨hregistry, hbooks, -⟩ := h
  have hbook : l.books.get? q = none := by
    cases hq : l.books.get? q with
    | none => rfl
    | some b => exact absurd (SortedMap.mem_keys_iff.mpr ⟨b, hq⟩) hbooks
  have hroster : l.registry.partitions.get? q = none := by
    cases hq : l.registry.partitions.get? q with
    | none => rfl
    | some r => exact absurd (SortedMap.mem_keys_iff.mpr ⟨r, hq⟩) hregistry
  constructor
  · unfold owners book
    rw [hbook]
    rfl
  · unfold Registry.holders Registry.roster
    rw [hroster]
    rfl

theorem mem_ownersAll_iff {a : Address} : a ∈ l.ownersAll ↔ l.holdingOf a ≠ 0 := by
  have hfold : ∀ (ps : List Partition) (s : SortedSet Address),
      a ∈ (ps.foldl (fun (s : SortedSet Address) p =>
        (l.owners p).foldl (fun s h => s.insert h ()) s) s).keys ↔
          (∃ p ∈ ps, a ∈ l.owners p) ∨ a ∈ s.keys := by
    intro ps
    induction ps with
    | nil => simp
    | cons hd tl ih =>
      intro s
      rw [List.foldl_cons, ih, SortedMap.mem_keys_foldl_insert_iff, List.exists_mem_cons_iff,
        ← or_assoc, or_comm (b := a ∈ l.owners hd)]
  unfold ownersAll
  rw [hfold, Ne, holdingOf_eq_zero_iff, not_forall]
  constructor
  · rintro (⟨p, -, hp⟩ | h)
    · exact ⟨p, mem_owners_iff.mp hp⟩
    · cases h
  · rintro ⟨p, hp⟩
    refine .inl ⟨p, ?_, mem_owners_iff.mpr hp⟩
    -- a partition with an owner has a book, so it is looked at
    by_contra hout
    have hmem := mem_owners_iff.mpr hp
    rw [(of_not_mem_auditedPartitions hout).1] at hmem
    cases hmem

/-- The audit of the registry accepts the ledgers whose rosters list exactly the holders. -/
theorem auditRegistry_eq_ok_iff :
    l.auditRegistry = .ok () ↔
      (∀ q a, a ∈ l.registry.holders q ↔ l.totalBalanceOf a q ≠ 0) ∧
        ∀ a, a ∈ l.registry.allHolders ↔ l.holdingOf a ≠ 0 := by
  have hall : auditRoster l.ownersAll l.registry.allHolders = .ok () ↔
      ∀ a, a ∈ l.registry.allHolders ↔ l.holdingOf a ≠ 0 := by
    refine (auditRoster_eq_ok_iff nodup_ownersAll (Roster.nodup_members _)).trans ?_
    refine forall_congr' fun a => ?_
    rw [mem_ownersAll_iff]
    rfl
  rw [auditRegistry, bind_eq_ok_iff, refuseFirst_eq_ok_iff, hall]
  refine and_congr_left fun _ => ?_
  constructor
  · intro h q a
    rw [← mem_owners_iff]
    by_cases hq : q ∈ l.auditedPartitions
    · exact (auditRoster_eq_ok_iff (nodup_owners q) (Roster.nodup_members _)).mp (h q hq) a
    · obtain ⟨howners, hholders⟩ := of_not_mem_auditedPartitions hq
      rw [howners, hholders]
  · intro h q _
    refine (auditRoster_eq_ok_iff (nodup_owners q) (Roster.nodup_members _)).mpr fun a => ?_
    rw [mem_owners_iff]
    exact h q a

/-! ### Both audits -/

theorem auditRecords_eq_ok_iff :
    l.auditRecords = .ok () ↔
      l.totalSupplyAll ≤ Unsigned.greatest.toNat ∧
      (Numbered l.locks Lock.id l.lockCounter ∧ Numbered l.holds Hold.id l.holdCounter ∧
        Numbered l.clearings Clearing.id l.clearingCounter) ∧
      ((∀ a q, ∀ k ∈ Bucket.recorded, l.recorded a q k = ((l.balanceOf a q).get k).toNat) ∧
        ∀ a q, (l.balanceOf a q).cleared ≤ (l.balanceOf a q).free) ∧
      (∀ q a, a ∈ l.registry.holders q ↔ l.totalBalanceOf a q ≠ 0) ∧
        ∀ a, a ∈ l.registry.allHolders ↔ l.holdingOf a ≠ 0 := by
  unfold auditRecords
  split
  · next h => exact ⟨fun e => (nomatch e), fun e => absurd h (Nat.not_lt.mpr e.1)⟩
  · next h =>
    rw [bind_eq_ok_iff, auditNumbers_eq_ok_iff, bind_eq_ok_iff, auditNumbers_eq_ok_iff,
      bind_eq_ok_iff, auditNumbers_eq_ok_iff, bind_eq_ok_iff_exists, ← scan_and_rest_eq_ok_iff]
    simp only [bind_eq_ok_iff, auditRegistry_eq_ok_iff]
    constructor
    · rintro ⟨hlocks, hholds, hclearings, rest, hscan, hrest, hregistry⟩
      exact ⟨Nat.not_lt.mp h, ⟨hlocks, hholds, hclearings⟩, ⟨rest, hscan, hrest⟩, hregistry⟩
    · rintro ⟨-, ⟨hlocks, hholds, hclearings⟩, ⟨rest, hscan, hrest⟩, hregistry⟩
      exact ⟨hlocks, hholds, hclearings, rest, hscan, hrest, hregistry⟩

/-- Both audits together accept exactly the consistent ledgers. -/
theorem audits_iff_consistent :
    (l.auditSupply = .ok () ∧ l.auditRecords = .ok ()) ↔ l.Consistent := by
  rw [auditSupply_eq_ok_iff, auditRecords_eq_ok_iff]
  constructor
  · rintro ⟨hconserved, hsupply, ⟨hlocks, hholds, hclearings⟩, ⟨hexplained, hcleared⟩, hholders,
      hall⟩
    exact ⟨hconserved, hsupply, hexplained, hcleared, hlocks, hholds, hclearings, hholders, hall⟩
  · intro h
    exact ⟨h.conserved, h.supply_le,
      ⟨h.locks_numbered, h.holds_numbered, h.clearings_numbered⟩, ⟨h.explained, h.cleared_le⟩,
      h.mem_holders_iff, h.mem_allHolders_iff⟩

/-! ### What each audit decides -/

/-- The records explain the encumbered units of everyone everywhere, and the registry lists
the holders. -/
structure RecordsAgree (l : Ledger) : Prop where
  supply_le : l.totalSupplyAll ≤ Unsigned.greatest.toNat
  locks_numbered : ∀ key r, l.locks.get? key = some r →
    key = r.id ∧ 0 < r.id ∧ r.id ≤ l.lockCounter
  holds_numbered : ∀ key r, l.holds.get? key = some r →
    key = r.id ∧ 0 < r.id ∧ r.id ≤ l.holdCounter
  clearings_numbered : ∀ key r, l.clearings.get? key = some r →
    key = r.id ∧ 0 < r.id ∧ r.id ≤ l.clearingCounter
  /-- With a row or without, the locks of a holder in a partition add up to the locked units. -/
  locked_eq : ∀ a q, l.recorded a q .locked = (l.balanceOf a q).locked.toNat
  held_eq : ∀ a q, l.recorded a q .held = (l.balanceOf a q).held.toNat
  cleared_eq : ∀ a q, l.recorded a q .cleared = (l.balanceOf a q).cleared.toNat
  cleared_le : ∀ row ∈ l.rows, row.2.cleared ≤ row.2.free
  /-- Also in a partition that only the books or only the registry know. -/
  mem_holders_iff : ∀ q a, a ∈ l.registry.holders q ↔ (l.balanceOf a q).total ≠ 0
  mem_allHolders_iff : ∀ a, a ∈ l.registry.allHolders ↔ ∃ q, a ∈ l.registry.holders q

theorem numbered_iff {R : Type} {records : SortedMap UInt64 R} {idOf : R → UInt64}
    {counter : UInt64} : Numbered records idOf counter ↔ ∀ key r, records.get? key = some r →
      key = idOf r ∧ 0 < idOf r ∧ idOf r ≤ counter := by
  unfold Numbered
  simp only [UInt64.pos_iff_ne_zero]

/-- Balances without a row reserve nothing, so only the rows have to be looked at. -/
theorem cleared_le_iff_rows :
    (∀ a q, (l.balanceOf a q).cleared ≤ (l.balanceOf a q).free) ↔
      ∀ row ∈ l.rows, row.2.cleared ≤ row.2.free := by
  constructor
  · intro h row hrow
    rw [← balanceOf_of_mem_rows hrow]
    exact h row.1.holder row.1.partition
  · intro h a q
    by_cases hmem : (⟨a, q⟩ : Position) ∈ l.rows.map Prod.fst
    · obtain ⟨⟨p, b⟩, hrow, rfl⟩ := List.mem_map.mp hmem
      rw [balanceOf_of_mem_rows hrow]
      exact h _ hrow
    · rw [balanceOf_of_not_mem_rows hmem]
      exact UInt64.le_refl _

/-- Whatever the ledger, the audit of the supply accepts it exactly when the rows of every
partition add up to its supply, and the audit of the records accepts it exactly when records,
balances and registry agree. -/
theorem audits_decide (l : Ledger) :
    (l.auditSupply = .ok () ↔ ∀ q, bookSum (l.book q) = (l.totalSupply q).toNat) ∧
    (l.auditRecords = .ok () ↔ l.RecordsAgree) := by
  refine ⟨auditSupply_eq_ok_iff, ?_⟩
  rw [auditRecords_eq_ok_iff, cleared_le_iff_rows, numbered_iff, numbered_iff, numbered_iff]
  constructor
  · rintro ⟨hsupply, ⟨hlocks, hholds, hclearings⟩, ⟨hbuckets, hcleared⟩, hholders, hall⟩
    refine ⟨hsupply, hlocks, hholds, hclearings, fun a q => hbuckets a q .locked (by decide),
      fun a q => hbuckets a q .held (by decide), fun a q => hbuckets a q .cleared (by decide),
      hcleared, hholders, fun a => ?_⟩
    rw [hall, Ne, holdingOf_eq_zero_iff, not_forall]
    exact exists_congr fun q => (hholders q a).symm
  · intro h
    refine ⟨h.supply_le, ⟨h.locks_numbered, h.holds_numbered, h.clearings_numbered⟩,
      ⟨fun a q k hk => ?_, h.cleared_le⟩, h.mem_holders_iff, fun a => ?_⟩
    · simp only [Bucket.recorded, List.mem_cons, List.not_mem_nil, or_false] at hk
      rcases hk with rfl | rfl | rfl
      · exact h.locked_eq a q
      · exact h.held_eq a q
      · exact h.cleared_eq a q
    · rw [h.mem_allHolders_iff, Ne, holdingOf_eq_zero_iff, not_forall]
      exact exists_congr fun q => h.mem_holders_iff q a

/-- A lock whose holder has no row is still on the tally when the rows are through. -/
example :
    ({ empty with
        lockCounter := 1
        locks := .insert .empty 1 ⟨1, .ofLow 7, .default, 4, 100⟩ } : Ledger).auditRecords =
      .error (.recordMismatch (.ofLow 7) .default .locked 4 0) := by
  decide

end CouponBond.Ledger
