import CouponBond.Proofs.LedgerInvariant

/-!
# The steps of mutations keep a ledger consistent

For each way in which a mutation writes a row while it changes records, the ledger that
results.  A step that moves units to another row leaves them missing; `InTransit.receive`
brings them in.

## Main Results

* `Ledger.Consistent.mint`, `Ledger.Consistent.burn` — units come into being or disappear
* `Ledger.Consistent.encumber`, `Ledger.Consistent.disencumber` — a row and the records of a kind
  change together
* `Ledger.Consistent.setAside`, `Ledger.Consistent.setFree` — units are locked or held, and free
  again
* `Ledger.InTransit.spend`, `Ledger.Consistent.payOut`, `Ledger.Consistent.settle` — units
  leave a row
* `Ledger.InTransit.receive` — and arrive in another one
-/

namespace CouponBond

namespace Ledger

variable {l : Ledger}

theorem consistent_of_inTransit_zero {partition : Partition} (h : l.InTransit partition 0) :
    l.Consistent := consistent_iff_inTransit_zero.mpr h

theorem Consistent.inTransit_zero (h : l.Consistent) (partition : Partition) :
    l.InTransit partition 0 := consistent_iff_inTransit_zero.mp h

/-! ### Records that follow a row -/

theorem ne_free_of_mem_recorded {k : Bucket} (hk : k ∈ Bucket.recorded) : k ≠ .free :=
  ne_of_mem_of_not_mem hk (by decide)

section Follow

variable {before after old new units : Nat} {row : Prop} [Decidable row]

/-- A row that gains units is followed by records that gain as many. -/
theorem follow_gain (hrecords : after = before + if row then units else 0)
    (hrow : new = old + units) :
    after + (if row then old else 0) = before + if row then new else 0 := by
  by_cases h : row
  · rw [if_pos h, if_pos h]
    rw [if_pos h] at hrecords
    omega
  · rw [if_neg h, if_neg h]
    rw [if_neg h] at hrecords
    omega

/-- A row that gives units up is followed by records that give up as many. -/
theorem follow_loss (hrecords : after + (if row then units else 0) = before)
    (hrow : new + units = old) :
    after + (if row then old else 0) = before + if row then new else 0 := by
  have h := follow_gain hrecords.symm hrow.symm
  omega

end Follow

/-! ### Units that come into being or disappear -/

section Steps

variable {b' : Balance} {units : Amount}

theorem lt_of_add?_one {counter id : UInt64} (h : Unsigned.add? counter 1 = some id) :
    counter.toNat < id.toNat := by
  rw [Unsigned.toNat_of_add? h]
  exact Nat.lt_succ_self _

theorem cleared_le_iff {b : Balance} :
    b.cleared ≤ b.free ↔ (b.get .cleared).toNat ≤ (b.get .free).toNat :=
  UInt64.le_iff_toNat_le

/-- Missing units arrive in a row. -/
theorem InTransit.receive {partition : Partition} (h : l.InTransit partition units.toNat)
    {holder : Address} (hbalance : (l.balanceOf holder partition).credit? .free units = some b') :
    (l.withRow holder partition b').Consistent := by
  have hget := Balance.toNat_get_of_credit? hbalance
  have hsum := Balance.sum_of_credit? hbalance nofun
  refine consistent_of_inTransit_zero (h.withRow (fun k hk => ?_) ?_ (by omega))
  · have hkept := hget k
    rwa [if_neg (ne_free_of_mem_recorded hk), Nat.add_zero] at hkept
  · have hold := cleared_le_iff.mp (h.cleared_le holder partition)
    have hcleared := hget .cleared
    have hfree := hget .free
    rw [if_neg nofun] at hcleared
    rw [if_pos rfl] at hfree
    exact cleared_le_iff.mpr (by omega)

/-- Available units leave a row. -/
theorem InTransit.spend {partition : Partition} {missing : Int}
    (h : l.InTransit partition missing) {holder : Address}
    (hcovered : ((l.balanceOf holder partition).get .cleared).toNat + units.toNat ≤
      ((l.balanceOf holder partition).get .free).toNat)
    (hbalance : (l.balanceOf holder partition).debit? .free units = some b') :
    (l.withRow holder partition b').InTransit partition (missing + units.toNat) := by
  have hget := Balance.toNat_get_of_debit? hbalance
  have hsum := Balance.sum_of_debit? hbalance nofun
  refine h.withRow (fun k hk => ?_) ?_ (by omega)
  · have hkept := hget k
    rwa [if_neg (ne_free_of_mem_recorded hk), Nat.add_zero] at hkept
  · have hcleared := hget .cleared
    have hfree := hget .free
    rw [if_neg nofun] at hcleared
    rw [if_pos rfl] at hfree
    exact cleared_le_iff.mpr (by omega)

theorem Consistent.mint (h : l.Consistent) {holder : Address} {partition : Partition}
    {supply : Amount} (hsupply : Unsigned.add? (l.totalSupply partition) units = some supply)
    (hall : l.totalSupplyAll + units.toNat ≤ Unsigned.greatest.toNat)
    (hbalance : (l.balanceOf holder partition).credit? .free units = some b') :
    ((l.withSupply partition supply).withRow holder partition b').Consistent := by
  have hnew := l.totalSupplyAll_withSupply partition supply
  have hadd := Unsigned.toNat_of_add? hsupply
  have htransit : (l.withSupply partition supply).InTransit partition units.toNat :=
    (h.inTransit_zero partition).withSupply (by omega) (by omega)
  refine htransit.receive ?_
  rw [balanceOf_withSupply]
  exact hbalance

theorem Consistent.burn (h : l.Consistent) {holder : Address} {partition : Partition}
    {supply : Amount} (havailable : units ≤ (l.balanceOf holder partition).available)
    (hsupply : Unsigned.sub? (l.totalSupply partition) units = some supply)
    (hbalance : (l.balanceOf holder partition).debit? .free units = some b') :
    ((l.withSupply partition supply).withRow holder partition b').Consistent := by
  have hnew := l.totalSupplyAll_withSupply partition supply
  have hfits := h.supply_le
  obtain ⟨hle, hsub⟩ := Unsigned.toNat_of_sub? hsupply
  -- the supply is lowered first, so the rows have a surplus until the row is written
  have hsurplus : (l.withSupply partition supply).InTransit partition (-(units.toNat : Int)) :=
    (h.inTransit_zero partition).withSupply (by omega) (by omega)
  have hcovered := h.le_of_le_available havailable
  rw [← balanceOf_withSupply l partition supply] at hcovered hbalance
  have hspent := hsurplus.spend hcovered hbalance
  rw [Int.add_left_neg] at hspent
  exact consistent_of_inTransit_zero hspent

/-! ### Units that change their bucket -/

/-- The free units of a row after a move out of them or into them. -/
theorem cleared_le_of_move? {b b' : Balance} {source target : Bucket} {units : Amount}
    (hbalance : b.move? source target units = some b') (hsource : source ≠ .cleared)
    (htarget : target ≠ .cleared)
    (hcovered : (b.get .cleared).toNat + (if source = .free then units.toNat else 0) ≤
      (b.get .free).toNat) : b'.cleared ≤ b'.free := by
  have hcleared := Balance.toNat_get_of_move? hbalance .cleared
  have hfree := Balance.toNat_get_of_move? hbalance .free
  rw [if_neg hsource.symm, if_neg htarget.symm] at hcleared
  simp only [eq_comm (a := Bucket.free)] at hfree
  exact cleared_le_iff.mpr (by omega)

/-- Units of a row move between buckets that no record explains. -/
theorem Consistent.moveUnrecorded (h : l.Consistent) {holder : Address} {partition : Partition}
    {source target : Bucket} (hsource : source ∉ Bucket.recorded)
    (htarget : target ∉ Bucket.recorded)
    (hbalance : (l.balanceOf holder partition).move? source target units = some b')
    (hcovered : ((l.balanceOf holder partition).get .cleared).toNat +
      (if source = .free then units.toNat else 0) ≤
        ((l.balanceOf holder partition).get .free).toNat) :
    (l.withRow holder partition b').Consistent := by
  have hreserved : Bucket.cleared ∈ Bucket.recorded := by decide
  have hs := (ne_of_mem_of_not_mem hreserved hsource).symm
  have ht := (ne_of_mem_of_not_mem hreserved htarget).symm
  have hget := Balance.toNat_get_of_move? hbalance
  have hsum := Balance.sum_of_move? hbalance hs ht
  refine consistent_of_inTransit_zero ((h.inTransit_zero partition).withRow (fun k hk => ?_)
    (cleared_le_of_move? hbalance hs ht hcovered) (by omega))
  have hkept := hget k
  rwa [if_neg (ne_of_mem_of_not_mem hk hsource), if_neg (ne_of_mem_of_not_mem hk htarget)] at hkept

theorem Consistent.freeze (h : l.Consistent) {holder : Address} {partition : Partition}
    (havailable : units ≤ (l.balanceOf holder partition).available)
    (hbalance : (l.balanceOf holder partition).move? .free .frozen units = some b') :
    (l.withRow holder partition b').Consistent := by
  have hcovered := h.le_of_le_available havailable
  exact h.moveUnrecorded (by decide) (by decide) hbalance (by rwa [if_pos rfl])

theorem Consistent.unfreeze (h : l.Consistent) {holder : Address} {partition : Partition}
    (hbalance : (l.balanceOf holder partition).move? .frozen .free units = some b') :
    (l.withRow holder partition b').Consistent := by
  have hcovered := cleared_le_iff.mp (h.cleared_le holder partition)
  exact h.moveUnrecorded (by decide) (by decide) hbalance (by rwa [if_neg nofun])

/-- A row encumbers more units, and a new record explains them. -/
theorem Consistent.encumber (h : l.Consistent) (kind : RecordKind) {r : kind.Record}
    (hid : Unsigned.add? (l.counterOf kind) 1 = some (kind.idOf r))
    (hget : ∀ k ∈ Bucket.recorded, (b'.get k).toNat =
      ((l.balanceOf (kind.holderOf r) (kind.partitionOf r)).get k).toNat +
        if k = kind.bucket then (kind.amountOf r).toNat else 0)
    (hcleared : b'.cleared ≤ b'.free)
    (hsum : b'.sum = (l.balanceOf (kind.holderOf r) (kind.partitionOf r)).sum) :
    ((l.withRecords kind (kind.idOf r) ((l.recordsOf kind).insert (kind.idOf r) r)).withRow
      (kind.holderOf r) (kind.partitionOf r) b').Consistent := by
  have hbehind := lt_of_add?_one hid
  have hnumbered := numbered_withRecords h.numbered ((h.numbered kind).insert hbehind rfl)
  refine consistent_of_inTransit_zero ((h.inTransit_zero (kind.partitionOf r)).write _
    books_withRecords registry_withRecords hnumbered (fun a q k hk => ?_) hcleared (by omega))
  exact follow_gain (recorded_insert kind _ ((h.numbered kind).fresh hbehind) a q k) (hget k hk)

/-- A row encumbers fewer units, and the records of the kind explain as many fewer. -/
theorem Consistent.disencumber (h : l.Consistent) (kind : RecordKind)
    {records : SortedMap UInt64 kind.Record} {holder : Address} {partition : Partition}
    {missing : Int} (hnumbered : Numbered records kind.idOf (l.counterOf kind))
    (hrecords : ∀ a q k, (l.withRecords kind (l.counterOf kind) records).recorded a q k +
      (if a = holder ∧ q = partition then (if k = kind.bucket then units.toNat else 0) else 0) =
        l.recorded a q k)
    (hget : ∀ k ∈ Bucket.recorded,
      (b'.get k).toNat + (if k = kind.bucket then units.toNat else 0) =
        ((l.balanceOf holder partition).get k).toNat)
    (hcleared : b'.cleared ≤ b'.free)
    (hsum : (b'.sum : Int) + missing = (l.balanceOf holder partition).sum) :
    ((l.withRecords kind (l.counterOf kind) records).withRow holder partition b').InTransit
      partition missing := by
  refine (h.inTransit_zero partition).write _ books_withRecords registry_withRecords
    (numbered_withRecords h.numbered hnumbered) (fun a q k hk => ?_) hcleared (by omega)
  exact follow_loss (hrecords a q k) (hget k hk)

/-- Available units of a row are locked or held. -/
theorem Consistent.setAside (h : l.Consistent) (kind : RecordKind) {r : kind.Record}
    (hcounted : kind.bucket ≠ .cleared)
    (hid : Unsigned.add? (l.counterOf kind) 1 = some (kind.idOf r))
    (havailable : kind.amountOf r ≤
      (l.balanceOf (kind.holderOf r) (kind.partitionOf r)).available)
    (hbalance : (l.balanceOf (kind.holderOf r) (kind.partitionOf r)).move? .free kind.bucket
      (kind.amountOf r) = some b') :
    ((l.withRecords kind (kind.idOf r) ((l.recordsOf kind).insert (kind.idOf r) r)).withRow
      (kind.holderOf r) (kind.partitionOf r) b').Consistent := by
  have hget := Balance.toNat_get_of_move? hbalance
  have hcovered := h.le_of_le_available havailable
  refine h.encumber kind hid (fun k hk => ?_)
    (cleared_le_of_move? hbalance nofun hcounted (by rwa [if_pos rfl]))
    (Balance.sum_of_move? hbalance nofun hcounted)
  have hk' := hget k
  rwa [if_neg (ne_free_of_mem_recorded hk)] at hk'

/-- Locked or held units of a row become free. -/
theorem Consistent.setFree (h : l.Consistent) (kind : RecordKind)
    (hcounted : kind.bucket ≠ .cleared) {records : SortedMap UInt64 kind.Record}
    {holder : Address} {partition : Partition}
    (hnumbered : Numbered records kind.idOf (l.counterOf kind))
    (hrecords : ∀ a q k, (l.withRecords kind (l.counterOf kind) records).recorded a q k +
      (if a = holder ∧ q = partition then (if k = kind.bucket then units.toNat else 0) else 0) =
        l.recorded a q k)
    (hbalance : (l.balanceOf holder partition).move? kind.bucket .free units = some b') :
    ((l.withRecords kind (l.counterOf kind) records).withRow holder partition
      b').Consistent := by
  have hget := Balance.toNat_get_of_move? hbalance
  have hsum := Balance.sum_of_move? hbalance hcounted nofun
  have hcovered := cleared_le_iff.mp (h.cleared_le holder partition)
  have hbucket : kind.bucket ≠ .free := ne_free_of_mem_recorded kind.bucket_mem_recorded
  refine consistent_of_inTransit_zero (h.disencumber kind hnumbered hrecords (fun k hk => ?_)
    (cleared_le_of_move? hbalance hcounted nofun (by rwa [if_neg hbucket])) (by omega))
  have hk' := hget k
  rwa [if_neg (ne_free_of_mem_recorded hk)] at hk'

theorem Consistent.dropLock (h : l.Consistent) {id : LockId} {r : Lock}
    (hget? : l.locks.get? id = some r)
    (hbalance : (l.balanceOf r.holder r.partition).move? .locked .free r.amount = some b') :
    ({ l with locks := l.locks.erase id }.withRow r.holder r.partition b').Consistent :=
  h.setFree .lock nofun (h.locks_numbered.erase id) (recorded_erase .lock l.lockCounter hget?)
    hbalance

theorem numbered_withHoldRest (h : l.Consistent) {id : HoldId} {r : Hold}
    (hget? : l.holds.get? id = some r) (rest : Amount) :
    Numbered (l.withHoldRest id r rest).holds Hold.id l.holdCounter := by
  unfold withHoldRest
  split
  · exact h.holds_numbered.erase id
  · exact h.holds_numbered.replace hget? rfl

/-- Held units of a hold become free for their holder. -/
theorem Consistent.freeHold (h : l.Consistent) {id : HoldId} {r : Hold} {rest : Amount}
    (hget? : l.holds.get? id = some r) (hrest : Unsigned.sub? r.amount units = some rest)
    (hbalance : (l.balanceOf r.holder r.partition).move? .held .free units = some b') :
    ((l.withHoldRest id r rest).withRow r.holder r.partition b').Consistent := by
  obtain ⟨hle, hsub⟩ := Unsigned.toNat_of_sub? hrest
  have hparts : rest.toNat + units.toNat = r.amount.toNat := by omega
  exact h.setFree .hold nofun (numbered_withHoldRest h hget? rest)
    (recorded_withHoldRest hget? hparts) hbalance

/-- Held units of a hold leave the row of their holder. -/
theorem Consistent.payOut (h : l.Consistent) {id : HoldId} {r : Hold} {rest : Amount}
    (hget? : l.holds.get? id = some r) (hrest : Unsigned.sub? r.amount units = some rest)
    (hbalance : (l.balanceOf r.holder r.partition).debit? .held units = some b') :
    ((l.withHoldRest id r rest).withRow r.holder r.partition b').InTransit r.partition
      units.toNat := by
  have hget := Balance.toNat_get_of_debit? hbalance
  have hsum := Balance.sum_of_debit? hbalance nofun
  have hcovered := cleared_le_iff.mp (h.cleared_le r.holder r.partition)
  obtain ⟨hle, hsub⟩ := Unsigned.toNat_of_sub? hrest
  have hparts : rest.toNat + units.toNat = r.amount.toNat := by omega
  refine h.disencumber .hold (numbered_withHoldRest h hget? rest)
    (recorded_withHoldRest hget? hparts) (fun k _ => hget k) (cleared_le_iff.mpr ?_) (by omega)
  have hcleared := hget .cleared
  have hfree := hget .free
  rw [if_neg nofun] at hcleared hfree
  omega

/-! ### Reservations -/

theorem Consistent.addClearing (h : l.Consistent) {r : Clearing}
    (hid : Unsigned.add? l.clearingCounter 1 = some r.id)
    (havailable : r.amount ≤ (l.balanceOf r.source r.partition).available)
    (hbalance : (l.balanceOf r.source r.partition).credit? .cleared r.amount = some b') :
    ({ l with clearingCounter := r.id, clearings := l.clearings.insert r.id r }.withRow r.source
      r.partition b').Consistent := by
  have hget := Balance.toNat_get_of_credit? hbalance
  have hcovered := h.le_of_le_available havailable
  refine h.encumber .clearing hid (fun k _ => hget k) (cleared_le_iff.mpr ?_)
    (Balance.sum_of_credit?_cleared hbalance)
  have hcleared := hget .cleared
  have hfree := hget .free
  rw [if_pos rfl] at hcleared
  rw [if_neg nofun] at hfree
  omega

theorem Consistent.dropClearing (h : l.Consistent) {id : ClearingId} {r : Clearing}
    (hget? : l.clearings.get? id = some r)
    (hbalance : (l.balanceOf r.source r.partition).debit? .cleared r.amount = some b') :
    ({ l with clearings := l.clearings.erase id }.withRow r.source r.partition
      b').Consistent := by
  have hget := Balance.toNat_get_of_debit? hbalance
  have hsum := Balance.sum_of_debit?_cleared hbalance
  have hcovered := cleared_le_iff.mp (h.cleared_le r.source r.partition)
  refine consistent_of_inTransit_zero (h.disencumber .clearing (h.clearings_numbered.erase id)
    (recorded_erase .clearing l.clearingCounter hget?) (fun k _ => hget k)
    (cleared_le_iff.mpr ?_) (by omega))
  have hcleared := hget .cleared
  have hfree := hget .free
  rw [if_pos rfl] at hcleared
  rw [if_neg nofun] at hfree
  omega

/-- The reserved units of a clearing leave the row of its source. -/
theorem Consistent.settle (h : l.Consistent) {id : ClearingId} {r : Clearing} {b₁ : Balance}
    (hget? : l.clearings.get? id = some r)
    (hreserved : (l.balanceOf r.source r.partition).debit? .cleared r.amount = some b₁)
    (hbalance : b₁.debit? .free r.amount = some b') :
    ({ l with clearings := l.clearings.erase id }.withRow r.source r.partition b').InTransit
      r.partition r.amount.toNat := by
  have hget₁ := Balance.toNat_get_of_debit? hreserved
  have hget := Balance.toNat_get_of_debit? hbalance
  have hsum₁ := Balance.sum_of_debit?_cleared hreserved
  have hsum := Balance.sum_of_debit? hbalance nofun
  have hcovered := cleared_le_iff.mp (h.cleared_le r.source r.partition)
  refine h.disencumber .clearing (h.clearings_numbered.erase id)
    (recorded_erase .clearing l.clearingCounter hget?) (fun k hk => ?_)
    (cleared_le_iff.mpr ?_) (by omega)
  · have hk' := hget k
    rw [if_neg (ne_free_of_mem_recorded hk), Nat.add_zero] at hk'
    rw [hk']
    exact hget₁ k
  · have hcleared₁ := hget₁ .cleared
    have hfree₁ := hget₁ .free
    have hcleared := hget .cleared
    have hfree := hget .free
    rw [if_pos rfl] at hcleared₁ hfree
    rw [if_neg nofun] at hfree₁ hcleared
    omega

end Steps

end Ledger

end CouponBond
