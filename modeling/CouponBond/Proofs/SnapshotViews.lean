import CouponBond.Proofs.Payout
import CouponBond.Proofs.RecordDateTriggers

/-!
# The views of a snapshot

A snapshot shows the balances of its moment three times: as a list of holders, as a total for each
of them, and as a balance for each partition and holder.  None of the three is read off the books
of the ledger.  They are put together from the registry of holders, so they are complete only
because the registry lists whoever owns something, and they fit each other only because no sum
over partitions is cut off.

## Main Definitions

* `Holdings.Shows` — the views fit each other, and the ledger they were taken of

## Main Results

* `Ledger.Consistent.shows` — what is taken of a consistent ledger shows it
* `Session.snapshots_show` — every snapshot shows the ledger that the command found which it was
  taken for
-/

namespace CouponBond

/-! ### Views of a ledger -/

namespace Holdings

/-- The views of balances fit each other and a ledger. -/
structure Shows (h : Holdings) (l : Ledger) : Prop where
  nodup_holders : h.holders.Nodup
  mem_holders_iff : ∀ a, a ∈ h.holders ↔ a ∈ h.totals.keys
  total_ne_zero : ∀ a total, h.totals.get? a = some total → total ≠ 0
  /-- The total of an account is what it has in the partitions that are shown. -/
  sum_balanceIn : ∀ a,
    (h.byPartition.keys.map fun q => (h.balanceIn a q).toNat).sum = (h.balanceOf a).toNat
  balanceOf_eq : ∀ a, h.balanceOf a = l.holdingOf a
  balanceIn_eq : ∀ a q, h.balanceIn a q = l.totalBalanceOf a q
  /-- Whoever is not listed has nothing, in no partition. -/
  absent : ∀ a, a ∉ h.holders → h.balanceOf a = 0 ∧ ∀ q, h.balanceIn a q = 0
  totalSupply_eq : h.totalSupply = l.totalSupplyAll

variable {l : Ledger}

theorem get?_byPartition_ofLedger (l : Ledger) (q : Partition) :
    (ofLedger l).byPartition.get? q =
      if q ∈ l.registry.knownPartitions then
        some (.ofList ((l.registry.holders q).map fun a => (a, l.totalBalanceOf a q)))
      else none :=
  SortedMap.get?_ofList_map (fun q : Partition => SortedMap.ofList
    ((l.registry.holders q).map fun a => (a, l.totalBalanceOf a q))) _ q

theorem mem_keys_byPartition_ofLedger {q : Partition} :
    q ∈ (ofLedger l).byPartition.keys ↔ q ∈ l.registry.knownPartitions := by
  rw [SortedMap.mem_keys_iff, get?_byPartition_ofLedger]
  split <;> simp_all

end Holdings

/-- A partition with a holder is on record. -/
theorem Registry.mem_knownPartitions {r : Registry} {a : Address} {q : Partition}
    (h : a ∈ r.holders q) : q ∈ r.knownPartitions := by
  unfold holders roster at h
  cases hroster : r.partitions.get? q with
  | none =>
    rw [hroster] at h
    cases h
  | some roster => exact SortedMap.mem_keys_iff.mpr ⟨roster, hroster⟩

namespace Ledger.Consistent

variable {l : Ledger}

/-- The balance of a partition, whether or not the partition and the account are on record. -/
theorem balanceIn_ofLedger (h : l.Consistent) (a : Address) (q : Partition) :
    (Holdings.ofLedger l).balanceIn a q = l.totalBalanceOf a q := by
  unfold Holdings.balanceIn
  rw [Holdings.get?_byPartition_ofLedger]
  by_cases ha : a ∈ l.registry.holders q
  · rw [if_pos (Registry.mem_knownPartitions ha), Option.getD_some,
      SortedMap.get?_ofList_map (l.totalBalanceOf · q), if_pos ha, Option.getD_some]
  · have hzero : l.totalBalanceOf a q = 0 :=
      Decidable.byContradiction fun hne => ha ((h.mem_holders_iff q a).mpr hne)
    rw [hzero]
    split
    · rw [Option.getD_some, SortedMap.get?_ofList_map (l.totalBalanceOf · q), if_neg ha]
      rfl
    · rfl

/-- What an account owns is what it has in the partitions on record: no sum is cut off, and no
partition in which it has something is missing. -/
theorem sum_balanceIn_ofLedger (h : l.Consistent) (a : Address) :
    ((Holdings.ofLedger l).byPartition.keys.map fun q =>
        ((Holdings.ofLedger l).balanceIn a q).toNat).sum = (l.holdingOf a).toNat := by
  have hrow : ∀ q, ((Holdings.ofLedger l).balanceIn a q).toNat =
      (l.books.get? q).elim 0 fun b => (b.balanceOf a).sum := by
    intro q
    rw [h.balanceIn_ofLedger, h.exact.total, balanceOf, book]
    cases l.books.get? q <;> rfl
  simp only [hrow]
  rw [h.exact.holding]
  refine l.books.sum_map_get? _ (SortedMap.nodup_keys _) fun q b hb hne => ?_
  have hlisted : a ∈ l.registry.holders q := by
    refine (h.mem_holders_iff q a).mpr fun hzero => hne ?_
    have hexact := h.exact.total a q
    rw [hzero, balanceOf, book, hb] at hexact
    exact hexact.symm
  exact Holdings.mem_keys_byPartition_ofLedger.mpr (Registry.mem_knownPartitions hlisted)

/-- What is taken of a consistent ledger shows it. -/
theorem shows (h : l.Consistent) : (Holdings.ofLedger l).Shows l where
  nodup_holders := l.registry.nodup_allHolders
  mem_holders_iff a := by
    rw [SortedMap.mem_keys_iff, Holdings.get?_totals_ofLedger]
    show a ∈ l.registry.allHolders ↔ _
    split <;> simp_all
  total_ne_zero a total htotal := by
    rw [Holdings.get?_totals_ofLedger] at htotal
    split at htotal
    · next ha =>
      cases htotal
      exact (h.mem_allHolders_iff a).mp ha
    · cases htotal
  sum_balanceIn a := by
    rw [Holdings.balanceOf_ofLedger h]
    exact h.sum_balanceIn_ofLedger a
  balanceOf_eq := Holdings.balanceOf_ofLedger h
  balanceIn_eq := h.balanceIn_ofLedger
  absent a ha := by
    have hzero : l.holdingOf a = 0 :=
      Decidable.byContradiction fun hne => ha ((h.mem_allHolders_iff a).mpr hne)
    refine ⟨(Holdings.balanceOf_ofLedger h a).trans hzero, fun q => ?_⟩
    exact (h.balanceIn_ofLedger a q).trans (holdingOf_eq_zero_iff.mp hzero q)
  totalSupply_eq := h.totalSupply_ofLedger

end Ledger.Consistent

/-! ### Snapshots of a history -/

namespace Session

variable {config : Config} {s : Session} {place : Nat} {snapshot : Snapshot}

/-- A command that is applied to a session commits a snapshot at a place of its book, of the
ledger that it found. -/
structure Commits (s : Session) (guards : GuardChain) (operator : Option Address)
    (command : Command) (place : Nat) (snapshot : Snapshot) : Prop where
  applied : ∃ outcome b',
    Bond.execute ⟨s.clock.now, guards, operator⟩ command s.bond = .ok outcome b' ∧
      b'.snapshots.snapshots[place]? = some snapshot
  /-- The place was empty before. -/
  fresh : s.bond.snapshots.count ≤ place
  takenAt_eq : snapshot.takenAt = s.clock.now
  shows_ledger : snapshot.holdings.Shows s.bond.ledger

/-- A snapshot that is there after a move was there before it, or the move commits it. -/
theorem Sound.snapshot_of_step (h : s.Sound config) (move : Move)
    (hat : (s.step move).2.bond.snapshots.snapshots[place]? = some snapshot) :
    s.bond.snapshots.snapshots[place]? = some snapshot ∨ ∃ guards operator command,
      move = .command guards operator command ∧
        s.Commits guards operator command place snapshot := by
  have hseen := h.alike_or_performed move
  cases move with
  | command guards operator command =>
    have hspec := Bond.execute_spec ⟨s.clock.now, guards, operator⟩ h.consistent command
    rw [step_command] at hat
    dsimp only at hat
    cases hm : Bond.execute ⟨s.clock.now, guards, operator⟩ command s.bond with
    | error e b' =>
      rw [Bond.after_of_error hm, (hspec.of_error hm).1] at hat
      exact .inl hat
    | ok outcome b' =>
      obtain ⟨facts, changed, hperformed, rfl⟩ := hspec.of_ok hm
      obtain ⟨triggers, taken, hcatches⟩ := hperformed.catchesUp h.agrees
      rw [Bond.after_of_ok hm] at hat
      by_cases hold : place < s.bond.snapshots.count
      · rw [hcatches.snapshots_eq, List.getElem?_append_left hold] at hat
        exact .inl hat
      · have hfresh : s.bond.snapshots.count ≤ place := Nat.le_of_not_lt hold
        have htaken : snapshot ∈ taken := by
          rw [hcatches.snapshots_eq, List.getElem?_append_right hfresh] at hat
          exact List.mem_of_getElem? hat
        obtain ⟨htime, hholdings⟩ := hcatches.moment snapshot htaken
        refine .inr ⟨guards, operator, command, rfl, ⟨outcome, _, hm, hat⟩, hfresh, htime, ?_⟩
        rw [hholdings]
        exact h.consistent.shows
  | _ =>
    obtain halike | ⟨_, _, _, _, _, _, hcommand, -⟩ := hseen
    · rw [halike.congr Bond.snapshots fun _ _ => rfl] at hat
      exact .inl hat
    · cases hcommand

/-- A snapshot that is there after a history was there before it, or was committed in it. -/
theorem Sound.snapshot_of_run (h : s.Sound config) (moves : List Move)
    (hat : (s.run moves).bond.snapshots.snapshots[place]? = some snapshot) :
    s.bond.snapshots.snapshots[place]? = some snapshot ∨
      ∃ earlier guards operator command later,
        moves = earlier ++ .command guards operator command :: later ∧
          (s.run earlier).Commits guards operator command place snapshot := by
  induction moves generalizing s with
  | nil => exact .inl hat
  | cons move rest ih =>
    obtain hthere | ⟨earlier, guards, operator, command, later, rfl, hcommits⟩ :=
      ih (h.step move) hat
    · obtain hbefore | ⟨guards, operator, command, rfl, hcommits⟩ := h.snapshot_of_step move hthere
      · exact .inl hbefore
      · exact .inr ⟨[], guards, operator, command, rest, rfl, hcommits⟩
    · exact .inr ⟨move :: earlier, guards, operator, command, later, rfl, hcommits⟩

/-- Every snapshot of a bond that was opened was committed by a command of its history, and its
views show the ledger that this command found. -/
theorem snapshots_show {b : Bond} (hcreate : Bond.create config = .ok b) (start : Clock)
    (history : List Move) (place : Nat) (snapshot : Snapshot)
    (hat : ((⟨b, start⟩ : Session).run history).bond.snapshots.snapshots[place]? =
      some snapshot) :
    ∃ earlier guards operator command later,
      history = earlier ++ .command guards operator command :: later ∧
        ((⟨b, start⟩ : Session).run earlier).Commits guards operator command place snapshot := by
  obtain hthere | hcommitted := (sound_of_create hcreate start).snapshot_of_run history hat
  · obtain ⟨-, rfl⟩ := Bond.create_eq_ok_iff.mp hcreate
    cases hthere
  · exact hcommitted

/-- The transfer of three units commits the snapshot of the moment before it, when all ten units
were with their first holder. -/
theorem sample_snapshot_shows :
    ∃ snapshot, (sampleStart.run sampleHistory).bond.snapshots.snapshots[0]? = some snapshot ∧
      snapshot.holdings.holders = [.ofLow 7] ∧ snapshot.holdings.balanceOf (.ofLow 7) = 10 ∧
      ∃ earlier guards operator command later,
        sampleHistory = earlier ++ .command guards operator command :: later ∧
          (sampleStart.run earlier).Commits guards operator command 0 snapshot := by
  have hcreate : Bond.create Bond.sampleConfig = .ok sampleStart.bond := rfl
  refine ⟨_, rfl, rfl, by decide, ?_⟩
  exact snapshots_show hcreate ⟨5⟩ sampleHistory 0 _ rfl

end Session

end CouponBond
