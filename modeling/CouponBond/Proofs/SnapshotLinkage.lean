import CouponBond.Proofs.SnapshotLinks
import Mathlib.Data.Set.Function
import Mathlib.Order.Interval.Set.Defs

/-!
# What the checks of a saved state say about its snapshots

A saved state may come from anywhere, and so may the numbers by which its actions and snapshots
name each other.  The checks go over the actions and over the snapshots once each, and look in one
direction each time.  Together they accept exactly the states in which the numbers of snapshots
that actions name are the places of the snapshots, one action for each, and in which every snapshot
was taken for the action that names it.

The number of the next snapshot is then free.  It is counted in a word, but there is one word less
that addresses an action than there are words, so the count cannot come round as long as an action
waits for its snapshot.

## Main Definitions

* `Checkpoint.naming` — the actions of a state that name a snapshot
* `Checkpoint.CrossNamed` — what the two scans find

## Main Results

* `Checkpoint.crossNamed_iff_bijOn` — the scans accept one-to-one states only, and all of them
* `SnapshotBook.commit_eq_cons` — the first snapshot that is kept gets the next number
* `Checkpoint.snapshot_numbers_exact` — the checks of a state, and the number behind its snapshots
-/

namespace CouponBond

variable {s : ActionStore} {c : Checkpoint}

/-! ### Numbers that no action names -/

namespace ActionStore

/-- There is a number of snapshots that no addressable action names: 0 addresses no action, so
there are too few of them. -/
theorem exists_unnamed (s : ActionStore) :
    ∃ number : SnapshotId, ∀ id a, s.get? id = .ok a → a.snapshotId ≠ number := by
  by_contra hall
  push Not at hall
  have hnumbers : List.range UInt64.size ⊆
      (s.actions.take (UInt64.size - 1)).map fun a => a.snapshotId.toNat := by
    intro number hnumber
    obtain ⟨id, a, hget, hnamed⟩ := hall (UInt64.ofNat number)
    have hat : s.actions[id.toNat - 1]? = some a := by
      unfold get? at hget
      cases hnth : nth? s.actions id with
      | none =>
        rw [hnth] at hget
        cases hget
      | some e =>
        rw [hnth] at hget
        cases hget
        exact (nth?_eq_some_iff.mp hnth).2
    have hplace : id.toNat - 1 < UInt64.size - 1 := by
      have := id.toNat_lt_size
      have : 1 < UInt64.size := by decide
      omega
    refine List.mem_map.mpr ⟨a, List.mem_of_getElem? (i := id.toNat - 1) ?_, ?_⟩
    · rw [List.getElem?_take_of_lt hplace, hat]
    · rw [hnamed, UInt64.toNat_ofNat_of_lt' (List.mem_range.mp hnumber)]
  have hle := (List.subperm_of_subset List.nodup_range hnumbers).length_le
  rw [List.length_range, List.length_map, List.length_take] at hle
  have : 0 < UInt64.size := by decide
  omega

end ActionStore

/-! ### The two scans -/

namespace Checkpoint

/-- The actions of a state that name a snapshot. -/
def naming (c : Checkpoint) : Set Action := {a | a ∈ c.actions.actions ∧ a.snapshotId ≠ 0}

/-- What the scan over the actions and the one over the snapshots find in a state. -/
structure CrossNamed (c : Checkpoint) : Prop where
  owner : ∀ a ∈ c.naming,
    ∃ snapshot, c.snapshots.get? a.snapshotId = some snapshot ∧ snapshot.actionId = a.id
  named : ∀ (place : Nat) (snapshot : Snapshot), c.snapshots.snapshots[place]? = some snapshot →
    ∃ a, c.actions.get? snapshot.actionId = .ok a ∧ a.snapshotId = UInt64.ofNat (place + 1)

theorem check_eq_ok_iff_crossNamed : c.check = .ok () ↔ c.ledger.Consistent ∧ c.CrossNamed := by
  have howner : (∀ a ∈ c.actions.actions, a.hasSnapshot = true →
      ∃ snapshot, c.snapshots.get? a.snapshotId = some snapshot ∧ snapshot.actionId = a.id) ↔
      ∀ a ∈ c.naming,
        ∃ snapshot, c.snapshots.get? a.snapshotId = some snapshot ∧ snapshot.actionId = a.id := by
    simp only [naming, Set.mem_ofPred_eq, and_imp, Action.hasSnapshot, bne_iff_ne]
  rw [check_eq_ok_iff, howner]
  constructor
  · rintro ⟨hledger, howner, hnamed⟩
    exact ⟨hledger, howner, hnamed⟩
  · rintro ⟨hledger, h⟩
    exact ⟨hledger, h.owner, h.named⟩

/-- A number in the range of the snapshots is named by an action that a snapshot leads to. -/
theorem CrossNamed.exists_named (h : c.CrossNamed) {number : SnapshotId} (hne : number ≠ 0)
    (hle : number.toNat ≤ c.snapshots.count) :
    ∃ id a, c.actions.get? id = .ok a ∧ a.snapshotId = number := by
  obtain ⟨place, hplace⟩ : ∃ place, number.toNat = place + 1 :=
    Nat.exists_eq_succ_of_ne_zero fun hzero => hne (UInt64.toNat_inj.mp hzero)
  have hlt : place < c.snapshots.snapshots.length := by
    unfold SnapshotBook.count at hle
    omega
  obtain ⟨a, hget, hnamed⟩ := h.named place _ (List.getElem?_eq_getElem hlt)
  refine ⟨_, a, hget, ?_⟩
  rw [hnamed, ← hplace, UInt64.ofNat_toNat]

/-- There are fewer snapshots than words. -/
theorem CrossNamed.count_lt (h : c.CrossNamed) : c.snapshots.count < UInt64.size := by
  refine Nat.lt_of_not_le fun hle => ?_
  obtain ⟨number, hunnamed⟩ := c.actions.exists_unnamed
  by_cases hzero : number = 0
  · -- the place that is counted as 0 once the words are used up
    have hlast : UInt64.size - 1 < c.snapshots.snapshots.length :=
      Nat.lt_of_lt_of_le (by decide) hle
    obtain ⟨a, hget, hnamed⟩ := h.named _ _ (List.getElem?_eq_getElem hlast)
    refine hunnamed _ a hget ?_
    rw [hnamed, hzero]
    rfl
  · obtain ⟨id, a, hget, hnamed⟩ :=
      h.exists_named hzero (Nat.le_trans (Nat.le_of_lt number.toNat_lt_size) hle)
    exact hunnamed id a hget hnamed

/-- As long as an addressable action names no snapshot, there is a word for one more. -/
theorem CrossNamed.count_succ_lt (h : c.CrossNamed) {id : ActionId} {a : Action}
    (hget : c.actions.get? id = .ok a) (hnone : a.snapshotId = 0) :
    c.snapshots.count + 1 < UInt64.size := by
  refine Nat.lt_of_not_le fun hle => ?_
  obtain ⟨number, hunnamed⟩ := c.actions.exists_unnamed
  by_cases hzero : number = 0
  · exact hunnamed id a hget (hnone.trans hzero.symm)
  · have hrange := number.toNat_lt_size
    obtain ⟨id', e, hget', hnamed⟩ := h.exists_named hzero (by omega)
    exact hunnamed id' e hget' hnamed

/-- The number that an action names is the place of a snapshot. -/
theorem CrossNamed.mem_Icc (h : c.CrossNamed) {a : Action} (ha : a ∈ c.naming) :
    a.snapshotId.toNat ∈ Set.Icc 1 c.snapshots.count := by
  obtain ⟨snapshot, hsnapshot, -⟩ := h.owner a ha
  obtain ⟨hne, hat⟩ := nth?_eq_some_iff.mp hsnapshot
  obtain ⟨hlt, -⟩ := List.getElem?_eq_some_iff.mp hat
  have hplace := toNat_eq_succ_iff.mpr ⟨hne, rfl⟩
  rw [Set.mem_Icc, SnapshotBook.count]
  omega

/-- No two actions name one snapshot. -/
theorem CrossNamed.injOn (h : c.CrossNamed) (hplaced : c.actions.Placed) :
    Set.InjOn (fun a : Action => a.snapshotId.toNat) c.naming := by
  intro a ha e he hsame
  obtain ⟨snapshot, hsnapshot, howner⟩ := h.owner a ha
  obtain ⟨snapshot', hsnapshot', howner'⟩ := h.owner e he
  rw [UInt64.toNat_inj.mp hsame, hsnapshot'] at hsnapshot
  cases hsnapshot
  exact hplaced.eq_of_id_eq ha.1 he.1 (howner.symm.trans howner')

/-- Every place of a snapshot is named by an action. -/
theorem CrossNamed.surjOn (h : c.CrossNamed) (hplaced : c.actions.Placed) :
    Set.SurjOn (fun a : Action => a.snapshotId.toNat) c.naming (Set.Icc 1 c.snapshots.count) := by
  rintro number ⟨hpos, hle⟩
  have htoNat := UInt64.toNat_ofNat_of_lt' (Nat.lt_of_le_of_lt hle h.count_lt)
  have hne : UInt64.ofNat number ≠ 0 := by
    intro hzero
    rw [hzero] at htoNat
    exact Nat.ne_of_lt hpos htoNat
  obtain ⟨id, a, hget, hnamed⟩ := h.exists_named hne (htoNat.symm ▸ hle)
  refine ⟨a, ⟨(hplaced.get?_eq_ok_iff.mp hget).1, hnamed ▸ hne⟩, ?_⟩
  dsimp only
  rw [hnamed, htoNat]

/-- The scans accept a state of numbered actions exactly when the numbers that actions name are
the places of the snapshots, one to one, and every snapshot was taken for the action that names
its place. -/
theorem crossNamed_iff_bijOn (hplaced : c.actions.Placed) : c.CrossNamed ↔
    Set.BijOn (fun a : Action => a.snapshotId.toNat) c.naming (Set.Icc 1 c.snapshots.count) ∧
    ∀ (place : Nat) (snapshot : Snapshot), c.snapshots.snapshots[place]? = some snapshot →
      ∀ a ∈ c.naming, a.snapshotId.toNat = place + 1 → a.id = snapshot.actionId := by
  constructor
  · intro h
    refine ⟨⟨fun a ha => h.mem_Icc ha, h.injOn hplaced, h.surjOn hplaced⟩, ?_⟩
    intro place snapshot hat a ha hplace
    obtain ⟨snapshot', hsnapshot, howner⟩ := h.owner a ha
    obtain ⟨-, hat'⟩ := nth?_eq_some_iff.mp hsnapshot
    rw [(toNat_eq_succ_iff.mp hplace).2, hat] at hat'
    cases hat'
    exact howner.symm
  · rintro ⟨⟨hmaps, -, hsurj⟩, hinverse⟩
    constructor
    · intro a ha
      obtain ⟨hpos, hle⟩ := hmaps ha
      dsimp only at hpos hle
      have hlt : a.snapshotId.toNat - 1 < c.snapshots.snapshots.length := by
        unfold SnapshotBook.count at hle
        omega
      have hat := List.getElem?_eq_getElem hlt
      refine ⟨_, nth?_eq_some_iff.mpr ⟨ha.2, hat⟩, (hinverse _ _ hat a ha ?_).symm⟩
      omega
    · intro place snapshot hat
      obtain ⟨hlt, -⟩ := List.getElem?_eq_some_iff.mp hat
      obtain ⟨a, ha, hplace⟩ := hsurj (show place + 1 ∈ Set.Icc 1 c.snapshots.count from
        ⟨Nat.le_add_left 1 place, hlt⟩)
      dsimp only at hplace
      refine ⟨a, ?_, ?_⟩
      · rw [← hinverse place snapshot hat a ha hplace]
        exact hplaced.get?_of_mem ha.1
      · rw [← hplace, UInt64.ofNat_toNat]

end Checkpoint

/-! ### The next snapshot -/

namespace SnapshotBook

/-- An action is linked to a snapshot only if it names none. -/
theorem unnamed_of_linkSnapshot? {id : ActionId} {number : SnapshotId} {s' : ActionStore}
    (h : s.linkSnapshot? id number = .ok (true, s')) :
    ∃ id' a, s.get? id' = .ok a ∧ a.snapshotId = 0 := by
  unfold ActionStore.linkSnapshot? at h
  obtain ⟨found, -, h⟩ := Ledger.bind_eq_ok_iff_exists.mp h
  obtain ⟨target, htarget, h⟩ := Ledger.bind_eq_ok_iff_exists.mp h
  refine ⟨found.id, target, htarget, Action.hasSnapshot_eq_false_iff.mp ?_⟩
  cases hnamed : target.hasSnapshot with
  | false => rfl
  | true =>
    rw [hnamed] at h
    cases h

/-- The first of a list of captures that is kept gets the next number, and there was an
action that named no snapshot. -/
theorem commit_eq_cons {b : SnapshotBook} {captures : List Capture} {notice : SnapshotNotice}
    {more : List SnapshotNotice} (h : (b.commit s captures).1 = notice :: more) :
    notice.snapshotId = b.nextId ∧ ∃ id a, s.get? id = .ok a ∧ a.snapshotId = 0 := by
  induction captures generalizing b with
  | nil => cases h
  | cons c rest ih =>
    have hone := commitOne_eq_link b s c
    unfold commit at h
    split at hone
    · next hlink =>
      rw [hone] at h
      obtain ⟨rfl, -⟩ := List.cons.inj h
      exact ⟨rfl, unnamed_of_linkSnapshot? hlink⟩
    · -- nothing was kept, and the next number is still the same
      rw [hone] at h
      exact ih (b := b.withoutTrigger c) h

end SnapshotBook

namespace Checkpoint

/-- Let the actions of a saved state be numbered by their places, and let its ledger pass the
audits.  Then the state passes the checks exactly when the numbers of snapshots that actions name
are the places of the snapshots, one to one, and every snapshot was taken for the action that names
its place.  And behind any state that passes, the next capture that is kept gets the number of the
next place, which no action names. -/
theorem snapshot_numbers_exact (c : Checkpoint) :
    (c.actions.Placed → c.ledger.auditSupply = .ok () → c.ledger.auditRecords = .ok () →
      (c.check = .ok () ↔
        Set.BijOn (fun a : Action => a.snapshotId.toNat)
          {a | a ∈ c.actions.actions ∧ a.snapshotId ≠ 0} (Set.Icc 1 c.snapshots.count) ∧
        ∀ (place : Nat) (snapshot : Snapshot),
          c.snapshots.snapshots[place]? = some snapshot →
          ∀ a ∈ c.actions.actions, a.snapshotId.toNat = place + 1 → a.id = snapshot.actionId)) ∧
    (c.check = .ok () → ∀ agenda captures notice more,
      ((⟨c.snapshots.snapshots, agenda⟩ : SnapshotBook).commit c.actions captures).1 =
        notice :: more →
      notice.snapshotId.toNat = c.snapshots.count + 1 ∧
        ∀ a ∈ c.actions.actions, a.snapshotId ≠ notice.snapshotId) := by
  refine ⟨fun hplaced hsupply hrecords => ?_, fun hcheck agenda captures notice more hkept => ?_⟩
  · have hledger := Ledger.audits_iff_consistent.mp ⟨hsupply, hrecords⟩
    rw [check_eq_ok_iff_crossNamed, crossNamed_iff_bijOn hplaced]
    have hnaming {a : Action} {place : Nat} (hplace : a.snapshotId.toNat = place + 1) :
        a.snapshotId ≠ 0 := (toNat_eq_succ_iff.mp hplace).1
    constructor
    · rintro ⟨-, hbijOn, hinverse⟩
      exact ⟨hbijOn, fun place snapshot hat a ha hplace =>
        hinverse place snapshot hat a ⟨ha, hnaming hplace⟩ hplace⟩
    · rintro ⟨hbijOn, hinverse⟩
      exact ⟨hledger, hbijOn, fun place snapshot hat a ha =>
        hinverse place snapshot hat a ha.1⟩
  · obtain ⟨-, h⟩ := check_eq_ok_iff_crossNamed.mp hcheck
    obtain ⟨hnumber, id, waiting, hget, hnone⟩ := SnapshotBook.commit_eq_cons hkept
    have htoNat : notice.snapshotId.toNat = c.snapshots.count + 1 := by
      rw [hnumber]
      exact UInt64.toNat_ofNat_of_lt' (h.count_succ_lt hget hnone)
    refine ⟨htoNat, fun a ha hsame => ?_⟩
    have hne := (toNat_eq_succ_iff.mp htoNat).1
    have hrange := (h.mem_Icc ⟨ha, hsame ▸ hne⟩).2
    rw [hsame, htoNat] at hrange
    omega

/-- Two coupons whose snapshots were taken the other way round, and a third one that waits for its
snapshot. -/
def crossedState : Checkpoint :=
  { Bond.sampleBond.checkpoint 60 with
    actions := ⟨[⟨1, .coupon Session.sampleCoupon, 2⟩, ⟨2, .coupon Session.sampleCoupon, 1⟩,
      ⟨3, .coupon Session.sampleCoupon, 0⟩], [1, 2, 3], []⟩
    snapshots := ⟨[⟨1, 2, 60, .ofLedger .empty⟩, ⟨2, 1, 60, .ofLedger .empty⟩], .empty⟩ }

/-- The state passes, and the snapshot of the third coupon gets the number 3. -/
theorem crossed_numbers_exact :
    crossedState.check = .ok () ∧
    Set.BijOn (fun a : Action => a.snapshotId.toNat)
      {a | a ∈ crossedState.actions.actions ∧ a.snapshotId ≠ 0}
      (Set.Icc 1 crossedState.snapshots.count) ∧
    (crossedState.snapshots.commit crossedState.actions [⟨3, 50, 60, .ofLedger .empty⟩]).1 =
      [⟨3, 3, 0⟩] ∧
    ∀ a ∈ crossedState.actions.actions, a.snapshotId ≠ 3 := by
  have hplaced : crossedState.actions.Placed := ⟨fun place a hat =>
    match place, hat with
    | 0, rfl => rfl
    | 1, rfl => rfl
    | 2, rfl => rfl⟩
  have hcheck : crossedState.check = .ok () := by decide
  have hkept : (crossedState.snapshots.commit crossedState.actions
      [⟨3, 50, 60, .ofLedger .empty⟩]).1 = [⟨3, 3, 0⟩] := by decide
  obtain ⟨hexact, hnext⟩ := snapshot_numbers_exact crossedState
  refine ⟨hcheck, ?_, hkept, (hnext hcheck _ _ _ _ hkept).2⟩
  exact ((hexact hplaced (by decide) (by decide)).mp hcheck).1

end Checkpoint

end CouponBond
