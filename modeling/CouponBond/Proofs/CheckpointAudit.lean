import CouponBond.Bond.Checkpoint
import CouponBond.Proofs.LedgerAudit

/-!
# The checks of a saved state

What the checks of a saved state accept, without the order in which they look: the ledger is
consistent, and actions and snapshots name each other.

## Main Results

* `Checkpoint.check_eq_ok_iff` — the states that pass
-/

namespace CouponBond.Checkpoint

open Ledger (bind_eq_ok_iff)

variable {c : Checkpoint}

theorem checkAction_eq_ok_iff {a : Action} : c.checkAction a = .ok () ↔
    ∃ snapshot, c.snapshots.get? a.snapshotId = some snapshot ∧ snapshot.actionId = a.id := by
  unfold checkAction
  cases c.snapshots.get? a.snapshotId with
  | none => simp
  | some snapshot =>
    dsimp only
    rw [Ledger.ite_eq_ok_iff]
    simp

theorem checkActions_eq_ok_iff {actions : List Action} : c.checkActions actions = .ok () ↔
    ∀ a ∈ actions, a.hasSnapshot = true → c.checkAction a = .ok () := by
  induction actions with
  | nil => exact ⟨fun _ _ h => (nomatch h), fun _ => rfl⟩
  | cons a rest ih =>
    unfold checkActions
    rw [List.forall_mem_cons, ← ih]
    cases hnamed : a.hasSnapshot with
    | false => simp
    | true =>
      rw [if_pos rfl, bind_eq_ok_iff]
      simp

theorem checkSnapshot_eq_ok_iff {place : Nat} {snapshot : Snapshot} :
    c.checkSnapshot place snapshot = .ok () ↔ ∃ a, c.actions.get? snapshot.actionId = .ok a ∧
      a.snapshotId = UInt64.ofNat place := by
  unfold checkSnapshot
  dsimp only
  cases c.actions.get? snapshot.actionId with
  | error e => simp
  | ok a =>
    dsimp only
    rw [Ledger.ite_eq_ok_iff]
    simp

theorem checkSnapshots_eq_ok_iff {place : Nat} {snapshots : List Snapshot} :
    c.checkSnapshots place snapshots = .ok () ↔
      ∀ i snapshot, snapshots[i]? = some snapshot →
        c.checkSnapshot (place + i) snapshot = .ok () := by
  induction snapshots generalizing place with
  | nil => exact ⟨fun _ _ _ h => (nomatch h), fun _ => rfl⟩
  | cons first rest ih =>
    unfold checkSnapshots
    rw [bind_eq_ok_iff, ih]
    constructor
    · rintro ⟨hfirst, hrest⟩ i snapshot hat
      cases i with
      | zero =>
        cases hat
        exact hfirst
      | succ i =>
        have hmore := hrest i snapshot hat
        rwa [Nat.add_right_comm] at hmore
    · intro hall
      refine ⟨hall 0 first rfl, fun i snapshot hat => ?_⟩
      have hmore := hall (i + 1) snapshot hat
      rwa [Nat.add_right_comm]

/-- A state passes when its ledger is consistent, the snapshot that an action names was taken for
it, and the action that a snapshot was taken for names the place of the snapshot. -/
theorem check_eq_ok_iff : c.check = .ok () ↔ c.ledger.Consistent ∧
    (∀ a ∈ c.actions.actions, a.hasSnapshot = true →
      ∃ snapshot, c.snapshots.get? a.snapshotId = some snapshot ∧ snapshot.actionId = a.id) ∧
    ∀ (place : Nat) (snapshot : Snapshot), c.snapshots.snapshots[place]? = some snapshot →
      ∃ a, c.actions.get? snapshot.actionId = .ok a ∧
        a.snapshotId = UInt64.ofNat (place + 1) := by
  have hlinks : (∀ i snapshot, c.snapshots.snapshots[i]? = some snapshot →
      c.checkSnapshot (1 + i) snapshot = .ok ()) ↔
      ∀ (place : Nat) (snapshot : Snapshot), c.snapshots.snapshots[place]? = some snapshot →
        ∃ a, c.actions.get? snapshot.actionId = .ok a ∧
          a.snapshotId = UInt64.ofNat (place + 1) := by
    simp only [checkSnapshot_eq_ok_iff, Nat.add_comm 1]
  rw [← Ledger.audits_iff_consistent, ← hlinks, ← checkSnapshots_eq_ok_iff]
  simp only [← checkAction_eq_ok_iff]
  rw [← checkActions_eq_ok_iff]
  unfold check
  cases c.ledger.auditSupply with
  | error e => simp [throw, throwThe, MonadExceptOf.throw, bind, Except.bind]
  | ok _ =>
    cases c.ledger.auditRecords with
    | error e => simp [throw, throwThe, MonadExceptOf.throw, bind, Except.bind]
    | ok _ =>
      show (c.checkActions c.actions.actions >>= fun _ =>
        c.checkSnapshots 1 c.snapshots.snapshots) = .ok () ↔ _
      rw [bind_eq_ok_iff]
      simp

end CouponBond.Checkpoint
