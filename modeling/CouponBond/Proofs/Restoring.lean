import CouponBond.Proofs.BondActions
import CouponBond.Proofs.BondAlike
import CouponBond.Proofs.WireForms

/-!
# A saved bond is restored

The text of the state of a bond whose ledger is consistent and whose snapshots agree with its
actions passes every check, and the bond that is made of it differs from the saved one in
nothing but the places of its rosters.

## Main Results

* `Checkpoint.check_eq_ok` — such a state passes the checks
* `Bond.load_save` — the bond that is restored
-/

namespace CouponBond

/-! ### Renumbered ledgers -/

theorem Registry.view_renumbered (r : Registry) : r.renumbered.view = r.view := by
  refine Prod.ext (SortedMap.ext_get? fun q => ?_) (Roster.members_renumbered r.all)
  show ((r.partitions.mapValues Roster.renumbered).mapValues Roster.members).get? q =
    (r.partitions.mapValues Roster.members).get? q
  rw [SortedMap.get?_mapValues, SortedMap.get?_mapValues, SortedMap.get?_mapValues,
    Option.map_map]
  exact congrArg (Option.map · _) (funext Roster.members_renumbered)

theorem Ledger.alike_renumbered (l : Ledger) : l.Alike l.renumbered :=
  ⟨rfl, l.registry.view_renumbered⟩

/-- Consistency does not see the places of rosters. -/
theorem Ledger.Alike.consistent {l l' : Ledger} (h : l.Alike l') (hl : l.Consistent) :
    l'.Consistent := by
  obtain ⟨heq, hview⟩ := h
  have hholders := Registry.holders_eq hview
  have hall := Registry.allHolders_eq hview
  rw [heq]
  refine ⟨hl.conserved, hl.supply_le, hl.explained, hl.cleared_le, hl.locks_numbered,
    hl.holds_numbered, hl.clearings_numbered, fun q a => ?_, fun a => ?_⟩
  · show a ∈ l'.registry.holders q ↔ l.totalBalanceOf a q ≠ 0
    rw [hholders]
    exact hl.mem_holders_iff q a
  · show a ∈ l'.registry.allHolders ↔ l.holdingOf a ≠ 0
    rw [hall]
    exact hl.mem_allHolders_iff a

/-! ### The checks of a saved state -/

namespace Checkpoint

/-- Whatever the agenda is, the snapshots of a state agree with its actions. -/
def Linked (c : Checkpoint) : Prop :=
  ∃ pending, (⟨c.snapshots.snapshots, pending⟩ : SnapshotBook).Agrees c.actions

variable {c : Checkpoint}

/-- A state with a consistent ledger and snapshots that agree with the actions is one that a
bond can be in. -/
theorem check_eq_ok (hledger : c.ledger.Consistent) (hlinked : c.Linked) :
    c.check = .ok () := by
  obtain ⟨pending, hagrees⟩ := hlinked
  refine check_eq_ok_iff.mpr ⟨hledger, hagrees.owner, fun place snapshot hat => ?_⟩
  obtain ⟨a, ha, howner, hplace⟩ := hagrees.named place snapshot hat
  refine ⟨a, ?_, ?_⟩
  · rw [← howner]
    exact hagrees.numbered.placed.get?_of_mem ha
  · rw [← hplace, UInt64.ofNat_toNat]

end Checkpoint

namespace Bond

/-- A bond with a consistent ledger whose snapshots agree with its actions is restored from the
text of its state, up to the places of its rosters. -/
theorem load_save {b : Bond} (hledger : b.ledger.Consistent) (hagrees : b.Agrees)
    (hconfig : b.config.check = .ok ()) (now : Timestamp) :
    ∃ b', load b.config (b.save now) = .ok b' ∧ b.Alike b' := by
  have hcheck : (b.checkpoint now).reread.check = .ok () :=
    Checkpoint.check_eq_ok ((Ledger.alike_renumbered b.ledger).consistent hledger)
      ⟨b.snapshots.pending, hagrees⟩
  have hload : load b.config (b.save now) =
      .ok (ofCheckpoint b.config (b.checkpoint now).reread) :=
    load_eq_ok_iff.mpr ⟨hconfig, _, Checkpoint.decodeText?_print _, rfl, hcheck, rfl⟩
  have hpending : SnapshotBook.agendaOf b.actions = b.snapshots.pending :=
    SnapshotBook.Agrees.agendaOf_eq hagrees
  -- the agenda that is set up again is the one that was not saved
  refine ⟨_, hload, ?_, Ledger.alike_renumbered b.ledger⟩
  show (⟨b.config, b.terms, b.ledger.renumbered, b.actions,
    ⟨b.snapshots.snapshots, SnapshotBook.agendaOf b.actions⟩, b.events⟩ : Bond) = _
  rw [hpending]
  rfl

end Bond

end CouponBond
