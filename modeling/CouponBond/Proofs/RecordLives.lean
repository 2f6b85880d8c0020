import CouponBond.Proofs.RecordSteps

/-!
# The life of a record

In every history of a bond the locks, the holds and the clearings are opened under the numbers
1, 2, 3, …, each kind under its own.  A lock is released at most once and a clearing is approved
or cancelled at most once, as a whole.  A hold goes in parts, and what was executed, what was
released and what is left of it always make up the hold that was opened.  A record that is at its
end is never seen again: every command on its number is refused.

The invariant of histories ties the dockets of the ledger to the commands that were applied.  It
holds after every part of a history, so each command found the record that was opened.

## Main Definitions

* `Ledger.Traced` — the three dockets of a ledger come from the commands that were applied
* `Lock.LivesOnce`, `Hold.LivesOnce`, `Clearing.LivesOnce` — the life of one record

## Main Results

* `Ledger.Traced.concat`, `Session.Sound.traced` — what a command and a history preserve
* `Bond.releaseLock_of_none`, `Bond.executeHold_of_none`, … — records that are gone
* `Session.records_live_once` — the life of every record in every history
-/

namespace CouponBond

/-! ### Commands on records that are gone -/

namespace Bond

open AllOrNothing

variable {b : Bond}

theorem releaseLock_of_none (desk : Desk) {id : LockId} (h : b.ledger.locks.get? id = none) :
    execute desk (.releaseLock id) b = .error (.ledger (.lockNotFound id)) b :=
  bind_error (bind_error (record_of_none h))

/-- A zero destination is refused before the hold is looked up. -/
theorem executeHold_of_none (desk : Desk) {id : HoldId} (h : b.ledger.holds.get? id = none)
    (destination : Address) (amount : Amount) :
    execute desk (.executeHold id destination amount) b =
      .error (if destination.isZero then .zeroAddressNotAllowed else .ledger (.holdNotFound id))
        b := by
  refine bind_error ?_
  unfold executeHold requireHolder
  cases destination.isZero with
  | true => exact bind_error rfl
  | false => exact (bind_ok rfl).trans (bind_error (record_of_none h))

theorem releaseHold_of_none (desk : Desk) {id : HoldId} (h : b.ledger.holds.get? id = none)
    (amount : Amount) :
    execute desk (.releaseHold id amount) b = .error (.ledger (.holdNotFound id)) b :=
  bind_error (bind_error (record_of_none h))

theorem approveClearing_of_none (desk : Desk) {id : ClearingId}
    (h : b.ledger.clearings.get? id = none) :
    execute desk (.approveClearing id) b = .error (.ledger (.clearingNotFound id)) b :=
  bind_error (bind_error (record_of_none h))

theorem cancelClearing_of_none (desk : Desk) {id : ClearingId}
    (h : b.ledger.clearings.get? id = none) :
    execute desk (.cancelClearing id) b = .error (.ledger (.clearingNotFound id)) b :=
  bind_error (bind_error (record_of_none h))

end Bond

/-! ### Histories -/

namespace Deed

/-- Units of a hold that were paid out by some commands. -/
def executed (deeds : List Deed) (id : HoldId) : Nat := (deeds.map (executedFrom id)).sum

/-- Units of a hold that some commands gave back to the holder. -/
def released (deeds : List Deed) (id : HoldId) : Nat := (deeds.map (releasedFrom id)).sum

end Deed

/-- The dockets of a ledger come from the commands that were applied. -/
structure Ledger.Traced (deeds : List Deed) (l : Ledger) : Prop where
  locks : Docket.Whole Lock.id (deeds.filterMap Deed.lock?) (deeds.filterMap Deed.releasedLock?)
    l.lockDocket
  holds : Docket.Parts (deeds.filterMap Deed.hold?)
    (fun id => Deed.executed deeds id + Deed.released deeds id) l.holdDocket
  clearings : Docket.Whole Clearing.id (deeds.filterMap Deed.clearing?)
    (deeds.filterMap Deed.endedClearing?) l.clearingDocket

namespace Ledger

variable {l l' : Ledger} {deeds : List Deed} {d : Deed}

theorem traced_empty : empty.Traced [] :=
  ⟨Docket.whole_nil, Docket.parts_nil, Docket.whole_nil⟩

theorem Traced.of_sameRecords (h : l.Traced deeds) (hsame : l.SameRecords l') :
    l'.Traced deeds := by
  refine ⟨?_, ?_, ?_⟩
  · rw [hsame.locks]
    exact h.locks
  · rw [hsame.holds]
    exact h.holds
  · rw [hsame.clearings]
    exact h.clearings

theorem filterMap_concat {α β : Type} (f : α → Option β) (as : List α) (a : α) :
    (as ++ [a]).filterMap f = as.filterMap f ++ (f a).toList := by
  rw [List.filterMap_append, List.filterMap_cons]
  cases f a <;> rfl

/-- One command more. -/
theorem Traced.concat (h : d.before.Traced deeds) (hd : d.Genuine) :
    d.after.Traced (deeds ++ [d]) := by
  have hfiled := hd.filed
  refine ⟨?_, ?_, ?_⟩
  · rw [filterMap_concat, filterMap_concat]
    exact h.locks.step hfiled.locks
  · have htaken : ∀ id, Deed.executed (deeds ++ [d]) id + Deed.released (deeds ++ [d]) id =
        Deed.executed deeds id + Deed.released deeds id +
          (d.executedFrom id + d.releasedFrom id) := fun id => by
      simp only [Deed.executed, Deed.released, List.map_append, List.map_singleton,
        List.sum_append, List.sum_singleton]
      omega
    simp only [htaken]
    rw [filterMap_concat]
    exact h.holds.step hfiled.holds
  · rw [filterMap_concat, filterMap_concat]
    exact h.clearings.step hfiled.clearings

end Ledger

namespace Session

variable {config : Config} {s : Session}

theorem Sound.traced_append (h : s.Sound config) {done : List Deed}
    (htraced : s.bond.ledger.Traced done) (moves : List Move) :
    (s.run moves).bond.ledger.Traced (done ++ s.deeds moves) := by
  induction moves generalizing s done with
  | nil =>
    rw [deeds, List.append_nil]
    exact htraced
  | cons move rest ih =>
    rw [deeds, ← List.append_assoc]
    refine ih (h.step move) ?_
    obtain ⟨hnone, hsame⟩ | ⟨d, hdone, hgenuine, hbefore, hafter⟩ := h.deed?_cases move
    · rw [hnone, Option.toList_none, List.append_nil]
      exact htraced.of_sameRecords hsame
    · rw [hdone, Option.toList_some, ← hafter]
      rw [← hbefore] at htraced
      exact htraced.concat hgenuine

/-- The dockets at the end of a history come from the commands that were applied in it. -/
theorem Sound.traced (h : s.Sound config) (hstart : s.bond.ledger.Traced [])
    (moves : List Move) : (s.run moves).bond.ledger.Traced (s.deeds moves) :=
  h.traced_append hstart moves

/-- A command that was applied found the ledger to which the commands before it had led. -/
theorem Sound.traced_of_mem_deeds (h : s.Sound config) (hstart : s.bond.ledger.Traced [])
    {moves : List Move} {d : Deed} (hd : d ∈ s.deeds moves) :
    d.Genuine ∧ ∃ earlier, earlier ⊆ s.deeds moves ∧ d.before.Traced earlier := by
  obtain ⟨earlier, later, heq, hbefore, hgenuine⟩ := h.exists_of_mem_deeds hd
  refine ⟨hgenuine, s.deeds earlier, ?_, ?_⟩
  · rw [← heq]
    exact List.subset_append_left _ _
  · rw [hbefore]
    exact h.traced hstart earlier

end Session

/-! ### One life -/

/-- The life of a lock, with the commands that were applied and the bond that they led to. -/
structure Lock.LivesOnce (r : Lock) (deeds : List Deed) (b : Bond) : Prop where
  once : (deeds.filterMap Deed.releasedLock?).count r.id ≤ 1
  /-- It is released from its expiration on, when it is still what was opened, and all its units
  go back to its holder. -/
  released : ∀ d ∈ deeds, d.releasedLock? = some r.id →
    d.before.locks.get? r.id = some r ∧ r.expiration ≤ d.now ∧
      d.before.Posts (Posting.move r.holder r.partition .locked .free r.amount) d.after
  kept : r.id ∉ deeds.filterMap Deed.releasedLock? → b.ledger.locks.get? r.id = some r
  refused : r.id ∈ deeds.filterMap Deed.releasedLock? → ∀ desk,
    Bond.execute desk (.releaseLock r.id) b = .error (.ledger (.lockNotFound r.id)) b

/-- The life of a hold. -/
structure Hold.LivesOnce (r : Hold) (deeds : List Deed) (b : Bond) : Prop where
  /-- What was executed, what was released and what is left make up the hold. -/
  accounted : Deed.executed deeds r.id + Deed.released deeds r.id +
    (b.ledger.holds.get? r.id).elim 0 (fun rest => rest.amount.toNat) = r.amount.toNat
  /-- What is left differs from the hold in the units alone, and a hold of which nothing is left
  is not kept. -/
  rest : ∀ rest, b.ledger.holds.get? r.id = some rest →
    rest.amount ≠ 0 ∧ rest = { r with amount := rest.amount }
  /-- It is executed before its expiration, to its destination if it has one. -/
  executed : ∀ d ∈ deeds, ∀ destination amount,
    d.command = .executeHold r.id destination amount →
    d.now < r.expiration ∧
      (∀ expected, r.destination = some expected → expected = destination) ∧
      d.before.Posts [⟨r.holder, r.partition, .debit .held amount⟩,
        ⟨destination, r.partition, .credit .free amount⟩] d.after
  /-- Released units go back to its holder. -/
  released : ∀ d ∈ deeds, ∀ amount, d.command = .releaseHold r.id amount →
    d.before.Posts (Posting.move r.holder r.partition .held .free amount) d.after
  refused : Deed.executed deeds r.id + Deed.released deeds r.id = r.amount.toNat →
    ∀ desk amount,
      Bond.execute desk (.releaseHold r.id amount) b = .error (.ledger (.holdNotFound r.id)) b ∧
      ∀ destination, Bond.execute desk (.executeHold r.id destination amount) b =
        .error (if destination.isZero then .zeroAddressNotAllowed
          else .ledger (.holdNotFound r.id)) b

/-- The life of a clearing. -/
structure Clearing.LivesOnce (r : Clearing) (deeds : List Deed) (b : Bond) : Prop where
  once : (deeds.filterMap Deed.endedClearing?).count r.id ≤ 1
  /-- It is approved before its expiration, when it is still what was opened, and all its units
  are paid to its receiver. -/
  approved : ∀ d ∈ deeds, d.command = .approveClearing r.id →
    d.before.clearings.get? r.id = some r ∧ d.now < r.expiration ∧
      d.before.Posts [⟨r.source, r.partition, .debit .cleared r.amount⟩,
        ⟨r.source, r.partition, .debit .free r.amount⟩,
        ⟨r.destination, r.partition, .credit .free r.amount⟩] d.after
  cancelled : ∀ d ∈ deeds, d.command = .cancelClearing r.id →
    d.before.clearings.get? r.id = some r ∧
      d.before.Posts [⟨r.source, r.partition, .debit .cleared r.amount⟩] d.after
  kept : r.id ∉ deeds.filterMap Deed.endedClearing? → b.ledger.clearings.get? r.id = some r
  refused : r.id ∈ deeds.filterMap Deed.endedClearing? → ∀ desk,
    Bond.execute desk (.approveClearing r.id) b = .error (.ledger (.clearingNotFound r.id)) b ∧
    Bond.execute desk (.cancelClearing r.id) b = .error (.ledger (.clearingNotFound r.id)) b

/-- The records of a bond, with the commands that were applied: each kind is opened under the
numbers 1, 2, 3, …, every one lives once, and none is drawn on that was not opened. -/
structure RecordsLiveOnce (deeds : List Deed) (b : Bond) : Prop where
  lock_ids : (deeds.filterMap Deed.lock?).map (fun r => r.id.toNat) =
    List.range' 1 (deeds.filterMap Deed.lock?).length
  hold_ids : (deeds.filterMap Deed.hold?).map (fun r => r.id.toNat) =
    List.range' 1 (deeds.filterMap Deed.hold?).length
  clearing_ids : (deeds.filterMap Deed.clearing?).map (fun r => r.id.toNat) =
    List.range' 1 (deeds.filterMap Deed.clearing?).length
  lock : ∀ r ∈ deeds.filterMap Deed.lock?, r.LivesOnce deeds b
  hold : ∀ r ∈ deeds.filterMap Deed.hold?, r.LivesOnce deeds b
  clearing : ∀ r ∈ deeds.filterMap Deed.clearing?, r.LivesOnce deeds b
  lock_opened : ∀ id ∈ deeds.filterMap Deed.releasedLock?,
    ∃ r ∈ deeds.filterMap Deed.lock?, r.id = id
  hold_opened : ∀ id ∈ deeds.filterMap Deed.drawnHold?,
    ∃ r ∈ deeds.filterMap Deed.hold?, r.id = id
  clearing_opened : ∀ id ∈ deeds.filterMap Deed.endedClearing?,
    ∃ r ∈ deeds.filterMap Deed.clearing?, r.id = id

namespace Session

variable {config : Config} {s : Session} {moves : List Move}

theorem Sound.lock_livesOnce (h : s.Sound config) (hstart : s.bond.ledger.Traced []) {r : Lock}
    (hr : r ∈ (s.deeds moves).filterMap Deed.lock?) :
    r.LivesOnce (s.deeds moves) (s.run moves).bond := by
  have hend := (h.traced hstart moves).locks
  refine ⟨List.nodup_iff_count_le_one.mp hend.ended_nodup _, fun d hd hid => ?_,
    fun hopen => (hend.get?_iff _ _).mpr ⟨hr, rfl, hopen⟩,
    fun hended desk => Bond.releaseLock_of_none desk (hend.get?_eq_none hended)⟩
  obtain ⟨hgenuine, earlier, hsub, hbefore⟩ := h.traced_of_mem_deeds hstart hd
  obtain ⟨r', hget, hexpired, hposts⟩ := hgenuine.of_releaseLock hid
  obtain rfl := hbefore.locks.eq_of_get? hend.issued (List.filterMap_subset _ hsub) hr hget
  exact ⟨hget, hexpired, hposts⟩

theorem Sound.hold_livesOnce (h : s.Sound config) (hstart : s.bond.ledger.Traced []) {r : Hold}
    (hr : r ∈ (s.deeds moves).filterMap Deed.hold?) :
    r.LivesOnce (s.deeds moves) (s.run moves).bond := by
  have hend := (h.traced hstart moves).holds
  have haccounted := hend.accounted r hr
  have hkept : ∀ rest, (s.run moves).bond.ledger.holds.get? r.id = some rest →
      rest.amount ≠ 0 ∧ rest = { r with amount := rest.amount } := fun rest hrest =>
    ⟨(hend.rest r.id rest hrest).1, hend.eq_of_get? hend.issued (List.Subset.refl _) hr hrest⟩
  -- the units change along the way, and what a command has to observe does not
  have hdrawn : ∀ d ∈ s.deeds moves, d.Genuine ∧ ∀ rest,
      d.before.holds.get? r.id = some rest → rest = { r with amount := rest.amount } := by
    intro d hd
    obtain ⟨hgenuine, earlier, hsub, hbefore⟩ := h.traced_of_mem_deeds hstart hd
    exact ⟨hgenuine, fun rest hrest =>
      hbefore.holds.eq_of_get? hend.issued (List.filterMap_subset _ hsub) hr hrest⟩
  refine ⟨haccounted, hkept, fun d hd destination amount hcommand => ?_,
    fun d hd amount hcommand => ?_, fun hall desk amount => ?_⟩
  · obtain ⟨hgenuine, hrest⟩ := hdrawn d hd
    obtain ⟨rest, hget, hopen, hagreed, hposts⟩ := hgenuine.of_executeHold hcommand
    rw [hrest rest hget] at hopen hagreed hposts
    exact ⟨hopen, hagreed, hposts⟩
  · obtain ⟨hgenuine, hrest⟩ := hdrawn d hd
    obtain ⟨rest, hget, hposts⟩ := hgenuine.of_releaseHold hcommand
    rw [hrest rest hget] at hposts
    exact hposts
  · have hleft : (s.run moves).bond.ledger.holdDocket.unitsLeft r.id = 0 := by omega
    have hnone := hend.get?_eq_none hleft
    exact ⟨Bond.releaseHold_of_none desk hnone amount,
      fun destination => Bond.executeHold_of_none desk hnone destination amount⟩

theorem Sound.clearing_livesOnce (h : s.Sound config) (hstart : s.bond.ledger.Traced [])
    {r : Clearing} (hr : r ∈ (s.deeds moves).filterMap Deed.clearing?) :
    r.LivesOnce (s.deeds moves) (s.run moves).bond := by
  have hend := (h.traced hstart moves).clearings
  have hended : ∀ d ∈ s.deeds moves, d.Genuine ∧ ∀ r',
      d.before.clearings.get? r.id = some r' → r' = r := by
    intro d hd
    obtain ⟨hgenuine, earlier, hsub, hbefore⟩ := h.traced_of_mem_deeds hstart hd
    exact ⟨hgenuine, fun r' hget =>
      hbefore.clearings.eq_of_get? hend.issued (List.filterMap_subset _ hsub) hr hget⟩
  refine ⟨List.nodup_iff_count_le_one.mp hend.ended_nodup _, fun d hd hcommand => ?_,
    fun d hd hcommand => ?_, fun hopen => (hend.get?_iff _ _).mpr ⟨hr, rfl, hopen⟩,
    fun hgone desk => ?_⟩
  · obtain ⟨hgenuine, hsame⟩ := hended d hd
    obtain ⟨r', hget, hopen, hposts⟩ := hgenuine.of_approveClearing hcommand
    obtain rfl := hsame r' hget
    exact ⟨hget, hopen, hposts⟩
  · obtain ⟨hgenuine, hsame⟩ := hended d hd
    obtain ⟨r', hget, hposts⟩ := hgenuine.of_cancelClearing hcommand
    obtain rfl := hsame r' hget
    exact ⟨hget, hposts⟩
  · have hnone := hend.get?_eq_none hgone
    exact ⟨Bond.approveClearing_of_none desk hnone, Bond.cancelClearing_of_none desk hnone⟩

/-- Whatever hold units were taken from was opened. -/
theorem Sound.exists_hold_of_drawn (h : s.Sound config) (hstart : s.bond.ledger.Traced [])
    {id : HoldId} (hid : id ∈ (s.deeds moves).filterMap Deed.drawnHold?) :
    ∃ r ∈ (s.deeds moves).filterMap Deed.hold?, r.id = id := by
  obtain ⟨d, hd, hdrawn⟩ := List.mem_filterMap.mp hid
  obtain ⟨hgenuine, earlier, hsub, hbefore⟩ := h.traced_of_mem_deeds hstart hd
  obtain ⟨rest, hget⟩ := hgenuine.of_drawnHold hdrawn
  obtain ⟨-, r, hr, heq, -⟩ := hbefore.holds.rest id rest hget
  exact ⟨r, List.filterMap_subset _ hsub hr, heq⟩

/-- In every history of a bond that was opened, the locks, the holds and the clearings live
exactly one life each. -/
theorem records_live_once {b : Bond} (hcreate : Bond.create config = .ok b) (start : Clock)
    (history : List Move) :
    RecordsLiveOnce ((⟨b, start⟩ : Session).deeds history)
      ((⟨b, start⟩ : Session).run history).bond := by
  have hsound : (⟨b, start⟩ : Session).Sound config := sound_of_create hcreate start
  have hstart : b.ledger.Traced [] := by
    obtain ⟨-, rfl⟩ := Bond.create_eq_ok_iff.mp hcreate
    exact Ledger.traced_empty
  have hend := hsound.traced hstart history
  exact {
    lock_ids := hend.locks.issued.map_eq_range'
    hold_ids := hend.holds.issued.map_eq_range'
    clearing_ids := hend.clearings.issued.map_eq_range'
    lock := fun r hr => hsound.lock_livesOnce hstart hr
    hold := fun r hr => hsound.hold_livesOnce hstart hr
    clearing := fun r hr => hsound.clearing_livesOnce hstart hr
    lock_opened := hend.locks.ended_opened
    hold_opened := fun id hid => hsound.exists_hold_of_drawn hstart hid
    clearing_opened := hend.clearings.ended_opened }

/-- Of ten units two are locked and four are held, and transfers of three and of one await
approval.  Three of the held units are paid out and the fourth is given back, one transfer is
approved and the other one cancelled, and the lock is released when it expires.  What is tried too
early, or once more after the end, or for another destination is refused. -/
def encumberedHistory : List Move :=
  [.command [] none (.issue (.ofLow 7) .default 10),
    .command [] none (.lock (.ofLow 7) .default 2 50),
    .command [] none (.createHold (.ofLow 7) .default 4 (.ofLow 9) (some (.ofLow 8)) 50),
    .command [] none (.createClearing (.ofLow 7) (.ofLow 8) .default 3 50),
    .command [] none (.createClearing (.ofLow 7) (.ofLow 8) .default 1 50),
    .command [] none (.executeHold 1 (.ofLow 9) 3),
    .command [] none (.executeHold 1 (.ofLow 8) 3),
    .command [] none (.approveClearing 1),
    .command [] none (.cancelClearing 2),
    .command [] none (.releaseLock 1),
    .advance 45,
    .command [] none (.releaseLock 1),
    .command [] none (.releaseHold 1 1),
    .command [] none (.releaseLock 1),
    .command [] none (.releaseHold 1 1)]

/-- The records of that history, each at its end. -/
theorem encumbered_records_live_once :
    let deeds := sampleStart.deeds encumberedHistory
    deeds.filterMap Deed.lock? = [⟨1, .ofLow 7, .default, 2, 50⟩] ∧
    deeds.filterMap Deed.releasedLock? = [1] ∧
    Deed.executed deeds 1 = 3 ∧ Deed.released deeds 1 = 1 ∧
    deeds.filterMap Deed.endedClearing? = [1, 2] ∧
    RecordsLiveOnce deeds (sampleStart.run encumberedHistory).bond := by
  have hopened : Bond.create Bond.sampleConfig = .ok (.opened Bond.sampleConfig) := rfl
  exact ⟨rfl, rfl, rfl, rfl, rfl, records_live_once hopened ⟨5⟩ encumberedHistory⟩

end Session

end CouponBond
