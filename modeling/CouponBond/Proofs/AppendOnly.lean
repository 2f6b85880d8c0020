import CouponBond.Proofs.AuditTrail
import CouponBond.Proofs.RecordDates
import CouponBond.Proofs.SnapshotLinks

/-!
# A history is only added to

Nothing that a bond has on record is ever taken back or written over: events, snapshots and
actions keep their places through commands, refusals, clock moves and restores.  One thing is
filled in later, the snapshot of an action, and it is filled in once.  So a coupon that can be
asked for can be asked for ever after, under the same number and with the same terms.

## Main Definitions

* `ActionStore.GrowsTo`, `Bond.GrowsTo` — what a store or a bond becomes
* `SnapshotBook.KeepsTo` — what keeping captures makes of a book and its store
* `Bond.CouponsInOrder` — every coupon on record was checked

## Main Results

* `SnapshotBook.keepsTo_commit` — keeping captures fills in snapshots and changes nothing else
* `Bond.Performed.growsTo` — a command only adds
* `Bond.Reachable.reloaded` — a reachable bond that is saved and restored is reachable
* `Session.Sound.growsTo_run` — a history only adds
* `Session.history_only_grows` — what can be relied on between two points of a history
-/

namespace CouponBond

/-! ### Actions -/

namespace ActionStore

/-- What a store becomes: its actions stand where they stood, with their numbers and payments,
and one that names a snapshot goes on naming it. -/
structure GrowsTo (s s' : ActionStore) : Prop where
  action : ∀ (place : Nat) (a : Action), s.actions[place]? = some a →
    ∃ snapshotId, s'.actions[place]? = some { a with snapshotId } ∧
      (a.snapshotId ≠ 0 → snapshotId = a.snapshotId)
  couponIds : s.couponIds <+: s'.couponIds

variable {s s' s'' : ActionStore} {a : Action} {id : ActionId}

theorem GrowsTo.refl (s : ActionStore) : s.GrowsTo s :=
  ⟨fun _ a hat => ⟨a.snapshotId, hat, fun _ => rfl⟩, List.prefix_refl _⟩

theorem GrowsTo.trans (h : s.GrowsTo s') (hmore : s'.GrowsTo s'') : s.GrowsTo s'' := by
  refine ⟨fun place a hat => ?_, h.couponIds.trans hmore.couponIds⟩
  obtain ⟨number, hat', hkept⟩ := h.action place a hat
  obtain ⟨number', hat'', hkept'⟩ := hmore.action place _ hat'
  refine ⟨number', hat'', fun hne => ?_⟩
  rw [hkept' (by rw [hkept hne]; exact hne), hkept hne]

theorem growsTo_push (s : ActionStore) (next : ActionId) (kind : ActionKind) :
    s.GrowsTo (s.push next kind) := by
  constructor
  · intro place a hat
    refine ⟨a.snapshotId, ?_, fun _ => rfl⟩
    rw [actions_push, List.getElem?_append_left (List.getElem?_eq_some_iff.mp hat).1]
    exact hat
  · unfold ActionStore.push
    split
    · exact List.prefix_append _ _
    · exact List.prefix_refl _

/-- The place of an action is behind its number. -/
theorem Placed.getElem?_of_mem (h : s.Placed) (hmem : a ∈ s.actions) :
    s.actions[a.id.toNat - 1]? = some a := by
  obtain ⟨place, hplace⟩ := List.mem_iff_getElem?.mp hmem
  rw [h.toNat_id place a hplace]
  exact hplace

/-- An action that named no snapshot names one now; the others are as they were. -/
theorem Placed.growsTo_named (h : s.Placed) (hmem : a ∈ s.actions)
    (hnone : a.hasSnapshot = false) (snapshotId : SnapshotId) :
    s.GrowsTo (s.named a snapshotId) := by
  refine ⟨fun place e hat => ?_, List.prefix_refl _⟩
  simp only [ActionStore.named, List.getElem?_set]
  split
  · next hplace =>
    have hsame := h.getElem?_of_mem hmem
    rw [hplace, hat] at hsame
    obtain rfl := Option.some.inj hsame
    have hlt := (List.getElem?_eq_some_iff.mp hat).1
    exact ⟨snapshotId, by rw [if_pos (hplace ▸ hlt)],
      fun hne => absurd (Action.hasSnapshot_eq_false_iff.mp hnone) hne⟩
  · exact ⟨e.snapshotId, hat, fun _ => rfl⟩

/-- What does not depend on the snapshot of an action is the same when it names one. -/
theorem Placed.map_named {α : Type} (h : s.Placed) (hmem : a ∈ s.actions)
    (snapshotId : SnapshotId) (f : Action → α) (hf : f { a with snapshotId } = f a) :
    (s.named a snapshotId).actions.map f = s.actions.map f := by
  obtain ⟨hlt, hat⟩ := List.getElem?_eq_some_iff.mp (h.getElem?_of_mem hmem)
  have hplace : a.id.toNat - 1 < (s.actions.map f).length := by rwa [List.length_map]
  have hsame : (s.actions.map f)[a.id.toNat - 1] = f a := by
    rw [List.getElem_map, hat]
  rw [ActionStore.named, List.map_set, hf, ← hsame]
  exact List.set_getElem_self _

/-- An action that is found is found ever after. -/
theorem GrowsTo.get? (h : s.GrowsTo s') (hget : s.get? id = .ok a) :
    ∃ snapshotId, s'.get? id = .ok { a with snapshotId } ∧
      (a.snapshotId ≠ 0 → snapshotId = a.snapshotId) := by
  have hnth : nth? s.actions id = some a := by
    unfold ActionStore.get? at hget
    split at hget
    · next found hfound => rw [hfound, Except.ok.inj hget]
    · cases hget
  obtain ⟨hne, hat⟩ := nth?_eq_some_iff.mp hnth
  obtain ⟨snapshotId, hat', hkept⟩ := h.action _ a hat
  refine ⟨snapshotId, ?_, hkept⟩
  unfold ActionStore.get?
  rw [nth?_eq_some_iff.mpr ⟨hne, hat'⟩]

end ActionStore

/-! ### Captures -/

namespace SnapshotBook

variable {b b' b'' : SnapshotBook} {s s' s'' : ActionStore}

/-- What keeping captures makes of a book and its store: snapshots are added behind the others,
and actions get to name them. -/
structure KeepsTo (b : SnapshotBook) (s : ActionStore) (b' : SnapshotBook) (s' : ActionStore) :
    Prop where
  placed : s'.Placed
  snapshots : b.snapshots <+: b'.snapshots
  actions : s.GrowsTo s'
  map_kind_eq : s'.actions.map Action.kind = s.actions.map Action.kind
  couponIds_eq : s'.couponIds = s.couponIds

theorem KeepsTo.trans (h : b.KeepsTo s b' s') (hmore : b'.KeepsTo s' b'' s'') :
    b.KeepsTo s b'' s'' :=
  ⟨hmore.placed, h.snapshots.trans hmore.snapshots, h.actions.trans hmore.actions,
    hmore.map_kind_eq.trans h.map_kind_eq, hmore.couponIds_eq.trans h.couponIds_eq⟩

theorem keepsTo_commitOne (h : s.Placed) (b : SnapshotBook) (c : Capture) :
    b.KeepsTo s (b.commitOne s c).2.1 (b.commitOne s c).2.2 := by
  rcases commitOne_cases h b c with ⟨-, heq⟩ | ⟨-, -, -, -, heq⟩ | ⟨a, ha, -, hnone, heq⟩
  · rw [heq]
    exact ⟨h, List.prefix_refl _, .refl s, rfl, rfl⟩
  · rw [heq]
    exact ⟨h, List.prefix_refl _, .refl s, rfl, rfl⟩
  · rw [heq]
    exact ⟨h.named ha _, List.prefix_append _ _, h.growsTo_named ha hnone _,
      h.map_named ha _ Action.kind rfl, rfl⟩

theorem keepsTo_commit (h : s.Placed) (b : SnapshotBook) (captures : List Capture) :
    b.KeepsTo s (b.commit s captures).2.1 (b.commit s captures).2.2 := by
  induction captures generalizing b s with
  | nil => exact ⟨h, List.prefix_refl _, .refl s, rfl, rfl⟩
  | cons c rest ih =>
    have hone := keepsTo_commitOne h b c
    exact hone.trans (ih hone.placed _)

end SnapshotBook

/-! ### Bonds -/

theorem ActionKind.coupon?_eq_some_iff {kind : ActionKind} {coupon : Coupon} :
    kind.coupon? = some coupon ↔ kind = .coupon coupon := by
  cases kind <;> simp [ActionKind.coupon?]

namespace Bond

/-- What a bond becomes: events and snapshots are added behind the others, and the actions stay
in place. -/
structure GrowsTo (b b' : Bond) : Prop where
  events : b.events <+: b'.events
  snapshots : b.snapshots.snapshots <+: b'.snapshots.snapshots
  actions : b.actions.GrowsTo b'.actions

/-- The coupons on record have their dates in order and a rate that can be scaled. -/
def CouponsInOrder (b : Bond) : Prop :=
  ∀ coupon, ActionKind.coupon coupon ∈ b.actions.actions.map Action.kind →
    coupon.Ordered ∧ coupon.rateDecimals ≤ maxDecimals

variable {b b' b'' changed : Bond} {desk : Desk} {command : Command} {outcome : Outcome}
  {facts : List Fact} {couponId : UInt64} {found : RegisteredCoupon}

theorem GrowsTo.refl (b : Bond) : b.GrowsTo b :=
  ⟨List.prefix_refl _, List.prefix_refl _, .refl _⟩

theorem GrowsTo.trans (h : b.GrowsTo b') (hmore : b'.GrowsTo b'') : b.GrowsTo b'' :=
  ⟨h.events.trans hmore.events, h.snapshots.trans hmore.snapshots,
    h.actions.trans hmore.actions⟩

/-- Bonds that differ in nothing that can be seen have the same on record. -/
theorem Alike.growsTo (h : b.Alike b') : b.GrowsTo b' := by
  have hevents : b'.events = b.events := h.congr Bond.events fun _ _ => rfl
  have hsnapshots : b'.snapshots = b.snapshots := h.congr Bond.snapshots fun _ _ => rfl
  have hactions : b'.actions = b.actions := h.congr Bond.actions fun _ _ => rfl
  exact ⟨hevents ▸ List.prefix_refl _, hsnapshots ▸ List.prefix_refl _, hactions ▸ .refl _⟩

theorem coupon_ordered_of_checkDates {coupon : Coupon} {now : Timestamp}
    (h : coupon.checkDates now = .ok ()) : coupon.Ordered := by
  unfold Coupon.checkDates at h
  by_contra hout
  rw [if_pos hout] at h
  cases h

/-- A change adds at most one action, of a coupon that was checked. -/
theorem Performed.actions_growsTo (h : Performed desk b command outcome facts changed)
    (hplaced : b.actions.Placed) :
    changed.actions.Placed ∧ b.actions.GrowsTo changed.actions ∧
      changed.snapshots.snapshots = b.snapshots.snapshots ∧
      (b.CouponsInOrder → changed.CouponsInOrder) := by
  obtain ⟨hactions, hsnapshots⟩ |
    ⟨next, coupon, hnext, hdates, hrate, hactions, hsnapshots⟩ := h.grows
  · unfold CouponsInOrder
    rw [hactions, hsnapshots]
    exact ⟨hplaced, .refl _, rfl, id⟩
  · unfold CouponsInOrder
    rw [hactions, hsnapshots]
    refine ⟨hplaced.push hnext _, ActionStore.growsTo_push _ _ _, rfl, fun horder c hc => ?_⟩
    rw [ActionStore.actions_push, List.map_append, List.mem_append] at hc
    rcases hc with hc | hc
    · exact horder c hc
    · cases List.mem_singleton.mp hc
      exact ⟨coupon_ordered_of_checkDates hdates, hrate⟩

/-- When the change is made, the captures are kept. -/
theorem Performed.keepsTo (h : Performed desk b command outcome facts changed)
    (hplaced : b.actions.Placed) :
    changed.snapshots.KeepsTo changed.actions (b.closed desk.now changed facts).snapshots
      (b.closed desk.now changed facts).actions :=
  SnapshotBook.keepsTo_commit (h.actions_growsTo hplaced).1 _ _

/-- A command adds events, snapshots and at most one action. -/
theorem Performed.growsTo (h : Performed desk b command outcome facts changed)
    (hplaced : b.actions.Placed) : b.GrowsTo (b.closed desk.now changed facts) := by
  obtain ⟨-, hactions, hsnapshots, -⟩ := h.actions_growsTo hplaced
  have hkeeps := h.keepsTo hplaced
  refine ⟨?_, ?_, hactions.trans hkeeps.actions⟩
  · show b.events <+: changed.events ++ _ ++ _
    rw [h.events_eq, List.append_assoc]
    exact List.prefix_append _ _
  · rw [← hsnapshots]
    exact hkeeps.snapshots

theorem Performed.couponsInOrder (h : Performed desk b command outcome facts changed)
    (hplaced : b.actions.Placed) (horder : b.CouponsInOrder) :
    (b.closed desk.now changed facts).CouponsInOrder := by
  obtain ⟨-, -, -, hinOrder⟩ := h.actions_growsTo hplaced
  unfold CouponsInOrder
  rw [(h.keepsTo hplaced).map_kind_eq]
  exact hinOrder horder

/-! ### Reachable bonds -/

/-- The actions of a reachable bond are numbered by their places. -/
theorem Reachable.placed (h : b.Reachable) : b.actions.Placed := by
  induction h with
  | created hcreated =>
    obtain ⟨-, rfl⟩ := create_eq_ok_iff.mp hcreated
    exact ActionStore.numbered_empty.placed
  | loaded _ hplaced => exact hplaced
  | after desk command hbefore ih =>
    obtain hleft | ⟨outcome, facts, changed, hperformed, hafter⟩ :=
      after_eq_or_performed hbefore.consistent desk command
    · rw [hleft]
      exact ih
    · rw [hafter]
      exact (hperformed.keepsTo ih).placed

/-- What is restored from the text of a reachable bond's own state is reachable again. -/
theorem Reachable.reloaded (h : b.Reachable) {config : Config} {now : Timestamp}
    (hload : load config (b.save now) = .ok b') : b'.Reachable := by
  obtain ⟨-, saved, hdecode, -, -, rfl⟩ := load_eq_ok_iff.mp hload
  rw [save, Checkpoint.decodeText?_print] at hdecode
  obtain rfl := Option.some.inj hdecode
  exact .loaded hload h.placed

/-! ### Coupons that can be asked for -/

/-- A coupon that is found is an action with the number that stands at its place. -/
theorem couponOf_eq_ok_iff_get? : b.couponOf couponId = .ok found ↔
    found.couponId = couponId ∧ nth? b.actions.couponIds couponId = some found.actionId ∧
      ∃ a, b.actions.get? found.actionId = .ok a ∧ a.kind = .coupon found.coupon ∧
        a.snapshotId = found.snapshotId := by
  unfold couponOf ActionStore.idOfIndex? ActionStore.idsOf
  dsimp only
  constructor
  · intro h
    split at h
    · cases h
    · next id hid =>
      split at hid
      · next id' hnth =>
        cases hid
        split at h
        · cases h
        · next a hget =>
          split at h
          · next coupon hcoupon =>
            cases h
            exact ⟨rfl, hnth, a, hget, ActionKind.coupon?_eq_some_iff.mp hcoupon, rfl⟩
          · cases h
      · cases hid
  · obtain ⟨number, id, coupon, snapshotId⟩ := found
    rintro ⟨rfl, hnth, a, hget, hkind, rfl⟩
    rw [hnth]
    dsimp only
    rw [hget]
    dsimp only
    rw [hkind]
    rfl

/-- Every number up to the count of coupons is the number of a coupon. -/
theorem Agrees.exists_couponOf (h : b.Agrees) (hne : couponId ≠ 0)
    (hle : couponId.toNat ≤ b.actions.countOf .coupon) :
    ∃ found, b.couponOf couponId = .ok found := by
  cases hcoupon : b.couponAt? couponId with
  | some entry =>
    obtain ⟨snapshotId, hfound⟩ := couponOf_eq_ok_iff.mpr hcoupon
    exact ⟨_, hfound⟩
  | none =>
    -- the numbers of coupons stand side by side, so there is one at this place
    have hplace := toNat_eq_succ_iff.mpr ⟨hne, rfl⟩
    have hlt : couponId.toNat - 1 < b.actions.couponIds.length := by
      rw [hplace] at hle
      exact hle
    have hnth := nth?_eq_some_iff.mpr ⟨hne, List.getElem?_eq_getElem hlt⟩
    rw [h.nth?_eq_none hcoupon] at hnth
    cases hnth

/-- A coupon that can be asked for can be asked for when the actions have grown. -/
theorem couponOf_of_growsTo (h : b.actions.GrowsTo b'.actions)
    (hfound : b.couponOf couponId = .ok found) :
    ∃ snapshotId, b'.couponOf couponId = .ok { found with snapshotId } ∧
      (found.snapshotId ≠ 0 → snapshotId = found.snapshotId) := by
  obtain ⟨hnumber, hnth, a, hget, hkind, hsnapshot⟩ := couponOf_eq_ok_iff_get?.mp hfound
  obtain ⟨snapshotId, hget', hkept⟩ := h.get? hget
  have hnth' : nth? b'.actions.couponIds couponId = some found.actionId := by
    obtain ⟨hne, hat⟩ := nth?_eq_some_iff.mp hnth
    obtain ⟨added, hadded⟩ := h.couponIds
    rw [← hadded]
    refine nth?_eq_some_iff.mpr ⟨hne, ?_⟩
    rw [List.getElem?_append_left (List.getElem?_eq_some_iff.mp hat).1, hat]
  refine ⟨snapshotId, couponOf_eq_ok_iff_get?.mpr ⟨hnumber, hnth', _, hget', hkind, rfl⟩, ?_⟩
  rw [← hsnapshot]
  exact hkept

/-- A coupon that is found is one of the actions. -/
theorem Agrees.exists_mem_of_couponOf (h : b.Agrees) (hfound : b.couponOf couponId = .ok found) :
    ∃ a ∈ b.actions.actions, a.id = found.actionId ∧ a.kind = .coupon found.coupon ∧
      a.snapshotId = found.snapshotId := by
  obtain ⟨-, -, a, hget, hkind, hsnapshot⟩ := couponOf_eq_ok_iff_get?.mp hfound
  obtain ⟨ha, hid⟩ := h.numbered.placed.get?_eq_ok_iff.mp hget
  exact ⟨a, ha, hid, hkind, hsnapshot⟩

/-- The coupons that can be asked for are in order. -/
theorem CouponsInOrder.of_couponOf (h : b.CouponsInOrder) (hagrees : b.Agrees)
    (hfound : b.couponOf couponId = .ok found) :
    found.coupon.Ordered ∧ found.coupon.rateDecimals ≤ maxDecimals := by
  obtain ⟨a, ha, -, hkind, -⟩ := hagrees.exists_mem_of_couponOf hfound
  exact h _ (hkind ▸ List.mem_map_of_mem ha)

end Bond

/-! ### Histories -/

namespace Session

variable {config : Config} {s : Session}

/-- A history only adds to what is on record. -/
theorem Sound.growsTo_run (h : s.Sound config) (moves : List Move) :
    s.bond.GrowsTo (s.run moves).bond :=
  h.bond_keeps (fun halike hgrows => hgrows.trans halike.growsTo)
    (fun hsound hperformed hgrows =>
      hgrows.trans (hperformed.growsTo hsound.agrees.numbered.placed)) (.refl _) moves

/-- Whatever a history accepts, the coupons on record are in order. -/
theorem Sound.couponsInOrder_run (h : s.Sound config) (horder : s.bond.CouponsInOrder)
    (moves : List Move) : (s.run moves).bond.CouponsInOrder :=
  h.bond_keeps (fun halike => (halike.congr Bond.CouponsInOrder fun _ _ => rfl).mpr)
    (fun hsound hperformed => hperformed.couponsInOrder hsound.agrees.numbered.placed) horder moves

/-- Between two points of a history events and snapshots are only added, and the actions stand
where they stood with their numbers and payments.  The snapshot of an action is the same, or it
was still open at the first point and is settled for good at the second.  The coupons with the
numbers up to the count at the first point are found at both, with the same terms and under the
same action, and their dates are in order. -/
theorem history_only_grows {b : Bond} (hcreate : Bond.create config = .ok b) (start : Clock)
    (earlier later : List Move) :
    let s := (⟨b, start⟩ : Session).run earlier
    let s' := s.run later
    s.bond.events <+: s'.bond.events ∧
    s.bond.snapshots.snapshots <+: s'.bond.snapshots.snapshots ∧
    (∀ (place : Nat) (a : Action), s.bond.actions.actions[place]? = some a →
      ∃ snapshotId, s'.bond.actions.actions[place]? = some { a with snapshotId } ∧
        (snapshotId = a.snapshotId ∨ a.snapshotId = 0 ∧ snapshotId ≠ 0 ∧
          ∀ further : List Move,
            (s'.run further).bond.actions.actions[place]? = some { a with snapshotId })) ∧
    ∀ couponId, couponId ≠ 0 → couponId.toNat ≤ s.bond.actions.countOf .coupon →
      ∃ found snapshotId, s.bond.couponOf couponId = .ok found ∧
        s'.bond.couponOf couponId = .ok { found with snapshotId } ∧
        found.coupon.Ordered ∧ found.coupon.rateDecimals ≤ maxDecimals := by
  intro s s'
  have hopened := sound_of_create hcreate start
  have hsound : s.Sound config := hopened.run earlier
  have hsound' : s'.Sound config := hsound.run later
  have hgrows : s.bond.GrowsTo s'.bond := hsound.growsTo_run later
  have horder : s.bond.CouponsInOrder := by
    refine hopened.couponsInOrder_run ?_ earlier
    obtain ⟨-, rfl⟩ := Bond.create_eq_ok_iff.mp hcreate
    exact fun _ hmem => nomatch hmem
  refine ⟨hgrows.events, hgrows.snapshots, fun place a hat => ?_, fun couponId hne hle => ?_⟩
  · obtain ⟨snapshotId, hat', hkept⟩ := hgrows.actions.action place a hat
    refine ⟨snapshotId, hat', ?_⟩
    by_cases hsame : snapshotId = a.snapshotId
    · exact .inl hsame
    · have hopen : a.snapshotId = 0 := by
        by_contra hnamed
        exact hsame (hkept hnamed)
      have hnamed : snapshotId ≠ 0 := fun hzero => hsame (hzero.trans hopen.symm)
      refine .inr ⟨hopen, hnamed, fun further => ?_⟩
      obtain ⟨final, hfinal, hsettled⟩ :=
        (hsound'.growsTo_run further).actions.action place _ hat'
      rw [hfinal, hsettled hnamed]
  · obtain ⟨found, hfound⟩ := hsound.agrees.exists_couponOf hne hle
    obtain ⟨snapshotId, hfound', -⟩ := Bond.couponOf_of_growsTo hgrows.actions hfound
    exact ⟨found, snapshotId, hfound, hfound', horder.of_couponOf hsound.agrees hfound⟩

/-- When the coupon was set its snapshot was open.  Since the transfer behind its record date it
names the first snapshot, and it will through every further history. -/
theorem sample_coupon_settled :
    Bond.create Bond.sampleConfig = .ok sampleStart.bond ∧
    (sampleStart.run (sampleHistory.take 2)).bond.actions.actions =
      [⟨1, .coupon sampleCoupon, 0⟩] ∧
    ∀ further : List Move,
      (((sampleStart.run (sampleHistory.take 2)).run (sampleHistory.drop 2)).run
        further).bond.actions.actions[0]? = some ⟨1, .coupon sampleCoupon, 1⟩ := by
  have hopened : Bond.create Bond.sampleConfig = .ok sampleStart.bond := rfl
  have hbefore : (sampleStart.run (sampleHistory.take 2)).bond.actions.actions =
      [⟨1, .coupon sampleCoupon, 0⟩] := by decide
  have hafter : ((sampleStart.run (sampleHistory.take 2)).run
      (sampleHistory.drop 2)).bond.actions.actions[0]? =
        some ⟨1, .coupon sampleCoupon, 1⟩ := by decide
  obtain ⟨-, -, hactions, -⟩ := history_only_grows hopened sampleStart.clock
    (sampleHistory.take 2) (sampleHistory.drop 2)
  obtain ⟨snapshotId, hat, hsettled⟩ := hactions 0 ⟨1, .coupon sampleCoupon, 0⟩
    (congrArg (fun actions : List Action => actions[0]?) hbefore)
  have hnumber : snapshotId = 1 :=
    congrArg Action.snapshotId (Option.some.inj (hat.symm.trans hafter))
  subst hnumber
  refine ⟨hopened, hbefore, ?_⟩
  rcases hsettled with hzero | ⟨-, -, hfinal⟩
  · cases hzero
  · exact hfinal

end Session

end CouponBond
