import CouponBond.Proofs.Agenda

/-!
# What a command does to the actions

A command keeps the balances of the moment before it for every record date that has come, and
adds at most one action, for which nothing is kept yet.

## Main Definitions

* `Bond.Agrees` — snapshots and agenda of a bond agree with its actions
* `Bond.kept` — what was kept for an action of a bond
* `Bond.Succeeds` — a bond that follows another one

## Main Results

* `SnapshotBook.Agrees.mem_due_iff` — what is due are the actions that wait and whose date has come
* `Bond.Performed.grows` — a change adds at most one action
* `Bond.Performed.succeeds` — what is kept when a command is performed
* `Bond.Agrees.after` — commands preserve the agreement
-/

namespace CouponBond

namespace SnapshotBook

variable {b : SnapshotBook} {s : ActionStore} {id : ActionId}

/-- What is due are the actions that name no snapshot and whose record date has come. -/
theorem Agrees.mem_due_iff (h : b.Agrees s) {now : Timestamp} {t : Trigger} : t ∈ b.due now s ↔
    ∃ a ∈ s.actions, a.snapshotId = 0 ∧ a.kind.recordDate ≤ now ∧
      t = ⟨a.kind.recordDate, a.id⟩ := by
  unfold due
  rw [List.mem_filter, h.mem_pending_iff]
  constructor
  · rintro ⟨⟨a, ha, hnone, rfl⟩, hdue⟩
    rw [Bool.and_eq_true, decide_eq_true_eq] at hdue
    exact ⟨a, ha, Action.hasSnapshot_eq_false_iff.mp hnone, hdue.1, rfl⟩
  · rintro ⟨a, ha, hnone, hdate, rfl⟩
    have hwaits := Action.hasSnapshot_eq_false_iff.mpr hnone
    refine ⟨⟨a, ha, hwaits, rfl⟩, ?_⟩
    simp [h.numbered.placed.get?_of_mem ha, hdate, hwaits]

/-- Nothing is kept for just the actions that name no snapshot. -/
theorem Agrees.kept_eq_none_iff (h : b.Agrees s) {a : Action} (ha : a ∈ s.actions) :
    b.kept s a.id = none ↔ a.snapshotId = 0 := by
  rw [← Action.hasSnapshot_eq_false_iff, ← h.isSome_kept ha, Option.isSome_eq_false_iff,
    Option.isNone_iff_eq_none]

/-- Balances are captured for the actions whose record date has come and for which nothing is
kept. -/
theorem Agrees.mem_captureDue_iff (h : b.Agrees s) {now : Timestamp} {l : Ledger} :
    id ∈ (b.captureDue now s l).map Capture.actionId ↔
      ∃ kind, s.kindOf? id = some kind ∧ kind.recordDate ≤ now ∧ b.kept s id = none := by
  rw [captureDue, List.map_map, List.mem_map]
  constructor
  · rintro ⟨t, ht, rfl⟩
    obtain ⟨a, ha, hnone, hdate, rfl⟩ := h.mem_due_iff.mp ht
    exact ⟨a.kind, h.numbered.placed.kindOf?_eq_some_iff.mpr ⟨a, ha, rfl, rfl⟩, hdate,
      (h.kept_eq_none_iff ha).mpr hnone⟩
  · rintro ⟨kind, hkind, hdate, hnone⟩
    obtain ⟨a, ha, rfl, rfl⟩ := h.numbered.placed.kindOf?_eq_some_iff.mp hkind
    exact ⟨⟨a.kind.recordDate, a.id⟩,
      h.mem_due_iff.mpr ⟨a, ha, (h.kept_eq_none_iff ha).mp hnone, hdate, rfl⟩, rfl⟩

theorem holdings_of_mem_captureDue {now : Timestamp} {l : Ledger} :
    ∀ c ∈ b.captureDue now s l, c.holdings = .ofLedger l := by
  intro c hc
  obtain ⟨t, -, rfl⟩ := List.mem_map.mp hc
  rfl

theorem Agrees.fitting_captureDue (h : b.Agrees s) (now : Timestamp) (l : Ledger) :
    Fitting s (b.captureDue now s l) := by
  intro c hc
  obtain ⟨t, ht, rfl⟩ := List.mem_map.mp hc
  obtain ⟨a, ha, -, -, rfl⟩ := h.mem_due_iff.mp ht
  exact ⟨a.kind, h.numbered.placed.kindOf?_eq_some_iff.mpr ⟨a, ha, rfl, rfl⟩, rfl⟩

/-- Nothing is kept for a number that no action has. -/
theorem kept_eq_none (h : s.kindOf? id = none) : b.kept s id = none := by
  unfold kept
  unfold ActionStore.kindOf? at h
  split
  · next hget =>
    rw [hget] at h
    cases h
  · rfl

/-- An action that is added changes no other one, and nothing is kept for it. -/
theorem Agrees.kept_schedule (h : b.Agrees s) {next : ActionId} (hnext : s.nextId? = some next)
    (kind : ActionKind) (id : ActionId) :
    (b.schedule next kind.recordDate).kept (s.push next kind) id = b.kept s id := by
  by_cases hid : id = next
  · rw [hid, kept_eq_none (h.numbered.placed.kindOf?_next hnext), kept,
      h.numbered.placed.get?_push hnext, if_pos rfl]
    rfl
  · rw [kept, h.numbered.placed.get?_push hnext, if_neg hid]
    rfl

end SnapshotBook

namespace Bond

/-- Snapshots and agenda of a bond agree with its actions. -/
def Agrees (b : Bond) : Prop := b.snapshots.Agrees b.actions

/-- What was kept for an action of a bond, if anything was. -/
def kept (b : Bond) (id : ActionId) : Option Holdings := b.snapshots.kept b.actions id

variable {desk : Desk} {b changed : Bond} {command : Command} {outcome : Outcome}
  {facts : List Fact}

/-- A change leaves the actions as they are or adds a coupon. -/
theorem Performed.grows (h : Performed desk b command outcome facts changed) :
    (changed.actions = b.actions ∧ changed.snapshots = b.snapshots) ∨
    ∃ next coupon, b.actions.nextId? = some next ∧ coupon.checkDates desk.now = .ok () ∧
      coupon.rateDecimals ≤ maxDecimals ∧
      changed.actions = b.actions.push next (.coupon coupon) ∧
      changed.snapshots = b.snapshots.schedule next coupon.recordDate := by
  cases h with
  | @setCoupon coupon actionId actions _ hdates hrate happend =>
    obtain ⟨next, hnext, heq⟩ := Option.map_eq_some_iff.mp happend
    cases heq
    exact .inr ⟨_, coupon, hnext, hdates, hrate, rfl, rfl⟩
  | updateMaturityDate => exact .inl ⟨rfl, rfl⟩
  | issue => exact .inl ⟨rfl, rfl⟩
  | transfer => exact .inl ⟨rfl, rfl⟩
  | redeem => exact .inl ⟨rfl, rfl⟩
  | redeemAtMaturity => exact .inl ⟨rfl, rfl⟩
  | redeemAllAtMaturity => exact .inl ⟨rfl, rfl⟩
  | lock => exact .inl ⟨rfl, rfl⟩
  | releaseLock => exact .inl ⟨rfl, rfl⟩
  | createHold => exact .inl ⟨rfl, rfl⟩
  | executeHold => exact .inl ⟨rfl, rfl⟩
  | releaseHold => exact .inl ⟨rfl, rfl⟩
  | freeze => exact .inl ⟨rfl, rfl⟩
  | unfreeze => exact .inl ⟨rfl, rfl⟩
  | createClearing => exact .inl ⟨rfl, rfl⟩
  | approveClearing => exact .inl ⟨rfl, rfl⟩
  | cancelClearing => exact .inl ⟨rfl, rfl⟩

/-- The changed store has the actions that there were. -/
theorem Performed.mem_actions (h : Performed desk b command outcome facts changed) {a : Action}
    (ha : a ∈ b.actions.actions) : a ∈ changed.actions.actions := by
  obtain ⟨hactions, -⟩ | ⟨next, coupon, -, -, -, hactions, -⟩ := h.grows
  · rw [hactions]
    exact ha
  · rw [hactions]
    exact ActionStore.mem_push_iff.mpr (.inl ha)

/-- A change keeps the agreement: a coupon that it adds waits for its record date. -/
theorem Performed.agrees (hperformed : Performed desk b command outcome facts changed)
    (h : b.Agrees) : changed.Agrees := by
  obtain ⟨hactions, hsnapshots⟩ | ⟨next, coupon, hnext, -, -, hactions, hsnapshots⟩ :=
    hperformed.grows
  · rw [Agrees, hactions, hsnapshots]
    exact h
  · rw [Agrees, hactions, hsnapshots]
    exact SnapshotBook.Agrees.schedule h hnext (.coupon coupon)

/-- A bond that follows another one at a time: no action is lost or changed, none is added but
coupons that were checked, and for those whose record date has come and for which nothing was
kept, the balances of the other one are kept. -/
structure Succeeds (b : Bond) (now : Timestamp) (b' : Bond) : Prop where
  agrees : b'.Agrees
  kindOf?_of_eq_some : ∀ id kind, b.actions.kindOf? id = some kind →
    b'.actions.kindOf? id = some kind
  couponIds_eq : ∃ added, b'.actions.couponIds = b.actions.couponIds ++ added ∧
    ∀ id ∈ added, b.actions.kindOf? id = none
  kindOf?_of_new : ∀ id kind, b.actions.kindOf? id = none →
    b'.actions.kindOf? id = some kind →
      ∃ coupon, kind = .coupon coupon ∧ coupon.rateDecimals ≤ maxDecimals
  kept_of_known : ∀ id kind, b.actions.kindOf? id = some kind →
    b'.kept id = (b.kept id).or (if kind.recordDate ≤ now then some (.ofLedger b.ledger) else none)
  kept_of_new : ∀ id, b.actions.kindOf? id = none → b'.kept id = none

/-- Keeping the captures of the moment before a change makes the bond follow. -/
theorem Agrees.succeeds (h : b.Agrees) {now : Timestamp} (hagrees : changed.Agrees)
    (hkind : ∀ id kind, b.actions.kindOf? id = some kind →
      changed.actions.kindOf? id = some kind)
    (hids : ∃ added, changed.actions.couponIds = b.actions.couponIds ++ added ∧
      ∀ id ∈ added, b.actions.kindOf? id = none)
    (hadded : ∀ id kind, b.actions.kindOf? id = none → changed.actions.kindOf? id = some kind →
      ∃ coupon, kind = .coupon coupon ∧ coupon.rateDecimals ≤ maxDecimals)
    (hkept : ∀ id, changed.kept id = b.kept id) :
    b.Succeeds now (b.closed now changed facts) := by
  -- the captures were taken before the change, which keeps the actions they were taken for
  have hfitting : SnapshotBook.Fitting changed.actions
      (b.snapshots.captureDue now b.actions b.ledger) := by
    intro c hc
    obtain ⟨kind, hknown, hdate⟩ := SnapshotBook.Agrees.fitting_captureDue h now b.ledger c hc
    exact ⟨kind, hkind _ _ hknown, hdate⟩
  have hfollows := SnapshotBook.Agrees.commit hagrees hfitting
    SnapshotBook.holdings_of_mem_captureDue
  have hnew : ∀ id, (b.closed now changed facts).kept id = (b.kept id).or
      (if id ∈ (b.snapshots.captureDue now b.actions b.ledger).map Capture.actionId then
        some (.ofLedger b.ledger) else none) := by
    intro id
    rw [← hkept id]
    exact hfollows.kept_eq id
  refine ⟨hfollows.agrees, ?_, ?_, ?_, ?_, ?_⟩
  · intro id kind hknown
    exact (hfollows.kindOf?_eq id).trans (hkind id kind hknown)
  · obtain ⟨added, hids, hnew⟩ := hids
    exact ⟨added, hfollows.couponIds_eq.trans hids, hnew⟩
  · intro id kind hunknown hnow
    exact hadded id kind hunknown ((hfollows.kindOf?_eq id).symm.trans hnow)
  · intro id kind hknown
    rw [hnew]
    cases hbefore : b.kept id with
    | some holdings => rfl
    | none =>
      have hdue : id ∈ (b.snapshots.captureDue now b.actions b.ledger).map Capture.actionId ↔
          kind.recordDate ≤ now := by
        rw [SnapshotBook.Agrees.mem_captureDue_iff h]
        constructor
        · rintro ⟨kind', hkind', hdate, -⟩
          rw [hknown] at hkind'
          cases hkind'
          exact hdate
        · intro hdate
          exact ⟨kind, hknown, hdate, hbefore⟩
      simp only [hdue]
  · intro id hunknown
    rw [hnew, show b.kept id = none from SnapshotBook.kept_eq_none hunknown, if_neg]
    · rfl
    · intro hdue
      obtain ⟨kind, hknown, -⟩ := (SnapshotBook.Agrees.mem_captureDue_iff h).mp hdue
      rw [hunknown] at hknown
      cases hknown

/-- A command that is performed makes the bond follow. -/
theorem Performed.succeeds (hperformed : Performed desk b command outcome facts changed)
    (h : b.Agrees) : b.Succeeds desk.now (b.closed desk.now changed facts) := by
  obtain ⟨hactions, hsnapshots⟩ | ⟨next, coupon, hnext, -, hrate, hactions, hsnapshots⟩ :=
    hperformed.grows
  · refine h.succeeds (hperformed.agrees h) ?_ ?_ ?_ ?_
    · rw [hactions]
      exact fun _ _ hknown => hknown
    · rw [hactions]
      exact ⟨[], (List.append_nil _).symm, fun _ hid => nomatch hid⟩
    · intro id kind hunknown hnow
      rw [hactions, hunknown] at hnow
      cases hnow
    · intro id
      rw [kept, hactions, hsnapshots]
      rfl
  · refine h.succeeds (hperformed.agrees h) ?_ ?_ ?_ ?_
    · intro id kind hknown
      obtain ⟨a, ha, rfl, rfl⟩ := h.numbered.placed.kindOf?_eq_some_iff.mp hknown
      exact (hperformed.agrees h).numbered.placed.kindOf?_eq_some_iff.mpr
        ⟨a, hperformed.mem_actions ha, rfl, rfl⟩
    · rw [hactions]
      refine ⟨[next], rfl, fun id hid => ?_⟩
      rw [List.mem_singleton.mp hid]
      exact h.numbered.placed.kindOf?_next hnext
    · intro id kind hunknown hnow
      rw [hactions] at hnow
      obtain ⟨a, ha, rfl, rfl⟩ := (h.numbered.placed.push hnext _).kindOf?_eq_some_iff.mp hnow
      rcases ActionStore.mem_push_iff.mp ha with hold | rfl
      · cases hunknown.symm.trans (h.numbered.placed.kindOf?_eq_some_iff.mpr ⟨a, hold, rfl, rfl⟩)
      · exact ⟨coupon, rfl, hrate⟩
    · intro id
      rw [kept, hactions, hsnapshots]
      exact SnapshotBook.Agrees.kept_schedule h hnext (.coupon coupon) id

/-- A command that is refused leaves the bond, and one that is applied makes it follow. -/
theorem Agrees.after_cases (h : b.Agrees) (hledger : b.ledger.Consistent) (desk : Desk)
    (command : Command) :
    b.after desk command = b ∨ b.Succeeds desk.now (b.after desk command) := by
  obtain hleft | ⟨outcome, facts, changed, hperformed, hafter⟩ :=
    after_eq_or_performed hledger desk command
  · exact .inl hleft
  · rw [hafter]
    exact .inr (hperformed.succeeds h)

/-- Commands preserve the agreement, applied or refused. -/
theorem Agrees.after (h : b.Agrees) (hledger : b.ledger.Consistent) (desk : Desk)
    (command : Command) : (b.after desk command).Agrees := by
  rcases h.after_cases hledger desk command with hleft | hsucceeds
  · rw [hleft]
    exact h
  · exact hsucceeds.agrees

end Bond

end CouponBond
