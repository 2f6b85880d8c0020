import CouponBond.Proofs.AppendOnly

/-!
# Record dates that have come

Every command that is applied, whatever it is about, first catches up with the calendar: for each
action whose record date has come and for which nothing was kept, the balances of the moment
before the command are kept, in the order of the record dates, and the log says so before it says
what the command did.  Nothing is kept for any other action, and so nothing is lost, late or early.

Which actions are due is known from `SnapshotBook.Agrees.mem_due_iff`.  What is added here is the
order, the numbers and the log.

## Main Definitions

* `Trigger.Before` — the order of record dates
* `SnapshotBook.Takes` — captures that all become snapshots
* `Bond.CatchesUp` — what an applied command does about the record dates that have come

## Main Results

* `SnapshotBook.due_ascending` — what is due is enumerated in the order of the record dates
* `SnapshotBook.Agrees.takes_commit` — captures of different actions that wait are all kept
* `Bond.Performed.catchesUp` — what one command does
* `Session.record_dates_on_time` — after any history
-/

namespace CouponBond

/-! ### What is due -/

/-- Earlier dates come first, and of one date the smaller number. -/
def Trigger.Before (t t' : Trigger) : Prop :=
  t.recordDate < t'.recordDate ∨ t.recordDate = t'.recordDate ∧ t.actionId < t'.actionId

theorem Trigger.before_iff {t t' : Trigger} : t.Before t' ↔ rank t < rank t' := by
  have hid := t.actionId.toNat_lt_size
  have hid' := t'.actionId.toNat_lt_size
  unfold Before
  rw [UInt64.lt_iff_toNat_lt, UInt64.lt_iff_toNat_lt, ← UInt64.toNat_inj]
  show _ ↔ t.recordDate.toNat * UInt64.size + t.actionId.toNat <
    t'.recordDate.toNat * UInt64.size + t'.actionId.toNat
  constructor
  · rintro (hlt | ⟨heq, hlt⟩)
    · have := Nat.mul_le_mul_right UInt64.size (Nat.succ_le_of_lt hlt)
      rw [Nat.succ_mul] at this
      omega
    · rw [heq]
      omega
  · intro hlt
    rcases Nat.lt_trichotomy t.recordDate.toNat t'.recordDate.toNat with h | h | h
    · exact .inl h
    · exact .inr ⟨h, by rw [h] at hlt; omega⟩
    · have := Nat.mul_le_mul_right UInt64.size (Nat.succ_le_of_lt h)
      rw [Nat.succ_mul] at this
      omega

namespace SnapshotBook

variable {b : SnapshotBook} {s : ActionStore} {now : Timestamp}

/-- What is due is enumerated by record date, and by number where several dates are the same. -/
theorem due_ascending (b : SnapshotBook) (now : Timestamp) (s : ActionStore) :
    (b.due now s).Pairwise Trigger.Before := by
  refine List.Pairwise.filter _ (List.pairwise_map.mpr ?_)
  exact b.pending.ascending.imp Trigger.before_iff.mpr

/-- An action is due once. -/
theorem Agrees.nodup_due (h : b.Agrees s) :
    ((b.due now s).map Trigger.actionId).Nodup := by
  have hnodup : (b.due now s).Nodup := (b.due_ascending now s).imp fun hbefore heq => by
    rw [heq, Trigger.before_iff] at hbefore
    exact Nat.lt_irrefl _ hbefore
  refine hnodup.map_on fun t ht t' ht' hid => ?_
  obtain ⟨a, ha, -, -, rfl⟩ := h.mem_due_iff.mp ht
  obtain ⟨a', ha', -, -, rfl⟩ := h.mem_due_iff.mp ht'
  rw [h.numbered.placed.eq_of_id_eq ha ha' hid]

end SnapshotBook

/-! ### Captures that become snapshots -/

/-- What is reported of a snapshot. -/
def Snapshot.notice (snapshot : Snapshot) : SnapshotNotice :=
  ⟨snapshot.id, snapshot.actionId, UInt64.ofNat snapshot.holdings.holders.length⟩

namespace SnapshotBook

variable {b : SnapshotBook} {s : ActionStore} {captures : List Capture}

/-- Captures that all become snapshots: these stand behind the others, in the order of the
captures and numbered on, and each is reported. -/
structure Takes (b : SnapshotBook) (captures : List Capture) (taken : List Snapshot)
    (notices : List SnapshotNotice) (b' : SnapshotBook) : Prop where
  snapshots_eq : b'.snapshots = b.snapshots ++ taken
  notices_eq : notices = taken.map Snapshot.notice
  map_actionId_eq : taken.map Snapshot.actionId = captures.map Capture.actionId
  toNat_id : ∀ (i : Nat) (snapshot : Snapshot), taken[i]? = some snapshot →
    snapshot.id.toNat = b.snapshots.length + i + 1
  exists_capture : ∀ snapshot ∈ taken, ∃ c ∈ captures,
    snapshot.takenAt = c.takenAt ∧ snapshot.holdings = c.holdings

/-- Captures that can all be kept: each was taken for another action, which names no snapshot. -/
structure Waiting (s : ActionStore) (captures : List Capture) : Prop where
  distinct : (captures.map Capture.actionId).Nodup
  waits : ∀ c ∈ captures, ∃ a ∈ s.actions, a.id = c.actionId ∧ a.hasSnapshot = false ∧
    a.kind.recordDate = c.recordDate

/-- A snapshot for one action leaves the others waiting. -/
theorem Waiting.tail {c : Capture} {rest : List Capture} (h : Waiting s (c :: rest))
    (hplaced : s.Placed) {a : Action} (ha : a ∈ s.actions) (hid : a.id = c.actionId)
    (number : SnapshotId) : Waiting (s.named a number) rest := by
  obtain ⟨hfirst, hdistinct⟩ := List.nodup_cons.mp h.distinct
  refine ⟨hdistinct, fun d hd => ?_⟩
  obtain ⟨e, he, heid, hwaits⟩ := h.waits d (.tail _ hd)
  refine ⟨e, (hplaced.mem_named_iff ha number).mpr (.inr ⟨he, fun hsame => ?_⟩), heid, hwaits⟩
  refine hfirst (List.mem_map.mpr ⟨d, hd, ?_⟩)
  rw [← heid, hsame, hid]

/-- Captures of different actions that wait are all kept. -/
theorem Agrees.takes_commit (h : b.Agrees s) (hwaiting : Waiting s captures) :
    ∃ taken, b.Takes captures taken (b.commit s captures).1 (b.commit s captures).2.1 := by
  induction captures generalizing b s with
  | nil =>
    exact ⟨[], (List.append_nil _).symm, rfl, rfl, fun _ _ hat => (nomatch hat),
      fun _ hmem => (nomatch hmem)⟩
  | cons c rest ih =>
    obtain ⟨a, ha, hid, hnone, hdate⟩ := hwaiting.waits c (.head _)
    have hone : b.commitOne s c = (some ⟨b.nextId, a.id, UInt64.ofNat c.holdings.holders.length⟩,
        b.keep a c, s.named a b.nextId) := by
      rw [h.commitOne_eq ha hid.symm hdate.symm, hnone]
      rfl
    obtain ⟨taken, hmore⟩ := ih (h.keep ha hnone c)
      (hwaiting.tail h.numbered.placed ha hid b.nextId)
    refine ⟨⟨b.nextId, a.id, c.takenAt, c.holdings⟩ :: taken, ?_⟩
    unfold SnapshotBook.commit
    rw [hone]
    dsimp only
    refine ⟨?_, ?_, ?_, fun i snapshot hat => ?_, ?_⟩
    · rw [hmore.snapshots_eq, SnapshotBook.keep, List.append_assoc, List.singleton_append]
    · rw [hmore.notices_eq]
      rfl
    · rw [List.map_cons, List.map_cons, hmore.map_actionId_eq, hid]
    · cases i with
      | zero =>
        cases hat
        exact h.toNat_nextId ha hnone
      | succ i =>
        have hlater := hmore.toNat_id i snapshot hat
        rw [SnapshotBook.keep, List.length_append, List.length_singleton] at hlater
        omega
    · rw [List.forall_mem_cons]
      refine ⟨⟨c, .head _, rfl, rfl⟩, fun snapshot hmem => ?_⟩
      obtain ⟨d, hd, hsame⟩ := hmore.exists_capture snapshot hmem
      exact ⟨d, .tail _ hd, hsame⟩

end SnapshotBook

/-! ### Commands -/

namespace Bond

/-- What an applied command does about the record dates that have come by its time: `triggers` are
those for which nothing was kept yet, and `taken` are the snapshots that were taken for them. -/
structure CatchesUp (b : Bond) (now : Timestamp) (facts : List Fact) (b' : Bond)
    (triggers : List Trigger) (taken : List Snapshot) : Prop where
  mem_triggers_iff : ∀ t, t ∈ triggers ↔ ∃ a ∈ b.actions.actions,
    a.snapshotId = 0 ∧ a.kind.recordDate ≤ now ∧ t = ⟨a.kind.recordDate, a.id⟩
  ascending : triggers.Pairwise Trigger.Before
  /-- One snapshot for each of them, in their order. -/
  map_actionId_eq : taken.map Snapshot.actionId = triggers.map Trigger.actionId
  /-- The numbers go on where those of the earlier snapshots end. -/
  toNat_id : ∀ (i : Nat) (snapshot : Snapshot), taken[i]? = some snapshot →
    snapshot.id.toNat = b.snapshots.count + i + 1
  /-- What is kept are the balances of the moment before the command. -/
  moment : ∀ snapshot ∈ taken, snapshot.takenAt = now ∧ snapshot.holdings = .ofLedger b.ledger
  snapshots_eq : b'.snapshots.snapshots = b.snapshots.snapshots ++ taken
  /-- The log tells of the snapshots first. -/
  events_eq : b'.events = b.events ++
    taken.map (fun snapshot => ⟨now, .snapshotTaken snapshot.id snapshot.actionId
      (UInt64.ofNat snapshot.holdings.holders.length)⟩) ++ facts.map fun f => ⟨now, f⟩
  own_facts : ∀ id actionId holders, Fact.snapshotTaken id actionId holders ∉ facts
  /-- A coupon whose record date has come has its snapshot. -/
  due : ∀ couponId found, b.couponOf couponId = .ok found → found.coupon.recordDate ≤ now →
    ∃ snapshotId snapshot, b'.couponOf couponId = .ok { found with snapshotId } ∧
      b'.snapshots.get? snapshotId = some snapshot ∧ snapshot.actionId = found.actionId
  /-- A coupon whose record date is still to come is as it was. -/
  waiting : ∀ couponId found, b.couponOf couponId = .ok found → now < found.coupon.recordDate →
    b'.couponOf couponId = .ok found
  /-- A coupon that was not there before has no snapshot. -/
  accepted : ∀ couponId found, (∀ before, b.couponOf couponId ≠ .ok before) →
    b'.couponOf couponId = .ok found → found.snapshotId = 0 ∧
      ∀ snapshot ∈ b'.snapshots.snapshots, snapshot.actionId ≠ found.actionId

variable {b b' changed : Bond} {desk : Desk} {command : Command} {outcome : Outcome}
  {facts : List Fact} {couponId : UInt64} {found : RegisteredCoupon}

/-- A command adds no fact about snapshots of its own. -/
theorem Performed.own_facts (h : Performed desk b command outcome facts changed)
    (id : SnapshotId) (actionId : ActionId) (holders : UInt64) :
    Fact.snapshotTaken id actionId holders ∉ facts := by
  cases h <;> simp [factOfUnits]

/-- What was captured waits in the changed store as well. -/
theorem Performed.waiting_captureDue (h : Performed desk b command outcome facts changed)
    (hagrees : b.Agrees) : SnapshotBook.Waiting changed.actions
      (b.snapshots.captureDue desk.now b.actions b.ledger) := by
  constructor
  · unfold SnapshotBook.captureDue
    rw [List.map_map]
    exact SnapshotBook.Agrees.nodup_due hagrees
  · intro c hc
    obtain ⟨t, ht, rfl⟩ := List.mem_map.mp hc
    obtain ⟨a, ha, hnone, -, rfl⟩ := (SnapshotBook.Agrees.mem_due_iff hagrees).mp ht
    exact ⟨a, h.mem_actions ha, rfl, Action.hasSnapshot_eq_false_iff.mpr hnone, rfl⟩

/-- Nothing was kept for just the coupons that name no snapshot. -/
theorem Agrees.snapshotId_eq_zero_iff (h : b.Agrees)
    (hfound : b.couponOf couponId = .ok found) :
    found.snapshotId = 0 ↔ b.kept found.actionId = none := by
  obtain ⟨a, ha, hid, -, hsnapshot⟩ := h.exists_mem_of_couponOf hfound
  rw [← hsnapshot, ← hid]
  exact (SnapshotBook.Agrees.kept_eq_none_iff h ha).symm

/-- A coupon that names a snapshot names one that was taken for it. -/
theorem Agrees.exists_snapshot (h : b.Agrees) (hfound : b.couponOf couponId = .ok found)
    (hnamed : found.snapshotId ≠ 0) :
    ∃ snapshot, b.snapshots.get? found.snapshotId = some snapshot ∧
      snapshot.actionId = found.actionId := by
  obtain ⟨a, ha, hid, -, hsnapshot⟩ := h.exists_mem_of_couponOf hfound
  rw [← hsnapshot, ← hid]
  refine h.owner a ha ?_
  rw [← hsnapshot] at hnamed
  simpa [Action.hasSnapshot] using hnamed

/-- A coupon that names no snapshot is one for which none was taken. -/
theorem Agrees.actionId_ne (h : b.Agrees) (hfound : b.couponOf couponId = .ok found)
    (hnone : found.snapshotId = 0) {snapshot : Snapshot}
    (hmem : snapshot ∈ b.snapshots.snapshots) : snapshot.actionId ≠ found.actionId := by
  obtain ⟨a, ha, hid, -, hsnapshot⟩ := h.exists_mem_of_couponOf hfound
  obtain ⟨place, hat⟩ := List.mem_iff_getElem?.mp hmem
  obtain ⟨e, he, howner, hplace⟩ := h.named place snapshot hat
  intro hsame
  have heq : e = a :=
    h.numbered.placed.eq_of_id_eq he ha ((howner.trans hsame).trans hid.symm)
  rw [heq, hsnapshot, hnone] at hplace
  cases hplace

/-- What is kept for a coupon after a command. -/
theorem Succeeds.kept_of_couponOf {now : Timestamp} (h : b.Succeeds now b')
    (hfound : b.couponOf couponId = .ok found) :
    b'.kept found.actionId = (b.kept found.actionId).or
      (if found.coupon.recordDate ≤ now then some (.ofLedger b.ledger) else none) :=
  h.kept_of_known _ _ (couponAt?_eq_some_iff.mp (couponAt?_of_couponOf hfound)).2

theorem Succeeds.snapshot_of_due {now : Timestamp} (h : b.Succeeds now b')
    (hgrows : b.GrowsTo b') (hfound : b.couponOf couponId = .ok found)
    (hdate : found.coupon.recordDate ≤ now) :
    ∃ snapshotId snapshot, b'.couponOf couponId = .ok { found with snapshotId } ∧
      b'.snapshots.get? snapshotId = some snapshot ∧ snapshot.actionId = found.actionId := by
  obtain ⟨snapshotId, hfound', -⟩ := couponOf_of_growsTo hgrows.actions hfound
  have hnamed : snapshotId ≠ 0 := by
    intro hzero
    have hkept : b'.kept found.actionId = none :=
      (h.agrees.snapshotId_eq_zero_iff hfound').mp hzero
    rw [h.kept_of_couponOf hfound, if_pos hdate] at hkept
    cases hbefore : b.kept found.actionId <;> simp [hbefore] at hkept
  obtain ⟨snapshot, hsnapshot, howner⟩ := h.agrees.exists_snapshot hfound' hnamed
  exact ⟨snapshotId, snapshot, hfound', hsnapshot, howner⟩

theorem Succeeds.couponOf_of_lt {now : Timestamp} (h : b.Succeeds now b') (hagrees : b.Agrees)
    (hgrows : b.GrowsTo b') (hfound : b.couponOf couponId = .ok found)
    (hdate : now < found.coupon.recordDate) : b'.couponOf couponId = .ok found := by
  obtain ⟨snapshotId, hfound', hkept⟩ := couponOf_of_growsTo hgrows.actions hfound
  have hsame : snapshotId = found.snapshotId := by
    by_cases hnone : found.snapshotId = 0
    · -- nothing was kept before, and the record date is no reason to keep anything now
      have hstill : b'.kept found.actionId = none := by
        rw [h.kept_of_couponOf hfound, (hagrees.snapshotId_eq_zero_iff hfound).mp hnone,
          if_neg (UInt64.not_le.mpr hdate)]
        rfl
      rw [hnone]
      exact (h.agrees.snapshotId_eq_zero_iff hfound').mpr hstill
    · exact hkept hnone
  rw [hfound', hsame]

theorem Succeeds.snapshotId_of_accepted {now : Timestamp} (h : b.Succeeds now b')
    (hagrees : b.Agrees) (hnew : ∀ before, b.couponOf couponId ≠ .ok before)
    (hfound' : b'.couponOf couponId = .ok found) : found.snapshotId = 0 := by
  have hbefore : b.couponAt? couponId = none := by
    refine Option.eq_none_iff_forall_ne_some.mpr fun entry hentry => ?_
    obtain ⟨snapshotId, hfound⟩ := couponOf_eq_ok_iff.mpr hentry
    exact hnew _ hfound
  exact (h.agrees.snapshotId_eq_zero_iff hfound').mpr
    (h.kept_of_accepted hagrees hbefore (couponAt?_of_couponOf hfound'))

/-- Every command catches up with the record dates that have come. -/
theorem Performed.catchesUp (h : Performed desk b command outcome facts changed)
    (hagrees : b.Agrees) : ∃ triggers taken,
      b.CatchesUp desk.now facts (b.closed desk.now changed facts) triggers taken := by
  obtain ⟨taken, htakes⟩ := SnapshotBook.Agrees.takes_commit (h.agrees hagrees)
    (h.waiting_captureDue hagrees)
  have hsnapshots : changed.snapshots.snapshots = b.snapshots.snapshots :=
    (h.actions_growsTo hagrees.numbered.placed).2.2.1
  have hgrows := h.growsTo hagrees.numbered.placed
  have hsucceeds := h.succeeds hagrees
  refine ⟨b.snapshots.due desk.now b.actions, taken, ⟨?_, ?_, ?_, ?_, ?_, ?_, ?_, ?_, ?_, ?_, ?_⟩⟩
  · exact fun t => SnapshotBook.Agrees.mem_due_iff hagrees
  · exact b.snapshots.due_ascending desk.now b.actions
  · rw [htakes.map_actionId_eq, SnapshotBook.captureDue, List.map_map]
    rfl
  · intro i snapshot hat
    rw [htakes.toNat_id i snapshot hat, hsnapshots]
    rfl
  · intro snapshot hmem
    obtain ⟨c, hc, htime, hholdings⟩ := htakes.exists_capture snapshot hmem
    obtain ⟨t, -, rfl⟩ := List.mem_map.mp hc
    exact ⟨htime, hholdings⟩
  · rw [← hsnapshots]
    exact htakes.snapshots_eq
  · show changed.events ++ _ ++ _ = _
    rw [h.events_eq, htakes.notices_eq, List.map_map, List.map_map]
    rfl
  · exact h.own_facts
  · exact fun couponId found => hsucceeds.snapshot_of_due hgrows
  · exact fun couponId found => hsucceeds.couponOf_of_lt hagrees hgrows
  · intro couponId found hnew hfound'
    have hnone := hsucceeds.snapshotId_of_accepted hagrees hnew hfound'
    exact ⟨hnone, fun snapshot hmem => hsucceeds.agrees.actionId_ne hfound' hnone hmem⟩

/-! ### Numbers of coupons -/

/-- Every coupon is an action, so there are no more of them. -/
def CouponsCounted (b : Bond) : Prop :=
  b.actions.couponIds.length ≤ b.actions.actions.length

theorem Performed.couponsCounted (h : Performed desk b command outcome facts changed)
    (hagrees : b.Agrees) (hcounted : b.CouponsCounted) :
    (b.closed desk.now changed facts).CouponsCounted := by
  have hkeeps := h.keepsTo hagrees.numbered.placed
  have hlength := congrArg List.length hkeeps.map_kind_eq
  rw [List.length_map, List.length_map] at hlength
  have hchanged : changed.CouponsCounted := by
    unfold CouponsCounted at hcounted ⊢
    obtain ⟨hactions, -⟩ | ⟨next, coupon, -, -, -, hactions, -⟩ := h.grows
    · rw [hactions]
      exact hcounted
    · rw [hactions, ActionStore.actions_push, List.length_append]
      show (b.actions.couponIds ++ [next]).length ≤ _
      rw [List.length_append]
      exact Nat.add_le_add_right hcounted 1
  unfold CouponsCounted
  rw [hkeeps.couponIds_eq, hlength]
  exact hchanged

/-- The number of a coupon that is added is in range, because the number of its action is. -/
theorem CouponsCounted.toNat_countOf_push (h : b.CouponsCounted) {next : ActionId}
    (hnext : b.actions.nextId? = some next) (coupon : Coupon) :
    (UInt64.ofNat ((b.actions.push next (.coupon coupon)).countOf .coupon)).toNat =
      b.actions.couponIds.length + 1 := by
  have hcount : (b.actions.push next (.coupon coupon)).countOf .coupon =
      b.actions.couponIds.length + 1 := List.length_append
  have hnumber := ActionStore.toNat_nextId hnext
  have hrange := next.toNat_lt_size
  unfold CouponsCounted at h
  rw [hcount]
  exact UInt64.toNat_ofNat_of_lt' (by omega)

/-- Behind the last coupon there is none. -/
theorem couponOf_ne_ok (hplace : couponId.toNat = b.actions.couponIds.length + 1)
    (before : RegisteredCoupon) : b.couponOf couponId ≠ .ok before := by
  intro hbefore
  obtain ⟨-, hnth, -⟩ := couponOf_eq_ok_iff_get?.mp hbefore
  have hat := (nth?_eq_some_iff.mp hnth).2
  rw [(toNat_eq_succ_iff.mp hplace).2, List.getElem?_eq_none (Nat.le_refl _)] at hat
  cases hat

/-- A coupon that is added stands behind the last one. -/
theorem couponOf_of_push (hplaced : b.actions.Placed) {next : ActionId}
    (hnext : b.actions.nextId? = some next) {coupon : Coupon}
    (hactions : b'.actions = b.actions.push next (.coupon coupon))
    (hplace : couponId.toNat = b.actions.couponIds.length + 1) :
    b'.couponOf couponId = .ok ⟨couponId, next, coupon, 0⟩ := by
  obtain ⟨hne, hindex⟩ := toNat_eq_succ_iff.mp hplace
  refine couponOf_eq_ok_iff_get?.mpr ⟨rfl, nth?_eq_some_iff.mpr ⟨hne, ?_⟩,
    ⟨next, .coupon coupon, 0⟩, ?_, rfl, rfl⟩
  · rw [hactions, hindex]
    exact List.getElem?_concat_length
  · rw [hactions]
    exact (hplaced.get?_push hnext _ next).trans (if_pos rfl)

/-- The coupon that a command sets is found under the number that the command answers. -/
theorem Performed.couponOf_setCoupon {coupon : Coupon}
    (h : Performed desk b (.setCoupon coupon) outcome facts changed) (hagrees : b.Agrees)
    (hcounted : b.CouponsCounted) : ∃ couponId actionId, outcome = .couponSet couponId ∧
      (∀ before, b.couponOf couponId ≠ .ok before) ∧
      (b.closed desk.now changed facts).couponOf couponId =
        .ok ⟨couponId, actionId, coupon, 0⟩ := by
  have hsucceeds := h.succeeds hagrees
  have hkeeps := h.keepsTo hagrees.numbered.placed
  cases h with
  | @setCoupon _ next _ _ _ _ happend =>
    obtain ⟨id, hnext, heq⟩ := Option.map_eq_some_iff.mp happend
    cases heq
    have hplace := hcounted.toNat_countOf_push hnext coupon
    have hnew := couponOf_ne_ok hplace
    obtain ⟨snapshotId, hfound, -⟩ := couponOf_of_growsTo hkeeps.actions
      (couponOf_of_push hagrees.numbered.placed hnext rfl hplace)
    have hnone : snapshotId = 0 := hsucceeds.snapshotId_of_accepted hagrees hnew hfound
    exact ⟨_, next, rfl, hnew, hnone ▸ hfound⟩

end Bond

/-! ### Histories -/

namespace Session

variable {config : Config}

/-- After any history, every command that is applied catches up with the record dates that have
come: it takes one snapshot for each, in the order of the dates, and nothing else.  The log tells
of the snapshots, then of what the command did, and a coupon that the command sets has none. -/
theorem record_dates_on_time {b : Bond} (hcreate : Bond.create config = .ok b) (start : Clock)
    (history : List Move) (desk : Desk) (command : Command) {outcome : Outcome} {b' : Bond}
    (hdone : Bond.execute desk command ((⟨b, start⟩ : Session).run history).bond =
      .ok outcome b') :
    let s := (⟨b, start⟩ : Session).run history
    ∃ facts changed triggers taken,
      Bond.Performed desk s.bond command outcome facts changed ∧
      s.bond.CatchesUp desk.now facts b' triggers taken ∧
      ∀ coupon, command = .setCoupon coupon → ∃ couponId actionId,
        outcome = .couponSet couponId ∧
        (∀ before, s.bond.couponOf couponId ≠ .ok before) ∧
        b'.couponOf couponId = .ok ⟨couponId, actionId, coupon, 0⟩ := by
  intro s
  have hopened := sound_of_create hcreate start
  have hsound : s.Sound config := hopened.run history
  have hcounted : s.bond.CouponsCounted := by
    refine hopened.bond_keeps (fun halike => (halike.congr Bond.CouponsCounted fun _ _ => rfl).mpr)
      (fun hsound hperformed => hperformed.couponsCounted hsound.agrees) ?_ history
    obtain ⟨-, rfl⟩ := Bond.create_eq_ok_iff.mp hcreate
    exact Nat.le_refl 0
  obtain ⟨facts, changed, hperformed, rfl⟩ :=
    (Bond.execute_spec desk hsound.consistent command).of_ok hdone
  obtain ⟨triggers, taken, hcatches⟩ := hperformed.catchesUp hsound.agrees
  refine ⟨facts, changed, triggers, taken, hperformed, hcatches, ?_⟩
  rintro coupon rfl
  exact hperformed.couponOf_setCoupon hsound.agrees hcounted

/-- Ten units and three coupons, the last of which has the first record date; at time 55 all the
record dates have come. -/
def sampleCalendar : List Move :=
  [.command [] none (.issue (.ofLow 7) .default 10), .command [] none (.setCoupon sampleCoupon),
    .command [] none (.setCoupon sampleCoupon),
    .command [] none (.setCoupon { sampleCoupon with recordDate := 40 }), .advance 50]

/-- A fourth coupon, whose record date is the time at which it is set. -/
def sampleLateCoupon : Command := .setCoupon { sampleCoupon with recordDate := 55 }

/-- A fourth coupon is set on its own record date.  The snapshots of the other three are taken in
the order of their dates, and it gets none. -/
theorem sample_calendar_on_time :
    ∃ outcome b', Bond.execute ⟨55, [], none⟩ sampleLateCoupon
        (sampleStart.run sampleCalendar).bond = .ok outcome b' ∧
      b'.snapshots.snapshots.map (fun snapshot => (snapshot.id, snapshot.actionId)) =
        [(1, 3), (2, 1), (3, 2)] ∧
      b'.actions.actions.map Action.snapshotId = [2, 3, 1, 0] ∧
      ∃ facts triggers taken,
        (sampleStart.run sampleCalendar).bond.CatchesUp 55 facts b' triggers taken := by
  have hopened : Bond.create Bond.sampleConfig = .ok sampleStart.bond := rfl
  have hsound := (sound_of_create hopened sampleStart.clock).run sampleCalendar
  have hsnapshots : ((sampleStart.run sampleCalendar).bond.after ⟨55, [], none⟩
      sampleLateCoupon).snapshots.snapshots.map
        (fun snapshot => (snapshot.id, snapshot.actionId)) = [(1, 3), (2, 1), (3, 2)] := by decide
  have hactions : ((sampleStart.run sampleCalendar).bond.after ⟨55, [], none⟩
      sampleLateCoupon).actions.actions.map Action.snapshotId = [2, 3, 1, 0] := by decide
  cases hdone : Bond.execute ⟨55, [], none⟩ sampleLateCoupon
      (sampleStart.run sampleCalendar).bond with
  | ok outcome b' =>
    rw [Bond.after_of_ok hdone] at hsnapshots hactions
    obtain ⟨facts, -, triggers, taken, -, hcatches, -⟩ :=
      record_dates_on_time hopened sampleStart.clock sampleCalendar _ _ hdone
    exact ⟨outcome, b', rfl, hsnapshots, hactions, facts, triggers, taken, hcatches⟩
  | error e b' =>
    -- refused, the command would have left a bond without snapshots
    have hrefused := ((Bond.execute_spec _ hsound.consistent _).of_error hdone).1
    rw [Bond.after_of_error hdone, hrefused] at hsnapshots
    exact absurd hsnapshots (by decide)

end Session

end CouponBond
