import CouponBond.Proofs.Sessions

/-!
# Record dates

The balances that count for a coupon are those of the first moment at which the coupon is
accepted and its record date has come.  The bond keeps them only later, with the first change
that follows, and answers from the ledger until then.  That is never seen: whether a coupon is
answered from the ledger or from a snapshot, the answers are those of an eager bookkeeper who
takes the ledger down at that first moment, and they never change again.

## Main Definitions

* `Bond.couponAt?` — the coupon with a number, and its number among all actions
* `Bond.recorded` — the balances that count for an action
* `Bond.Answers` — a coupon is answered from a ledger
* `Session.Forward` — the clock never wraps around in a history
* `Session.ledgerAtRecordDate?` — the ledger that the eager bookkeeper takes down

## Main Results

* `Bond.answers_of_recorded_eq` — snapshot and ledger give the same answers
* `Session.Fixed.run` — what is taken down for a coupon is fixed for good
* `Session.record_date_answers` — the answers about a coupon are those of the bookkeeper
-/

namespace CouponBond

/-! ### Balances that were kept -/

/-- The total of every holder is kept. -/
theorem Holdings.get?_totals_ofLedger (l : Ledger) (a : Address) :
    (ofLedger l).totals.get? a =
      if a ∈ l.registry.allHolders then some (l.holdingOf a) else none :=
  SortedMap.get?_ofList_map l.holdingOf _ a

/-- What was kept of a consistent ledger shows what every account owned. -/
theorem Holdings.balanceOf_ofLedger {l : Ledger} (h : l.Consistent) (holder : Address) :
    (Holdings.ofLedger l).balanceOf holder = l.holdingOf holder := by
  unfold balanceOf
  rw [get?_totals_ofLedger]
  split
  · rfl
  · next hout =>
    have hzero : l.holdingOf holder = 0 := by
      by_contra hne
      exact hout ((h.mem_allHolders_iff holder).mpr hne)
    rw [hzero]
    rfl

/-! ### Coupons by their numbers -/

namespace Bond

/-- The coupon with a number, with its number among all actions. -/
def couponAt? (b : Bond) (couponId : UInt64) : Option (ActionId × Coupon) :=
  match nth? b.actions.couponIds couponId with
  | none => none
  | some id =>
    match b.actions.kindOf? id with
    | some (.coupon coupon) => some (id, coupon)
    | _ => none

variable {b b' : Bond} {couponId : UInt64} {id : ActionId} {coupon : Coupon}

theorem couponAt?_eq_some_iff : b.couponAt? couponId = some (id, coupon) ↔
    nth? b.actions.couponIds couponId = some id ∧
      b.actions.kindOf? id = some (.coupon coupon) := by
  unfold couponAt?
  constructor
  · intro h
    split at h
    · cases h
    · next id' hid =>
      split at h
      · next coupon' hkind =>
        cases h
        exact ⟨hid, hkind⟩
      · cases h
  · rintro ⟨hid, hkind⟩
    rw [hid]
    dsimp only
    rw [hkind]

/-- A number that names no coupon lies behind all of them. -/
theorem Agrees.nth?_eq_none (h : b.Agrees) (hnone : b.couponAt? couponId = none) :
    nth? b.actions.couponIds couponId = none := by
  cases hid : nth? b.actions.couponIds couponId with
  | none => rfl
  | some id =>
    have hmem : id ∈ b.actions.couponIds := List.mem_of_getElem? (nth?_eq_some_iff.mp hid).2
    obtain ⟨a, ha, haid, coupon, hkind⟩ := h.numbered.coupon_of_mem id hmem
    have hknown := h.numbered.placed.kindOf?_eq_some_iff.mpr ⟨a, ha, haid, hkind⟩
    rw [couponAt?_eq_some_iff.mpr ⟨hid, hknown⟩] at hnone
    cases hnone

/-- A coupon that can be asked for is one that is found. -/
theorem couponOf_eq_ok_iff : (∃ n, b.couponOf couponId = .ok ⟨couponId, id, coupon, n⟩) ↔
    b.couponAt? couponId = some (id, coupon) := by
  unfold couponOf couponAt? ActionStore.idOfIndex? ActionStore.kindOf? ActionStore.idsOf
  dsimp only
  cases nth? b.actions.couponIds couponId with
  | none => simp
  | some found =>
    dsimp only
    cases b.actions.get? found with
    | error e => simp
    | ok action =>
      dsimp only
      cases action.kind with
      | coupon c => simp [ActionKind.coupon?]
      | dividend d => simp [ActionKind.coupon?]

theorem couponAt?_of_couponOf {kept : RegisteredCoupon} (h : b.couponOf couponId = .ok kept) :
    b.couponAt? couponId = some (kept.actionId, kept.coupon) := by
  refine couponOf_eq_ok_iff.mp ⟨kept.snapshotId, ?_⟩
  have hnumber : kept.couponId = couponId := by
    unfold couponOf at h
    split at h
    · cases h
    · split at h
      · cases h
      · split at h
        · cases h
          rfl
        · cases h
  rw [h, ← hnumber]

/-- A bond that follows another one has its coupons. -/
theorem Succeeds.couponAt? {now : Timestamp} (h : b.Succeeds now b')
    (hcoupon : b.couponAt? couponId = some (id, coupon)) :
    b'.couponAt? couponId = some (id, coupon) := by
  obtain ⟨hid, hkind⟩ := couponAt?_eq_some_iff.mp hcoupon
  obtain ⟨added, hids, -⟩ := h.couponIds_eq
  obtain ⟨hne, hat⟩ := nth?_eq_some_iff.mp hid
  refine couponAt?_eq_some_iff.mpr ⟨nth?_eq_some_iff.mpr ⟨hne, ?_⟩, h.kindOf?_of_eq_some _ _ hkind⟩
  rw [hids, List.getElem?_append_left (List.getElem?_eq_some_iff.mp hat).1]
  exact hat

/-- Nothing is kept for a coupon that was just accepted. -/
theorem Succeeds.kept_of_accepted {now : Timestamp} (h : b.Succeeds now b') (hagrees : b.Agrees)
    (hbefore : b.couponAt? couponId = none)
    (hcoupon : b'.couponAt? couponId = some (id, coupon)) : b'.kept id = none := by
  obtain ⟨added, hids, hnew⟩ := h.couponIds_eq
  obtain ⟨hne, hat⟩ := nth?_eq_some_iff.mp (couponAt?_eq_some_iff.mp hcoupon).1
  rw [hids, List.getElem?_append] at hat
  split at hat
  · have hfound := nth?_eq_some_iff.mpr ⟨hne, hat⟩
    rw [hagrees.nth?_eq_none hbefore] at hfound
    cases hfound
  · exact h.kept_of_new id (hnew id (List.mem_of_getElem? hat))

end Bond

/-! ### Answers about a coupon -/

/-- The amount of a coupon that is owed for a balance. -/
def Coupon.amountFrom (terms : Terms) (coupon : Coupon) (balance : Amount) :
    Except AccrualError CouponAmountFor := do
  let numerator ← Accrual.fitting (Word256.product?
    [.ofUInt64 balance, .ofUInt64 terms.nominalValue, .ofUInt64 coupon.rate,
      .ofUInt64 coupon.period])
  let power ← Accrual.scale (terms.tokenDecimals.toNat + terms.nominalValueDecimals.toNat +
    coupon.rateDecimals.toNat)
  let denominator ← Accrual.fitting (Word256.mul? power (.ofUInt64 Clock.year))
  return ⟨⟨numerator, denominator⟩, true⟩

namespace Bond

variable {b : Bond} {couponId : UInt64} {id : ActionId} {coupon : Coupon} {now : Timestamp}

/-- The entitlement to a coupon sees the coupon and what was kept for it. -/
theorem exists_accrual_coupon (now : Timestamp)
    (hcoupon : b.couponAt? couponId = some (id, coupon)) :
    ∃ snapshot, (b.accrual now).coupon id = .ok (coupon, snapshot) ∧
      snapshot.map Snapshot.holdings = b.kept id := by
  have hkind := (couponAt?_eq_some_iff.mp hcoupon).2
  unfold ActionStore.kindOf? at hkind
  unfold Accrual.coupon kept SnapshotBook.kept accrual
  dsimp only
  cases hget : b.actions.get? id with
  | error e =>
    rw [hget] at hkind
    cases hkind
  | ok action =>
    rw [hget] at hkind
    dsimp only
    rw [Option.some.inj hkind]
    exact ⟨_, rfl, rfl⟩

theorem aboutCoupon_eq {α : Type} (hcoupon : b.couponAt? couponId = some (id, coupon))
    (answer : ActionId → Except AccrualError α) :
    b.aboutCoupon couponId answer = (answer id).mapError .ofAccrual := by
  have hid : b.actions.idOfIndex? .coupon couponId = .ok id := by
    unfold ActionStore.idOfIndex? ActionStore.idsOf
    dsimp only
    rw [(couponAt?_eq_some_iff.mp hcoupon).1]
  unfold aboutCoupon
  rw [hid]
  dsimp only
  cases answer id <;> rfl

/-- Before the record date nothing counts. -/
theorem couponFor_of_lt (hcoupon : b.couponAt? couponId = some (id, coupon))
    (hdate : now < coupon.recordDate) (holder : Address) :
    b.couponFor now couponId holder = .ok ⟨0, false, coupon⟩ := by
  obtain ⟨snapshot, hseen, -⟩ := exists_accrual_coupon now hcoupon
  unfold couponFor
  rw [aboutCoupon_eq hcoupon]
  unfold Accrual.couponFor
  rw [hseen]
  show Except.mapError _ (if now < coupon.recordDate then _ else _) = _
  rw [if_pos hdate]
  rfl

/-- The balances that count for an action: what was kept for it, or what the ledger shows. -/
def recorded (b : Bond) (id : ActionId) : Holdings := (b.kept id).getD (.ofLedger b.ledger)

section Recorded

variable {snapshot : Option Snapshot} {holder : Address}

/-- The balance that counts, from a snapshot or from the ledger. -/
theorem accrual_couponFor (hledger : b.ledger.Consistent)
    (hseen : (b.accrual now).coupon id = .ok (coupon, snapshot))
    (hkept : snapshot.map Snapshot.holdings = b.kept id) (hdate : coupon.recordDate ≤ now) :
    (b.accrual now).couponFor id holder = .ok ⟨(b.recorded id).balanceOf holder, true, coupon⟩ := by
  have hreached : ¬ now < coupon.recordDate := UInt64.not_lt.mpr hdate
  unfold Accrual.couponFor recorded
  rw [hseen, ← hkept]
  show (if now < coupon.recordDate then _ else _) = _
  rw [if_neg hreached]
  cases snapshot with
  | some found => rfl
  | none =>
    show Except.ok (CouponFor.mk (b.ledger.holdingOf holder) _ _) = _
    rw [← Holdings.balanceOf_ofLedger hledger]
    rfl

/-- The holders that count, from a snapshot or from the registry. -/
theorem accrual_couponHolders (hseen : (b.accrual now).coupon id = .ok (coupon, snapshot))
    (hkept : snapshot.map Snapshot.holdings = b.kept id) (start stop : Nat) :
    (b.accrual now).couponHolders id start stop =
      .ok (pageOf (b.recorded id).holders start stop) := by
  unfold Accrual.couponHolders recorded
  rw [hseen, ← hkept]
  cases snapshot with
  | some found => exact congrArg Except.ok (found.holdings.slice_eq_pageOf start stop)
  | none => exact congrArg Except.ok (b.ledger.registry.sliceAll_eq_pageOf start stop)

/-- The number of holders that count, from a snapshot or from the registry. -/
theorem accrual_couponHolderCount (hseen : (b.accrual now).coupon id = .ok (coupon, snapshot))
    (hkept : snapshot.map Snapshot.holdings = b.kept id) :
    (b.accrual now).couponHolderCount id = .ok (b.recorded id).holders.length := by
  unfold Accrual.couponHolderCount recorded
  rw [hseen, ← hkept]
  cases snapshot with
  | some found => rfl
  | none => exact congrArg Except.ok b.ledger.registry.totalCount_eq_length

end Recorded

/-- From the record date on a coupon is answered from a ledger. -/
structure Answers (b : Bond) (now : Timestamp) (terms : Terms) (couponId : UInt64)
    (coupon : Coupon) (l : Ledger) : Prop where
  couponFor : ∀ holder, b.couponFor now couponId holder = .ok ⟨l.holdingOf holder, true, coupon⟩
  couponAmountFor : ∀ holder, b.couponAmountFor now couponId holder =
    (coupon.amountFrom terms (l.holdingOf holder)).mapError .ofAccrual
  couponHolderCount : b.couponHolderCount now couponId = .ok l.registry.totalCount
  couponHolders : ∀ start stop,
    b.couponHolders now couponId start stop = .ok (l.registry.sliceAll start stop)

/-- A ledger whose balances count answers, whether they were kept or not. -/
theorem answers_of_recorded_eq {l : Ledger} (hledger : b.ledger.Consistent) (hl : l.Consistent)
    (hcoupon : b.couponAt? couponId = some (id, coupon)) (hdate : coupon.recordDate ≤ now)
    {terms : Terms} (hterms : b.terms = { terms with maturityDate := b.terms.maturityDate })
    (hrecorded : b.recorded id = .ofLedger l) : b.Answers now terms couponId coupon l := by
  obtain ⟨snapshot, hseen, hkept⟩ := exists_accrual_coupon now hcoupon
  have hfor : ∀ holder, (b.accrual now).couponFor id holder =
      .ok ⟨l.holdingOf holder, true, coupon⟩ := by
    intro holder
    rw [accrual_couponFor hledger hseen hkept hdate, hrecorded, Holdings.balanceOf_ofLedger hl]
  refine ⟨?_, ?_, ?_, ?_⟩
  · intro holder
    rw [Bond.couponFor, aboutCoupon_eq hcoupon, hfor]
    rfl
  · intro holder
    rw [Bond.couponAmountFor, aboutCoupon_eq hcoupon, Accrual.couponAmountFor, hfor]
    show Except.mapError _ (coupon.amountFrom b.terms (l.holdingOf holder)) = _
    rw [hterms]
    rfl
  · rw [Bond.couponHolderCount, aboutCoupon_eq hcoupon, accrual_couponHolderCount hseen hkept,
      hrecorded, Registry.totalCount_eq_length]
    rfl
  · intro start stop
    rw [Bond.couponHolders, aboutCoupon_eq hcoupon, accrual_couponHolders hseen hkept,
      hrecorded, Registry.sliceAll_eq_pageOf]
    rfl

/-- From the record date on the balances that count stay what they are. -/
theorem Succeeds.recorded_eq {b' : Bond} (h : b.Succeeds now b')
    (hcoupon : b.couponAt? couponId = some (id, coupon)) (hdate : coupon.recordDate ≤ now) :
    b'.recorded id = b.recorded id := by
  have hkept := h.kept_of_known id (.coupon coupon) (couponAt?_eq_some_iff.mp hcoupon).2
  have hdue : (ActionKind.coupon coupon).recordDate ≤ now := hdate
  rw [if_pos hdue] at hkept
  unfold recorded
  rw [hkept]
  cases b.kept id <;> rfl

/-- Before the record date nothing is kept. -/
theorem Succeeds.kept_of_lt {b' : Bond} (h : b.Succeeds now b')
    (hcoupon : b.couponAt? couponId = some (id, coupon)) (hdate : now < coupon.recordDate)
    (hnone : b.kept id = none) : b'.kept id = none := by
  have hkept := h.kept_of_known id (.coupon coupon) (couponAt?_eq_some_iff.mp hcoupon).2
  have hdue : ¬ (ActionKind.coupon coupon).recordDate ≤ now := UInt64.not_le.mpr hdate
  rw [hkept, hnone, if_neg hdue]
  rfl

theorem Alike.recorded_eq {b' : Bond} (h : b.Alike b') (id : ActionId) :
    b'.recorded id = b.recorded id := by
  have hkept : b'.kept id = b.kept id := h.congr (Bond.kept · id) fun _ _ => rfl
  unfold recorded
  rw [hkept, Holdings.ofLedger_eq h.ledger]

end Bond

/-! ### Histories -/

namespace Session

/-- A move that does not take the clock past its last reading. -/
def MovesForward (s : Session) : Move → Prop
  | .advance seconds => s.clock.now.toNat + seconds.toNat < UInt64.size
  | _ => True

/-- A history in which the clock never wraps around. -/
def Forward (s : Session) : List Move → Prop
  | [] => True
  | move :: rest => s.MovesForward move ∧ Forward (s.step move).2 rest

/-- Whether a number is that of a coupon whose record date has come. -/
def recordDateReached (s : Session) (couponId : UInt64) : Bool :=
  match s.bond.couponOf couponId with
  | .ok found => found.coupon.recordDate ≤ s.clock.now
  | .error _ => false

/-- The ledger at the first moment of a history at which a coupon is there and its record date
has come, if there is one. -/
def ledgerAtRecordDate? (s : Session) (couponId : UInt64) : List Move → Option Ledger
  | [] => if s.recordDateReached couponId then some s.bond.ledger else none
  | move :: rest =>
    if s.recordDateReached couponId then some s.bond.ledger
    else ledgerAtRecordDate? (s.step move).2 couponId rest

variable {config : Config} {s : Session} {couponId : UInt64} {id : ActionId} {coupon : Coupon}
  {l : Ledger}

theorem recordDateReached_iff : s.recordDateReached couponId = true ↔
    ∃ id coupon, s.bond.couponAt? couponId = some (id, coupon) ∧
      coupon.recordDate ≤ s.clock.now := by
  unfold recordDateReached
  cases hfound : s.bond.couponOf couponId with
  | ok found =>
    have hcoupon := Bond.couponAt?_of_couponOf hfound
    constructor
    · intro hdate
      exact ⟨found.actionId, found.coupon, hcoupon, of_decide_eq_true hdate⟩
    · rintro ⟨id, coupon, hcoupon', hdate⟩
      rw [hcoupon] at hcoupon'
      cases hcoupon'
      exact decide_eq_true hdate
  | error e =>
    constructor
    · intro hdate
      cases hdate
    · rintro ⟨id, coupon, hcoupon, -⟩
      obtain ⟨n, hn⟩ := Bond.couponOf_eq_ok_iff.mpr hcoupon
      rw [hfound] at hn
      cases hn

/-- A move leaves the bond alike, or it is a command that makes it follow. -/
theorem Sound.step_cases (h : s.Sound config) (move : Move) :
    s.bond.Alike (s.step move).2.bond ∨
      s.bond.Succeeds s.clock.now (s.step move).2.bond := by
  cases move with
  | advance seconds => exact .inl (.refl _)
  | advanceTo time =>
    unfold Session.step
    dsimp only
    split <;> exact .inl (.refl _)
  | command guards operator command =>
    rw [step_command]
    rcases h.agrees.after_cases h.consistent ⟨s.clock.now, guards, operator⟩ command with
      hleft | hsucceeds
    · dsimp only
      rw [hleft]
      exact .inl (.refl _)
    · exact .inr hsucceeds
  | query query =>
    unfold Session.step
    dsimp only
    split <;> exact .inl (.refl _)
  | reload => exact .inl h.step_reload.2.bond

/-- The clock is never moved back. -/
theorem Sound.now_le_step (h : s.Sound config) {move : Move} (hforward : s.MovesForward move) :
    s.clock.now ≤ (s.step move).2.clock.now := by
  cases move with
  | advance seconds =>
    have hsum : s.clock.now.toNat + seconds.toNat < UInt64.size := hforward
    show s.clock.now ≤ s.clock.now + seconds
    rw [UInt64.le_iff_toNat_le, UInt64.toNat_add, Nat.mod_eq_of_lt hsum]
    exact Nat.le_add_right _ _
  | advanceTo time =>
    unfold Session.step Clock.set
    dsimp only
    split
    · next clock hset =>
      split at hset
      · cases hset
      · next hlater =>
        cases hset
        exact UInt64.not_lt.mp hlater
    · exact UInt64.le_refl _
  | command guards operator command =>
    rw [step_command]
    exact UInt64.le_refl _
  | query query =>
    unfold Session.step
    dsimp only
    split <;> exact UInt64.le_refl _
  | reload =>
    rw [h.step_reload.2.clock_eq]
    exact UInt64.le_refl _

/-- What forward moves keep, histories keep in which the clock never wraps around. -/
theorem Sound.forward_keeps {P : Session → Prop} (h : s.Sound config)
    (hstep : ∀ {s : Session}, s.Sound config → ∀ {move : Move}, s.MovesForward move → P s →
      P (s.step move).2)
    (hs : P s) {moves : List Move} (hforward : s.Forward moves) : P (s.run moves) := by
  induction moves generalizing s with
  | nil => exact hs
  | cons move rest ih => exact ih (h.step move) (hstep h hforward.1 hs) hforward.2

/-- Forward moves never take the clock back. -/
theorem Sound.now_le_run (h : s.Sound config) {moves : List Move} (hforward : s.Forward moves) :
    s.clock.now ≤ (s.run moves).clock.now :=
  h.forward_keeps (P := fun s' => s.clock.now ≤ s'.clock.now)
    (fun hsound _ hmove hle => UInt64.le_trans hle (hsound.now_le_step hmove))
    (UInt64.le_refl _) hforward

/-- A session that keeps nothing for a coupon yet. -/
structure Fresh (config : Config) (couponId : UInt64) (s : Session) : Prop where
  sound : s.Sound config
  kept_eq_none : ∀ id coupon, s.bond.couponAt? couponId = some (id, coupon) →
    s.bond.kept id = none

/-- A session in which the record date of a coupon has come and the balances of a ledger count
for it. -/
structure Fixed (config : Config) (couponId : UInt64) (id : ActionId) (coupon : Coupon)
    (l : Ledger) (s : Session) : Prop where
  sound : s.Sound config
  consistent : l.Consistent
  couponAt?_eq : s.bond.couponAt? couponId = some (id, coupon)
  recordDate_le : coupon.recordDate ≤ s.clock.now
  recorded_eq : s.bond.recorded id = .ofLedger l

/-- With the record date the ledger of the moment is the one that counts. -/
theorem Fresh.fixed (h : s.Fresh config couponId)
    (hcoupon : s.bond.couponAt? couponId = some (id, coupon))
    (hdate : coupon.recordDate ≤ s.clock.now) :
    s.Fixed config couponId id coupon s.bond.ledger := by
  refine ⟨h.sound, h.sound.consistent, hcoupon, hdate, ?_⟩
  rw [Bond.recorded, h.kept_eq_none id coupon hcoupon]
  rfl

/-- Before the record date no move keeps anything. -/
theorem Fresh.step (h : s.Fresh config couponId) (hearly : s.recordDateReached couponId = false)
    (move : Move) : (s.step move).2.Fresh config couponId := by
  refine ⟨h.sound.step move, fun id coupon hcoupon => ?_⟩
  rcases h.sound.step_cases move with halike | hsucceeds
  · rw [halike.congr (Bond.couponAt? · couponId) fun _ _ => rfl] at hcoupon
    rw [halike.congr (Bond.kept · id) fun _ _ => rfl]
    exact h.kept_eq_none id coupon hcoupon
  · cases hbefore : s.bond.couponAt? couponId with
    | none => exact hsucceeds.kept_of_accepted h.sound.agrees hbefore hcoupon
    | some known =>
      obtain ⟨knownId, knownCoupon⟩ := known
      have hknown := hsucceeds.couponAt? hbefore
      cases hcoupon.symm.trans hknown
      refine hsucceeds.kept_of_lt hbefore ?_ (h.kept_eq_none id coupon hbefore)
      by_contra hlate
      rw [recordDateReached_iff.mpr ⟨id, coupon, hbefore, UInt64.not_lt.mp hlate⟩] at hearly
      cases hearly

/-- From the record date on every forward move leaves the balances that count. -/
theorem Fixed.step (h : s.Fixed config couponId id coupon l) {move : Move}
    (hforward : s.MovesForward move) : (s.step move).2.Fixed config couponId id coupon l := by
  have hnow := h.sound.now_le_step hforward
  have hlater := UInt64.le_trans h.recordDate_le hnow
  rcases h.sound.step_cases move with halike | hsucceeds
  · refine ⟨h.sound.step move, h.consistent, ?_, hlater, ?_⟩
    · rw [halike.congr (Bond.couponAt? · couponId) fun _ _ => rfl]
      exact h.couponAt?_eq
    · rw [halike.recorded_eq]
      exact h.recorded_eq
  · refine ⟨h.sound.step move, h.consistent, hsucceeds.couponAt? h.couponAt?_eq, hlater, ?_⟩
    rw [hsucceeds.recorded_eq h.couponAt?_eq h.recordDate_le]
    exact h.recorded_eq

/-- What counts for a coupon is fixed for good. -/
theorem Fixed.run (h : s.Fixed config couponId id coupon l) {moves : List Move}
    (hforward : s.Forward moves) : (s.run moves).Fixed config couponId id coupon l :=
  h.sound.forward_keeps (fun _ _ hmove hfixed => hfixed.step hmove) h hforward

/-- The answers about a coupon that is fixed. -/
theorem Fixed.answers (h : s.Fixed config couponId id coupon l) :
    s.bond.Answers s.clock.now config.terms couponId coupon l :=
  Bond.answers_of_recorded_eq h.sound.consistent h.consistent h.couponAt?_eq h.recordDate_le
    h.sound.terms_eq h.recorded_eq

/-- A history that ends with the record date of a coupon behind it has fixed the ledger of the
first such moment. -/
theorem Fresh.run (h : s.Fresh config couponId) {moves : List Move} (hforward : s.Forward moves)
    (hcoupon : (s.run moves).bond.couponAt? couponId = some (id, coupon))
    (hdate : coupon.recordDate ≤ (s.run moves).clock.now) :
    ∃ l, s.ledgerAtRecordDate? couponId moves = some l ∧
      (s.run moves).Fixed config couponId id coupon l := by
  induction moves generalizing s with
  | nil =>
    refine ⟨s.bond.ledger, ?_, h.fixed hcoupon hdate⟩
    have hreached : s.recordDateReached couponId = true :=
      recordDateReached_iff.mpr ⟨id, coupon, hcoupon, hdate⟩
    unfold ledgerAtRecordDate?
    rw [if_pos hreached]
  | cons move rest ih =>
    unfold ledgerAtRecordDate?
    cases hreached : s.recordDateReached couponId with
    | false => exact ih (h.step hreached move) hforward.2 hcoupon hdate
    | true =>
      -- The coupon of the end is the one that was there when its record date came.
      obtain ⟨id', coupon', hcoupon', hdate'⟩ := recordDateReached_iff.mp hreached
      have hfixed := (h.fixed hcoupon' hdate').run hforward
      have hsame := hfixed.couponAt?_eq
      rw [hcoupon] at hsame
      cases hsame
      exact ⟨s.bond.ledger, rfl, hfixed⟩

theorem fresh_of_create {b : Bond} (h : Bond.create config = .ok b) (clock : Clock)
    (couponId : UInt64) : Fresh config couponId ⟨b, clock⟩ := by
  refine ⟨sound_of_create h clock, fun id coupon _ => ?_⟩
  obtain ⟨-, rfl⟩ := Bond.create_eq_ok_iff.mp h
  exact SnapshotBook.kept_eq_none (ActionStore.kindOf?_empty id)

/-- For every coupon of a bond with any history since it was opened in which the clock never
wraps around: before the record date nothing counts, and from then on the coupon is answered,
now and after every further history, from the ledger of the first moment at which it was there
and its record date had come. -/
theorem record_date_answers {b : Bond} (hcreate : Bond.create config = .ok b) (start : Clock)
    (history : List Move) (hforward : Forward ⟨b, start⟩ history) {found : RegisteredCoupon}
    (hfound : (run ⟨b, start⟩ history).bond.couponOf couponId = .ok found) :
    let s := run ⟨b, start⟩ history
    (s.clock.now < found.coupon.recordDate → ∀ holder,
      s.bond.couponFor s.clock.now couponId holder = .ok ⟨0, false, found.coupon⟩) ∧
    (found.coupon.recordDate ≤ s.clock.now →
      ∃ l, ledgerAtRecordDate? ⟨b, start⟩ couponId history = some l ∧
        ∀ further, s.Forward further →
          (s.run further).bond.Answers (s.run further).clock.now config.terms couponId
            found.coupon l) := by
  intro s
  have hcoupon := Bond.couponAt?_of_couponOf hfound
  constructor
  · intro hdate holder
    exact Bond.couponFor_of_lt hcoupon hdate holder
  · intro hdate
    obtain ⟨l, hl, hfixed⟩ := (fresh_of_create hcreate start couponId).run hforward hcoupon hdate
    refine ⟨l, hl, fun further hfurther => ?_⟩
    exact (hfixed.run hfurther).answers

/-- The seller of three units after the record date is still entitled for all ten. -/
theorem sample_coupon_answers :
    let s := sampleStart.run sampleHistory
    ∃ l, sampleStart.ledgerAtRecordDate? 1 sampleHistory = some l ∧
      l.holdingOf (.ofLow 7) = 10 ∧ s.bond.ledger.holdingOf (.ofLow 7) = 7 ∧
      ∀ further, s.Forward further →
        (s.run further).bond.Answers (s.run further).clock.now Bond.sampleConfig.terms 1
          sampleCoupon l := by
  intro s
  have hcreate : Bond.create Bond.sampleConfig = .ok sampleStart.bond := rfl
  have hsum : (5 : UInt64).toNat + (50 : UInt64).toNat < UInt64.size := by decide
  have hforward : sampleStart.Forward sampleHistory := ⟨trivial, trivial, hsum, trivial, trivial⟩
  have hfound : s.bond.couponOf 1 = .ok ⟨1, 1, sampleCoupon, 1⟩ := rfl
  have hdate : sampleCoupon.recordDate ≤ s.clock.now := by decide
  obtain ⟨l, hl, hfurther⟩ :=
    (record_date_answers hcreate ⟨5⟩ sampleHistory hforward hfound).2 hdate
  refine ⟨l, hl, ?_, rfl, hfurther⟩
  cases hl
  rfl

end Session

end CouponBond
