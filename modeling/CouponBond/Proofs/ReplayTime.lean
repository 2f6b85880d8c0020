import CouponBond.Proofs.AppendOnly
import CouponBond.Proofs.ExactEntitlements

/-!
# Time in a replay

A script moves the clock in two ways.  Setting it to an earlier time is refused, but moving it on
by a number of seconds is addition modulo 2^64, so a large number takes it back.  That is the only
way in which the clock of a replay goes back, and every date rule relies on its not happening: as
long as no step wraps around, a coupon whose record date has come stays so in every answer, the
events stand in the order of time, and the events from a time on are the end of the log.

## Main Definitions

* `EventLog.InOrder` — events in the order of time, none later than a reading
* `Scenario.start`, `Session.performAll` — where a script starts and where its steps lead
* `Session.readings`, `Report.Shows` — the clock after each step, and the report of the steps
* `Session.AnswersReached` — a question is answered with the record date behind it

## Main Results

* `EventLog.InOrder.since_isSuffix` — the events from a time on are the end of an ordered log
* `Session.Sound.readings_ascending_iff` — the clock never goes back if and only if no advance
  wraps around
* `Session.Payable.answersReached_iff` — every answer about a coupon tells of its record date
* `Session.Sound.inOrder_step`, `Session.Sound.inOrder_run` — the log is kept in order
* `Scenario.replay_keeps_time` — what holds of every replay, and of those without a wrap
* `Scenario.advance_turns_back` — a script that wraps around loses all of it
-/

namespace CouponBond

/-! ### Logs in the order of time -/

namespace EventLog

/-- The events stand in the order of time, and none is later than a reading of the clock. -/
structure InOrder (log : EventLog) (now : Timestamp) : Prop where
  ascending : log.Pairwise fun e e' => e.timestamp ≤ e'.timestamp
  le_now : ∀ e ∈ log, e.timestamp ≤ now

variable {log : EventLog} {now later : Timestamp}

theorem inOrder_nil (now : Timestamp) : InOrder [] now := ⟨.nil, nofun⟩

theorem InOrder.mono (h : log.InOrder now) (hle : now ≤ later) : log.InOrder later :=
  ⟨h.ascending, fun e he => UInt64.le_trans (h.le_now e he) hle⟩

/-- Facts are logged at the reading of the clock. -/
theorem InOrder.append (h : log.InOrder now) (facts : List Fact) :
    InOrder (log ++ facts.map fun f => ⟨now, f⟩) now := by
  have hnow : ∀ e ∈ facts.map fun f => (⟨now, f⟩ : Event), e.timestamp = now := by
    intro e he
    obtain ⟨f, -, rfl⟩ := List.mem_map.mp he
    rfl
  constructor
  · refine List.pairwise_append.mpr ⟨h.ascending, ?_, fun e he e' he' => ?_⟩
    · refine List.pairwise_of_forall_mem_list fun e he e' he' => ?_
      rw [hnow e he, hnow e' he']
      exact UInt64.le_refl _
    · rw [hnow e' he']
      exact h.le_now e he
  · intro e he
    rcases List.mem_append.mp he with hold | hnew
    · exact h.le_now e hold
    · rw [hnow e hnew]
      exact UInt64.le_refl _

/-- The events from a time on are the end of an ordered log. -/
theorem InOrder.since_isSuffix (h : log.InOrder now) (time : Timestamp) :
    log.since time <:+ log := by
  obtain ⟨hascending, -⟩ := h
  unfold since
  induction log with
  | nil => exact List.suffix_rfl
  | cons e rest ih =>
    obtain ⟨hfirst, hrest⟩ := List.pairwise_cons.mp hascending
    by_cases htime : time ≤ e.timestamp
    · -- nothing behind the first event is earlier, so the whole log is kept
      have hall : ∀ e' ∈ e :: rest, decide (time ≤ e'.timestamp) = true := by
        intro e' he'
        rcases List.mem_cons.mp he' with rfl | he'
        · exact decide_eq_true htime
        · exact decide_eq_true (UInt64.le_trans htime (hfirst e' he'))
      exact ⟨[], List.filter_eq_self.mpr hall⟩
    · rw [List.filter_cons_of_neg (by simpa using htime)]
      exact (ih hrest).trans (List.suffix_cons e rest)

end EventLog

/-! ### Scripts as histories -/

/-- The move of a step: commands are given without guards and operator. -/
def ScenarioStep.move : ScenarioStep → Move
  | .advance seconds => .advance seconds
  | .advanceTo time => .advanceTo time
  | .command cmd => .command [] none cmd
  | .query q => .query q

namespace Session

/-- The session after the steps of a script. -/
def performAll (s : Session) (steps : List ScenarioStep) : Session :=
  steps.foldl (fun s step => (s.perform step).2) s

/-- What each step of a script answers, with the reading of the clock after it. -/
def shown (s : Session) : List ScenarioStep → List (Except Rejection Json × Timestamp)
  | [] => []
  | step :: rest =>
    ((s.perform step).1, (s.perform step).2.clock.now) :: shown (s.perform step).2 rest

/-- The readings of the clock after each step of a script. -/
def readings (s : Session) (steps : List ScenarioStep) : List Timestamp :=
  (s.shown steps).map Prod.snd

/-- The lines of the steps of a script, numbered from an index on. -/
def lines (index : Nat) (s : Session) (steps : List ScenarioStep) : List Json :=
  (s.shown steps).mapIdx fun place step => Scenario.line (index + place) step.2 step.1

/-- A step leaves what its move leaves. -/
theorem perform_eq_step (s : Session) (step : ScenarioStep) :
    (s.perform step).2 = (s.step step.move).2 := by
  cases step with
  | advance seconds => rfl
  | advanceTo time =>
    unfold perform Session.step ScenarioStep.move
    dsimp only
    cases s.clock.set time <;> rfl
  | command cmd =>
    unfold perform Session.step ScenarioStep.move desk
    dsimp only
    cases Bond.execute ⟨s.clock.now, [], none⟩ cmd s.bond <;> rfl
  | query q =>
    unfold perform Session.step ScenarioStep.move
    dsimp only
    cases s.bond.query s.clock.now q <;> rfl

theorem performAll_eq_run (s : Session) (steps : List ScenarioStep) :
    s.performAll steps = s.run (steps.map ScenarioStep.move) := by
  induction steps generalizing s with
  | nil => rfl
  | cons step rest ih =>
    rw [performAll, List.foldl_cons, perform_eq_step]
    exact ih (s.step step.move).2

theorem forward_append (s : Session) (earlier later : List Move) :
    s.Forward (earlier ++ later) ↔ s.Forward earlier ∧ (s.run earlier).Forward later := by
  induction earlier generalizing s with
  | nil => exact (and_iff_right trivial).symm
  | cons move rest ih =>
    show _ ∧ _ ↔ (_ ∧ _) ∧ _
    rw [and_assoc]
    exact and_congr_right fun _ => ih (s.step move).2

/-! ### Reports -/

theorem lines_cons (index : Nat) (s : Session) (step : ScenarioStep)
    (rest : List ScenarioStep) :
    s.lines index (step :: rest) =
      Scenario.line index (s.perform step).2.clock.now (s.perform step).1 ::
        (s.perform step).2.lines (index + 1) rest := by
  unfold lines
  rw [shown, List.mapIdx_cons]
  simp only [Nat.add_zero, Nat.add_assoc, Nat.add_comm 1]

end Session

/-- What the report of a script says: the lines of its steps and the session after them, up to the
first rejection if it was to stop there. -/
structure Report.Shows (report : Report) (failFast : Bool) (index : Nat) (s : Session)
    (steps : List ScenarioStep) : Prop where
  lines_isPrefix : report.lines <+: s.lines index steps
  session_eq : ∃ done, done <+: steps ∧ report.session = s.performAll done
  complete : failFast = false →
    report.lines = s.lines index steps ∧ report.session = s.performAll steps

/-- A replay reports its script. -/
theorem Scenario.shows_replayFrom (failFast : Bool) (index : Nat) (s : Session)
    (steps : List ScenarioStep) :
    (replayFrom failFast index s steps).Shows failFast index s steps := by
  induction steps generalizing index s with
  | nil => exact ⟨List.prefix_rfl, ⟨[], List.prefix_rfl, rfl⟩, fun _ => ⟨rfl, rfl⟩⟩
  | cons step rest ih =>
    obtain ⟨hlines, ⟨done, hdone, hsession⟩, hcomplete⟩ := ih (index + 1) (s.perform step).2
    unfold replayFrom
    dsimp only
    split
    · exact ⟨List.nil_prefix, ⟨[step], ⟨rest, rfl⟩, rfl⟩, nofun⟩
    · refine ⟨?_, ⟨step :: done, List.cons_prefix_cons.mpr ⟨rfl, hdone⟩, hsession⟩, ?_⟩
      · rw [Session.lines_cons]
        exact List.cons_prefix_cons.mpr ⟨rfl, hlines⟩
      · intro hfast
        obtain ⟨hall, hend⟩ := hcomplete hfast
        refine ⟨?_, hend⟩
        rw [Session.lines_cons, hall]

/-! ### Readings of the clock -/

/-- An advance takes the clock back if and only if it wraps around. -/
theorem Clock.now_le_advance_iff (c : Clock) (seconds : UInt64) :
    c.now ≤ (c.advance seconds).now ↔ c.now.toNat + seconds.toNat < UInt64.size := by
  have hnow := c.now.toNat_lt_size
  have hseconds := seconds.toNat_lt_size
  show c.now ≤ c.now + seconds ↔ _
  rw [UInt64.le_iff_toNat_le, UInt64.toNat_add]
  unfold UInt64.size at *
  omega

namespace Session

variable {config : Config} {s : Session} {moves : List Move}

/-- A step takes the clock back if and only if it is an advance that wraps around. -/
theorem Sound.now_le_perform_iff (h : s.Sound config) (step : ScenarioStep) :
    s.clock.now ≤ (s.perform step).2.clock.now ↔ s.MovesForward step.move := by
  constructor
  · intro hle
    cases step with
    | advance seconds => exact (s.clock.now_le_advance_iff seconds).mp hle
    | advanceTo => trivial
    | command => trivial
    | query => trivial
  · intro hforward
    rw [perform_eq_step]
    exact h.now_le_step hforward

/-- The readings of a script never go back if and only if none of its advances wraps around. -/
theorem Sound.readings_ascending_iff (h : s.Sound config) (steps : List ScenarioStep) :
    (s.clock.now :: s.readings steps).Pairwise (· ≤ ·) ↔
      s.Forward (steps.map ScenarioStep.move) := by
  -- each reading is compared with the one before it only
  rw [← List.isChain_iff_pairwise]
  induction steps generalizing s with
  | nil => exact iff_of_true (List.IsChain.singleton _) trivial
  | cons step rest ih =>
    have hnext : (s.perform step).2.Sound config := perform_eq_step s step ▸ h.step step.move
    rw [readings, shown, List.map_cons, List.isChain_cons_cons, h.now_le_perform_iff]
    exact and_congr_right fun _ => perform_eq_step s step ▸ ih hnext

/-! ### Events -/

/-- A forward move keeps the log in order: what it adds is logged at the reading of the clock. -/
theorem Sound.inOrder_step (h : s.Sound config) {move : Move} (hforward : s.MovesForward move)
    (horder : s.bond.events.InOrder s.clock.now) :
    (s.step move).2.bond.events.InOrder (s.step move).2.clock.now := by
  refine EventLog.InOrder.mono ?_ (h.now_le_step hforward)
  obtain hseen | ⟨guards, operator, command, outcome, facts, changed, -, hdone, hbond⟩ :=
    h.alike_or_performed move
  · rw [hseen.congr Bond.events fun _ _ => rfl]
    exact horder
  · obtain ⟨notices, hevents⟩ := Bond.exists_events_closed s.bond s.clock.now changed facts
    rw [hbond, hevents, hdone.events_eq]
    exact (horder.append _).append facts

/-- The log is in order throughout a history in which the clock never wraps around. -/
theorem Sound.inOrder_run (h : s.Sound config) (horder : s.bond.events.InOrder s.clock.now)
    (hforward : s.Forward moves) :
    (s.run moves).bond.events.InOrder (s.run moves).clock.now :=
  h.forward_keeps (P := fun s => s.bond.events.InOrder s.clock.now)
    (fun hsound _ hmove => hsound.inOrder_step hmove) horder hforward

end Session

/-! ### Answers about a record date -/

/-- Questions about what a holder is owed for a coupon. -/
inductive Query.AsksShare (couponId : UInt64) : Query → Prop
  | couponFor (holder : Address) : AsksShare couponId (.couponFor couponId holder)
  | couponAmountFor (holder : Address) : AsksShare couponId (.couponAmountFor couponId holder)

/-- Whether an answer says that the record date of its coupon has come. -/
def Answer.recordDateReached : Answer → Bool
  | .couponFor share => share.recordDateReached
  | .couponAmountFor owed => owed.recordDateReached
  | _ => false

namespace Accrual

variable {v : Accrual} {id : ActionId} {coupon : Coupon} {snapshot : Option Snapshot}

/-- The balance that counts is answered for a coupon, with whether its record date has come. -/
theorem exists_couponFor (hseen : v.coupon id = .ok (coupon, snapshot)) (holder : Address) :
    ∃ share, v.couponFor id holder = .ok share ∧
      share.recordDateReached = decide (coupon.recordDate ≤ v.now) := by
  unfold couponFor
  rw [bind_of_eq_ok hseen]
  dsimp only
  by_cases hdate : v.now < coupon.recordDate
  · rw [if_pos hdate]
    exact ⟨_, rfl, (decide_eq_false (UInt64.not_le.mpr hdate)).symm⟩
  · have hreached := (decide_eq_true (UInt64.not_lt.mp hdate)).symm
    rw [if_neg hdate]
    cases snapshot with
    | some found => exact ⟨_, rfl, hreached⟩
    | none => exact ⟨_, rfl, hreached⟩

/-- The amount is answered with the same, unless it overflows. -/
theorem exists_couponAmountFor (hseen : v.coupon id = .ok (coupon, snapshot)) (holder : Address)
    (hfits : v.couponAmountFor id holder ≠ .error .arithmeticOverflow) :
    ∃ amount, v.couponAmountFor id holder = .ok amount ∧
      amount.recordDateReached = decide (coupon.recordDate ≤ v.now) := by
  obtain ⟨share, hshare, hreached⟩ := exists_couponFor hseen holder
  unfold couponAmountFor at hfits ⊢
  rw [bind_of_eq_ok hshare] at hfits ⊢
  rw [← hreached]
  cases hflag : share.recordDateReached with
  | false => exact ⟨_, rfl, rfl⟩
  | true =>
    rw [hflag] at hfits
    have hexact := share.coupon.amountFrom_exactly v.terms share.tokenBalance
    rcases Nat.lt_or_ge (10 ^ (v.terms.tokenDecimals.toNat +
      v.terms.nominalValueDecimals.toNat + share.coupon.rateDecimals.toNat) *
        Clock.year.toNat) (2 ^ 256) with hlt | hge
    · obtain ⟨r, hanswer, -⟩ := hexact.answered hlt
      exact ⟨_, hanswer, rfl⟩
    · exact absurd (hexact.overflows hge) hfits

end Accrual

namespace Bond

variable {b : Bond} {couponId : UInt64} {id : ActionId} {coupon : Coupon} {q : Query}

/-- Questions about a coupon are answered with whether its record date has come. -/
theorem Computes.exists_query_eq_ok (h : b.Computes) (now : Timestamp)
    (hcoupon : b.couponAt? couponId = some (id, coupon)) (hq : q.AsksShare couponId) :
    ∃ answer, b.query now q = .ok answer ∧
      answer.recordDateReached = decide (coupon.recordDate ≤ now) := by
  have hfits := h.query_ne_overflow now q
  obtain ⟨snapshot, hseen, -⟩ := exists_accrual_coupon now hcoupon
  cases hq with
  | couponFor holder =>
    obtain ⟨share, hshare, hreached⟩ := Accrual.exists_couponFor hseen holder
    refine ⟨.couponFor share, ?_, hreached⟩
    rw [query, Bond.couponFor, aboutCoupon_eq hcoupon, hshare]
    rfl
  | couponAmountFor holder =>
    rw [query, Bond.couponAmountFor, aboutCoupon_eq hcoupon] at hfits ⊢
    obtain ⟨amount, hamount, hreached⟩ := Accrual.exists_couponAmountFor hseen holder
      fun hoverflow => hfits (by rw [hoverflow]; rfl)
    refine ⟨.couponAmountFor amount, ?_, hreached⟩
    rw [hamount]
    rfl

/-- Questions about a coupon that is not there are not answered. -/
theorem Agrees.query_ne_ok (h : b.Agrees) (hnone : b.couponAt? couponId = none)
    (hq : q.AsksShare couponId) (now : Timestamp) (answer : Answer) :
    b.query now q ≠ .ok answer := by
  have hindex : b.actions.idOfIndex? .coupon couponId = .error ⟨couponId⟩ := by
    unfold ActionStore.idOfIndex? ActionStore.idsOf
    dsimp only
    rw [h.nth?_eq_none hnone]
  intro hanswer
  cases hq with
  | couponFor holder =>
    rw [query, Bond.couponFor, aboutCoupon, hindex] at hanswer
    cases hanswer
  | couponAmountFor holder =>
    rw [query, Bond.couponAmountFor, aboutCoupon, hindex] at hanswer
    cases hanswer

end Bond

namespace Session

variable {config : Config} {s : Session} {moves : List Move} {couponId : UInt64} {q : Query}

/-- A question is answered with a record date that has come. -/
def AnswersReached (s : Session) (q : Query) : Prop :=
  ∃ answer, s.bond.query s.clock.now q = .ok answer ∧ answer.recordDateReached = true

/-- Every question about a coupon tells whether its record date has come. -/
theorem Payable.answersReached_iff (h : s.Payable config) (hq : q.AsksShare couponId) :
    s.AnswersReached q ↔ s.recordDateReached couponId = true := by
  rw [recordDateReached_iff]
  constructor
  · rintro ⟨answer, hanswer, hreached⟩
    cases hcoupon : s.bond.couponAt? couponId with
    | none => exact absurd hanswer (h.sound.agrees.query_ne_ok hcoupon hq _ _)
    | some entry =>
      obtain ⟨answer', hanswer', hdate⟩ := h.computes.exists_query_eq_ok s.clock.now hcoupon hq
      cases hanswer.symm.trans hanswer'
      exact ⟨entry.1, entry.2, rfl, of_decide_eq_true (hdate.symm.trans hreached)⟩
  · rintro ⟨id, coupon, hcoupon, hdate⟩
    obtain ⟨answer, hanswer, hreached⟩ := h.computes.exists_query_eq_ok s.clock.now hcoupon hq
    exact ⟨answer, hanswer, hreached.trans (decide_eq_true hdate)⟩

theorem Payable.performAll (h : s.Payable config) (steps : List ScenarioStep) :
    (s.performAll steps).Payable config := by
  rw [performAll_eq_run]
  exact h.run _

/-- A coupon whose record date has come is one throughout a history in which the clock never wraps
around. -/
theorem Sound.recordDateReached_run (h : s.Sound config) (hforward : s.Forward moves)
    (hreached : s.recordDateReached couponId = true) :
    (s.run moves).recordDateReached couponId = true := by
  unfold recordDateReached at hreached ⊢
  split at hreached
  · next found hfound =>
    obtain ⟨snapshotId, hfound', -⟩ :=
      Bond.couponOf_of_growsTo (h.growsTo_run moves).actions hfound
    rw [hfound']
    exact decide_eq_true (UInt64.le_trans (of_decide_eq_true hreached) (h.now_le_run hforward))
  · cases hreached

end Session

/-! ### Replays -/

namespace Scenario

/-- The session that a script starts from, if its configuration passes the check. -/
def start (script : Scenario) : Session := ⟨.opened script.config, ⟨script.startTime⟩⟩

/-- Every script with a valid configuration is replayed, and the report shows its steps.  The
readings of the clock never go back if and only if no advance of the script takes them past the end
of their range.  In a script without such an advance a coupon that was once answered with its record
date behind it is answered so ever after, for every holder; and at every point the events stand in
the order of time, none of them later than the clock, and the events from a time on are the end of
the log. -/
theorem replay_keeps_time (script : Scenario) (hcheck : script.config.check = .ok ()) :
    (∀ failFast, ∃ report, script.replay failFast = .ok report ∧
      report.Shows failFast 0 script.start script.steps) ∧
    ((script.startTime :: script.start.readings script.steps).Pairwise (· ≤ ·) ↔
      script.start.Forward (script.steps.map ScenarioStep.move)) ∧
    (script.start.Forward (script.steps.map ScenarioStep.move) →
      ∀ earlier later, script.steps = earlier ++ later →
        let s := script.start.performAll earlier
        let s' := s.performAll later
        (∀ couponId question question', question.AsksShare couponId →
          question'.AsksShare couponId → s.AnswersReached question →
            s'.AnswersReached question') ∧
        s.bond.events.InOrder s.clock.now ∧
        ∀ time, s.bond.events.since time <:+ s.bond.events) := by
  have hcreate : Bond.create script.config = .ok script.start.bond :=
    Bond.create_eq_ok_iff.mpr ⟨hcheck, rfl⟩
  have hpayable : script.start.Payable script.config := Session.payable_of_create hcreate _
  refine ⟨fun failFast => ⟨_, ?_, shows_replayFrom failFast 0 script.start script.steps⟩,
    hpayable.sound.readings_ascending_iff script.steps, fun hforward earlier later hsteps => ?_⟩
  · rw [replay, hcreate]
    rfl
  · rw [hsteps, List.map_append, Session.forward_append, ← Session.performAll_eq_run] at hforward
    obtain ⟨hearlier, hlater⟩ := hforward
    intro s s'
    have hs : s.Payable script.config := hpayable.performAll earlier
    have horder : s.bond.events.InOrder s.clock.now := by
      rw [show s = script.start.run (earlier.map ScenarioStep.move) from
        script.start.performAll_eq_run earlier]
      exact hpayable.sound.inOrder_run (EventLog.inOrder_nil _) hearlier
    refine ⟨fun couponId question question' hq hq' hreached => ?_, horder, horder.since_isSuffix⟩
    rw [(hs.performAll later).answersReached_iff hq', Session.performAll_eq_run]
    exact hs.sound.recordDateReached_run hlater ((hs.answersReached_iff hq).mp hreached)

/-- Ten units are issued and a coupon is set; behind its record date three units change hands, and
then the clock is moved: not back to time 4, and on by 5 seconds. -/
def sampleScript : Scenario where
  config := Bond.sampleConfig
  startTime := 5
  steps := [.command (.issue (.ofLow 7) .default 10), .command (.setCoupon Session.sampleCoupon),
    .advance 50, .command (.transfer (.ofLow 7) (.ofLow 8) .default 3), .advanceTo 4, .advance 5]

/-- The coupon of the sample is answered with its record date behind it from time 55 on, and the
events from that time on are the end of the log. -/
theorem sample_keeps_time :
    let s := sampleScript.start.performAll (sampleScript.steps.take 4)
    let s' := s.performAll (sampleScript.steps.drop 4)
    sampleScript.start.readings sampleScript.steps = [5, 5, 55, 55, 55, 60] ∧
    (sampleScript.startTime :: sampleScript.start.readings sampleScript.steps).Pairwise (· ≤ ·) ∧
    s.AnswersReached (.couponFor 1 (.ofLow 8)) ∧ s'.AnswersReached (.couponAmountFor 1 (.ofLow 7)) ∧
    (s.bond.events.since 55).length = 2 ∧ s.bond.events.since 55 <:+ s.bond.events := by
  intro s s'
  have hcheck : sampleScript.config.check = .ok () := rfl
  obtain ⟨-, hreadings, hkeeps⟩ := replay_keeps_time sampleScript hcheck
  have hfirst : (5 : UInt64).toNat + (50 : UInt64).toNat < UInt64.size := by decide
  have hsecond : (55 : UInt64).toNat + (5 : UInt64).toNat < UInt64.size := by decide
  have hforward : sampleScript.start.Forward (sampleScript.steps.map ScenarioStep.move) :=
    ⟨trivial, trivial, hfirst, trivial, trivial, hsecond, trivial⟩
  have hpayable : s.Payable Bond.sampleConfig := (Session.payable_of_create rfl _).performAll _
  have hreached : s.AnswersReached (.couponFor 1 (.ofLow 8)) :=
    (hpayable.answersReached_iff (.couponFor _)).mpr (by decide +kernel)
  obtain ⟨hstays, -, hsince⟩ := hkeeps hforward (sampleScript.steps.take 4)
    (sampleScript.steps.drop 4) rfl
  exact ⟨by decide +kernel, hreadings.mpr hforward, hreached,
    hstays 1 _ _ (.couponFor _) (.couponAmountFor _) hreached, by decide +kernel, hsince 55⟩

/-- A script in which the clock is moved on from time 55 by 45 seconds less than 2^64, before one
more unit is issued. -/
def wrappingScript : Scenario where
  config := Bond.sampleConfig
  startTime := 5
  steps := sampleScript.steps.take 4 ++
    [.advance 18446744073709551571, .command (.issue (.ofLow 7) .default 1)]

/-- An advance that wraps around turns the clock back, from 55 to 10.  The record date of the coupon
is no longer reached, the last event is earlier than the one before it, and the events from time 55
on are not the end of the log. -/
theorem advance_turns_back :
    let s := wrappingScript.start.performAll (wrappingScript.steps.take 4)
    let s' := s.performAll (wrappingScript.steps.drop 4)
    wrappingScript.start.readings wrappingScript.steps = [5, 5, 55, 55, 10, 10] ∧
    ¬ (wrappingScript.startTime ::
      wrappingScript.start.readings wrappingScript.steps).Pairwise (· ≤ ·) ∧
    s.AnswersReached (.couponFor 1 (.ofLow 8)) ∧ ¬ s'.AnswersReached (.couponFor 1 (.ofLow 8)) ∧
    s'.bond.events.map Event.timestamp = [5, 5, 55, 55, 10] ∧
    ¬ (s'.bond.events.map Event.timestamp).Pairwise (· ≤ ·) ∧
    ¬ s'.bond.events.since 55 <:+ s'.bond.events := by
  intro s s'
  have hs : s.Payable Bond.sampleConfig := (Session.payable_of_create rfl _).performAll _
  have hs' : s'.Payable Bond.sampleConfig := hs.performAll _
  have hreached : s.recordDateReached 1 = true := by decide +kernel
  have hearly : s'.recordDateReached 1 = false := by decide +kernel
  refine ⟨by decide +kernel, by decide +kernel, ?_, ?_, by decide +kernel, by decide +kernel,
    by decide +kernel⟩
  · exact (hs.answersReached_iff (.couponFor _)).mpr hreached
  · rw [hs'.answersReached_iff (.couponFor _), hearly]
    nofun

end Scenario

end CouponBond
