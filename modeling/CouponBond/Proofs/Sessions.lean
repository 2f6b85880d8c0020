import CouponBond.Proofs.Restoring
import CouponBond.Scenario

/-!
# Histories of a bond

A bond and its clock go through moves: the clock is moved, commands are given from any desk,
questions are asked, and the bond is saved and restored.  A bond that was opened keeps a
consistent ledger and snapshots that agree with its actions through every history, and a bond
that is restored from its own state goes on as if nothing had happened.

## Main Definitions

* `Move`, `Reply` — what happens to a session, and what it shows
* `Session.step`, `Session.run`, `Session.replies` — one move, and a history of them
* `Session.Sound` — the invariant of histories
* `Session.Alike` — sessions that differ in nothing that can be seen

## Main Results

* `Session.run_keeps` — what every move keeps, every history keeps
* `Session.Sound.run` — every history keeps the invariant
* `Session.Sound.bond_keeps` — what alike bonds share and commands keep, every history keeps
* `Session.restored_goes_on` — a restored bond answers every further history the same
-/

namespace CouponBond

/-- What can happen to a bond and its clock. -/
inductive Move where
  /-- The clock moves on by a number of seconds. -/
  | advance (seconds : UInt64)
  /-- The clock is set to a time. -/
  | advanceTo (time : Timestamp)
  /-- A command is given under guards and by an operator. -/
  | command (guards : GuardChain) (operator : Option Address) (command : Command)
  | query (query : Query)
  /-- The bond is saved, and restored from the text of its state. -/
  | reload

/-- What a move shows. -/
inductive Reply where
  | moved
  | clockBack (cause : ClockError)
  | outcome (outcome : Outcome)
  | answer (answer : Answer)
  | restored
  | refused (cause : BondError)

namespace Session

/-- One move. -/
def step (s : Session) : Move → Reply × Session
  | .advance seconds => (.moved, { s with clock := s.clock.advance seconds })
  | .advanceTo time =>
    match s.clock.set time with
    | .ok clock => (.moved, { s with clock })
    | .error e => (.clockBack e, s)
  | .command guards operator command =>
    match Bond.execute ⟨s.clock.now, guards, operator⟩ command s.bond with
    | .ok outcome bond => (.outcome outcome, { s with bond })
    | .error e bond => (.refused e, { s with bond })
  | .query query =>
    match s.bond.query s.clock.now query with
    | .ok answer => (.answer answer, s)
    | .error e => (.refused e, s)
  | .reload =>
    match Bond.load s.bond.config (s.bond.save s.clock.now) with
    | .ok bond => (.restored, { s with bond })
    | .error e => (.refused e, s)

/-- The session at the end of a history. -/
def run (s : Session) : List Move → Session
  | [] => s
  | move :: rest => run (s.step move).2 rest

/-- What the moves of a history show. -/
def replies (s : Session) : List Move → List Reply
  | [] => []
  | move :: rest => (s.step move).1 :: replies (s.step move).2 rest

/-- A command leaves the bond that is after it. -/
theorem step_command (s : Session) (guards : GuardChain) (operator : Option Address)
    (command : Command) :
    (s.step (.command guards operator command)).2 =
      { s with bond := s.bond.after ⟨s.clock.now, guards, operator⟩ command } := by
  unfold step Bond.after
  dsimp only
  cases Bond.execute ⟨s.clock.now, guards, operator⟩ command s.bond with
  | ok outcome b => rfl
  | error e b => rfl

/-- What every move keeps, every history keeps. -/
theorem run_keeps {P : Session → Prop} (hstep : ∀ s, P s → ∀ move, P (s.step move).2)
    {s : Session} (h : P s) (moves : List Move) : P (s.run moves) := by
  induction moves generalizing s with
  | nil => exact h
  | cons move rest ih => exact ih (hstep s h move)

/-! ### The invariant -/

/-- The session of a bond that was opened with a configuration. -/
structure Sound (config : Config) (s : Session) : Prop where
  consistent : s.bond.ledger.Consistent
  agrees : s.bond.Agrees
  config_eq : s.bond.config = config
  /-- The maturity date is all that changes of the terms. -/
  terms_eq : s.bond.terms = { config.terms with maturityDate := s.bond.terms.maturityDate }
  checked : config.check = .ok ()

variable {config : Config} {s s' : Session}

/-- A bond that was just opened. -/
theorem sound_of_create {b : Bond} (h : Bond.create config = .ok b) (clock : Clock) :
    Sound config ⟨b, clock⟩ := by
  obtain ⟨hcheck, rfl⟩ := Bond.create_eq_ok_iff.mp h
  exact ⟨Ledger.consistent_empty, SnapshotBook.agrees_empty, rfl, rfl, hcheck⟩

end Session

/-- No change touches the configuration, or more of the terms than the maturity date. -/
theorem Bond.Performed.config_eq {desk : Desk} {b changed : Bond} {command : Command}
    {outcome : Outcome} {facts : List Fact}
    (h : Performed desk b command outcome facts changed) :
    changed.config = b.config ∧
      changed.terms = { b.terms with maturityDate := changed.terms.maturityDate } := by
  cases h with
  | @updateMaturityDate date terms _ hterms =>
    refine ⟨rfl, ?_⟩
    unfold Terms.extend? at hterms
    split at hterms
    · cases hterms
      rfl
    · cases hterms
  | setCoupon => exact ⟨rfl, rfl⟩
  | issue => exact ⟨rfl, rfl⟩
  | transfer => exact ⟨rfl, rfl⟩
  | redeem => exact ⟨rfl, rfl⟩
  | redeemAtMaturity => exact ⟨rfl, rfl⟩
  | redeemAllAtMaturity => exact ⟨rfl, rfl⟩
  | lock => exact ⟨rfl, rfl⟩
  | releaseLock => exact ⟨rfl, rfl⟩
  | createHold => exact ⟨rfl, rfl⟩
  | executeHold => exact ⟨rfl, rfl⟩
  | releaseHold => exact ⟨rfl, rfl⟩
  | freeze => exact ⟨rfl, rfl⟩
  | unfreeze => exact ⟨rfl, rfl⟩
  | createClearing => exact ⟨rfl, rfl⟩
  | approveClearing => exact ⟨rfl, rfl⟩
  | cancelClearing => exact ⟨rfl, rfl⟩

/-- A command keeps the configuration and the face value of the bond. -/
theorem Bond.config_after {b : Bond} (h : b.ledger.Consistent) (desk : Desk)
    (command : Command) :
    (b.after desk command).config = b.config ∧ (b.after desk command).terms =
      { b.terms with maturityDate := (b.after desk command).terms.maturityDate } := by
  obtain hleft | ⟨outcome, facts, changed, hperformed, hafter⟩ :=
    after_eq_or_performed h desk command
  · rw [hleft]
    exact ⟨rfl, rfl⟩
  · rw [hafter]
    exact hperformed.config_eq

namespace Bond.Alike

variable {b b' b'' : Bond}

theorem symm (h : b.Alike b') : b'.Alike b := by
  refine ⟨?_, h.ledger.symm⟩
  rw [h.eq_withLedger]

theorem trans (h : b.Alike b') (h' : b'.Alike b'') : b.Alike b'' := by
  refine ⟨?_, h.ledger.trans h'.ledger⟩
  rw [h'.eq_withLedger, h.eq_withLedger]

end Bond.Alike

namespace Session

/-- Sessions that differ in nothing but the places of rosters. -/
structure Alike (s s' : Session) : Prop where
  bond : s.bond.Alike s'.bond
  clock_eq : s'.clock = s.clock

variable {config : Config} {s s' : Session}

theorem Sound.of_alike (h : s.Sound config) (halike : s.Alike s') : s'.Sound config := by
  refine ⟨halike.bond.ledger.consistent h.consistent, ?_, ?_, ?_, h.checked⟩
  · exact (halike.bond.congr Bond.Agrees fun _ _ => rfl).mpr h.agrees
  · exact (halike.bond.congr Bond.config fun _ _ => rfl).trans h.config_eq
  · rw [show s'.bond.terms = s.bond.terms from halike.bond.congr Bond.terms fun _ _ => rfl]
    exact h.terms_eq

/-- A session of a bond that was opened is restored from its own state. -/
theorem Sound.load_save (h : s.Sound config) :
    ∃ restored, Bond.load config (s.bond.save s.clock.now) = .ok restored ∧
      s.Alike ⟨restored, s.clock⟩ := by
  have hconfig : s.bond.config.check = .ok () := by rw [h.config_eq, h.checked]
  obtain ⟨restored, hload, halike⟩ := Bond.load_save h.consistent h.agrees hconfig s.clock.now
  rw [h.config_eq] at hload
  exact ⟨restored, hload, halike, rfl⟩

/-- Saving and restoring shows nothing and leaves an alike session. -/
theorem Sound.step_reload (h : s.Sound config) :
    (s.step .reload).1 = .restored ∧ s.Alike (s.step .reload).2 := by
  obtain ⟨restored, hload, halike⟩ := h.load_save
  unfold step
  rw [h.config_eq, hload]
  exact ⟨rfl, halike⟩

/-- Every move keeps the invariant. -/
theorem Sound.step (h : s.Sound config) (move : Move) : (s.step move).2.Sound config := by
  cases move with
  | advance seconds => exact ⟨h.consistent, h.agrees, h.config_eq, h.terms_eq, h.checked⟩
  | advanceTo time =>
    unfold Session.step
    dsimp only
    split
    · exact ⟨h.consistent, h.agrees, h.config_eq, h.terms_eq, h.checked⟩
    · exact h
  | command guards operator command =>
    rw [step_command]
    obtain ⟨hconfig, hterms⟩ := Bond.config_after h.consistent
      ⟨s.clock.now, guards, operator⟩ command
    refine ⟨Bond.consistent_after h.consistent _ _, h.agrees.after h.consistent _ _,
      hconfig.trans h.config_eq, ?_, h.checked⟩
    rw [h.terms_eq] at hterms
    exact hterms
  | query query =>
    unfold Session.step
    dsimp only
    split <;> exact h
  | reload => exact h.of_alike h.step_reload.2

/-- A move leaves a bond that differs in nothing that can be seen, or performs a command. -/
theorem Sound.alike_or_performed (h : s.Sound config) (move : Move) :
    s.bond.Alike (s.step move).2.bond ∨ ∃ guards operator command outcome facts changed,
      move = .command guards operator command ∧
      Bond.Performed ⟨s.clock.now, guards, operator⟩ s.bond command outcome facts changed ∧
      (s.step move).2.bond = s.bond.closed s.clock.now changed facts := by
  cases move with
  | advance seconds => exact .inl (.refl _)
  | advanceTo time =>
    unfold Session.step
    dsimp only
    split <;> exact .inl (.refl _)
  | command guards operator command =>
    rw [step_command]
    obtain hleft | ⟨outcome, facts, changed, hperformed, hafter⟩ :=
      Bond.after_eq_or_performed h.consistent ⟨s.clock.now, guards, operator⟩ command
    · dsimp only
      rw [hleft]
      exact .inl (.refl _)
    · exact .inr ⟨guards, operator, command, outcome, facts, changed, rfl, hperformed, hafter⟩
  | query query =>
    unfold Session.step
    dsimp only
    split <;> exact .inl (.refl _)
  | reload => exact .inl h.step_reload.2.bond

/-- Every history keeps the invariant. -/
theorem Sound.run (h : s.Sound config) (moves : List Move) : (s.run moves).Sound config :=
  run_keeps (fun _ hs => hs.step) h moves

/-- What alike bonds share and every applied command keeps, every history keeps. -/
theorem Sound.bond_keeps {P : Bond → Prop} (h : s.Sound config)
    (halike : ∀ {b b' : Bond}, b.Alike b' → P b → P b')
    (hperformed : ∀ {s : Session} {guards : GuardChain} {operator : Option Address}
      {command : Command} {outcome : Outcome} {facts : List Fact} {changed : Bond},
      s.Sound config →
      Bond.Performed ⟨s.clock.now, guards, operator⟩ s.bond command outcome facts changed →
      P s.bond → P (s.bond.closed s.clock.now changed facts))
    (hs : P s.bond) (moves : List Move) : P (s.run moves).bond := by
  refine (run_keeps (P := fun s => s.Sound config ∧ P s.bond) ?_ ⟨h, hs⟩ moves).2
  rintro s ⟨hsound, hs⟩ move
  refine ⟨hsound.step move, ?_⟩
  obtain hseen | ⟨guards, operator, command, outcome, facts, changed, -, hdone, hbond⟩ :=
    hsound.alike_or_performed move
  · exact halike hseen hs
  · rw [hbond]
    exact hperformed hsound hdone hs

/-! ### Alike sessions -/

/-- Alike sessions show the same in one move and stay alike. -/
theorem Alike.step (halike : s.Alike s') (h : s.Sound config) (move : Move) :
    (s'.step move).1 = (s.step move).1 ∧ (s.step move).2.Alike (s'.step move).2 := by
  obtain ⟨hbond, hclock⟩ := halike
  cases move with
  | advance seconds => exact ⟨rfl, hbond, congrArg (Clock.advance · seconds) hclock⟩
  | advanceTo time =>
    unfold Session.step
    dsimp only
    rw [hclock]
    split
    · exact ⟨rfl, hbond, rfl⟩
    · exact ⟨rfl, hbond, hclock⟩
  | command guards operator command =>
    have hblind := Bond.blind_execute ⟨s.clock.now, guards, operator⟩ command
    unfold Session.step
    dsimp only
    rw [hclock]
    cases hm : Bond.execute ⟨s.clock.now, guards, operator⟩ command s.bond with
    | ok outcome b =>
      obtain ⟨b', hm', hb⟩ := hblind.of_ok hbond hm
      rw [hm']
      exact ⟨rfl, hb, rfl⟩
    | error e b =>
      obtain ⟨b', hm', hb⟩ := hblind.of_error hbond hm
      rw [hm']
      exact ⟨rfl, hb, rfl⟩
  | query query =>
    unfold Session.step
    dsimp only
    rw [hclock, hbond.query_eq]
    split
    · exact ⟨rfl, hbond, hclock⟩
    · exact ⟨rfl, hbond, hclock⟩
  | reload =>
    -- each of the two restored bonds is alike to its own original
    obtain ⟨hreply, hleft⟩ := h.step_reload
    obtain ⟨hreply', hright⟩ := (h.of_alike ⟨hbond, hclock⟩).step_reload
    refine ⟨hreply'.trans hreply.symm, ?_, ?_⟩
    · exact (hleft.bond.symm.trans hbond).trans hright.bond
    · rw [hright.clock_eq, hleft.clock_eq, hclock]

/-- Alike sessions show the same throughout a history and stay alike. -/
theorem Alike.run (halike : s.Alike s') (h : s.Sound config) (moves : List Move) :
    s'.replies moves = s.replies moves ∧ (s.run moves).Alike (s'.run moves) := by
  induction moves generalizing s s' with
  | nil => exact ⟨rfl, halike⟩
  | cons move rest ih =>
    obtain ⟨hreply, hnext⟩ := halike.step h move
    obtain ⟨hreplies, hend⟩ := ih hnext (h.step move)
    refine ⟨?_, hend⟩
    rw [replies, replies, hreply, hreplies]

/-- A bond with any history since it was opened is restored from the text of its state.  The
restored bond goes through every further history with the same replies and the same events, and
the two never differ in anything that can be seen. -/
theorem restored_goes_on {b : Bond} (hcreate : Bond.create config = .ok b) (start : Clock)
    (history : List Move) :
    let s := (⟨b, start⟩ : Session).run history
    ∃ restored, Bond.load config (s.bond.save s.clock.now) = .ok restored ∧
      ∀ further : List Move,
        (⟨restored, s.clock⟩ : Session).replies further = s.replies further ∧
        ((⟨restored, s.clock⟩ : Session).run further).bond.events =
          (s.run further).bond.events ∧
        (s.run further).Alike ((⟨restored, s.clock⟩ : Session).run further) := by
  intro s
  have hsound : s.Sound config := (sound_of_create hcreate start).run history
  obtain ⟨restored, hload, halike⟩ := hsound.load_save
  refine ⟨restored, hload, fun further => ?_⟩
  obtain ⟨hreplies, hend⟩ := halike.run hsound further
  exact ⟨hreplies, hend.bond.congr Bond.events fun _ _ => rfl, hend⟩

/-- A coupon with record date 50. -/
def sampleCoupon : Coupon where
  recordDate := 50
  executionDate := 80
  startDate := 10
  endDate := 80
  fixingDate := 60
  rate := 5
  rateDecimals := 2
  rateStatus := .fixed

/-- A bond that was just opened, at time 5. -/
def sampleStart : Session := ⟨.opened Bond.sampleConfig, ⟨5⟩⟩

/-- Ten units are issued and a coupon is set; with its record date behind it three units change
hands, so that a snapshot is kept. -/
def sampleHistory : List Move :=
  [.command [] none (.issue (.ofLow 7) .default 10), .command [] none (.setCoupon sampleCoupon),
    .advance 50, .command [] none (.transfer (.ofLow 7) (.ofLow 8) .default 3)]

/-- A bond with a snapshot is restored and goes on as before. -/
theorem sample_goes_on :
    let s := sampleStart.run sampleHistory
    s.bond.snapshots.count = 1 ∧
    ∃ restored, Bond.load Bond.sampleConfig (s.bond.save s.clock.now) = .ok restored ∧
      ∀ further : List Move,
        (⟨restored, s.clock⟩ : Session).replies further = s.replies further ∧
        ((⟨restored, s.clock⟩ : Session).run further).bond.events =
          (s.run further).bond.events ∧
        (s.run further).Alike ((⟨restored, s.clock⟩ : Session).run further) :=
  ⟨rfl, restored_goes_on rfl ⟨5⟩ sampleHistory⟩

end Session

end CouponBond
