import CouponBond.Proofs.AuditTrail
import CouponBond.Proofs.GuardedAccounts

/-!
# The maturity date in force

The maturity date of a bond can be moved, also after it has passed, and every move is logged.  So
the log alone says which date is in force at each of its places: the last one that it was moved to
before.  The moves form a chain that starts from the date of the configuration and only goes
forward, and whatever was redeemed at maturity was redeemed behind the date in force at that place.

## Main Definitions

* `EventLog.maturityMoves` — the moves of the maturity date on a log
* `EventLog.maturityInForce` — the date in force behind a log
* `Event.Respects` — what an event must be like under a date in force

## Main Results

* `EventLog.respectsMaturity_append` — a log is continued under the date that it leaves in force
* `EventLog.RespectsMaturity.chain` — the moves of a log are a chain
* `Bond.Performed.maturity_cases` — a command moves the date, or leaves it in force
* `Session.maturity_date_in_force` — terms, log and requests agree throughout a history
-/

namespace CouponBond

/-- The dates before and after a move of the maturity date. -/
def Fact.maturityMove? : Fact → Option (Timestamp × Timestamp)
  | .maturityDateUpdated previous next => some (previous, next)
  | _ => none

theorem Fact.maturityMove?_eq_some_iff {f : Fact} {previous next : Timestamp} :
    f.maturityMove? = some (previous, next) ↔ f = .maturityDateUpdated previous next := by
  cases f <;> simp [maturityMove?]

/-- What an event must be like under a maturity date in force: a move starts from the date and goes
forward, and a redemption at maturity comes after it. -/
structure Event.Respects (e : Event) (date : Timestamp) : Prop where
  move : ∀ previous next, e.fact = .maturityDateUpdated previous next →
    previous = date ∧ date < next
  redemption : ∀ holder partition amount, e.fact = .redeemedAtMaturity holder partition amount →
    date < e.timestamp

/-! ### Logs -/

namespace EventLog

/-- The moves of the maturity date on a log, each with the dates before and after it. -/
def maturityMoves (log : EventLog) : List (Timestamp × Timestamp) :=
  log.filterMap fun e => e.fact.maturityMove?

/-- The maturity date in force behind a log: the last one that the log moves it to, or the initial
one if there is none. -/
def maturityInForce (log : EventLog) (initial : Timestamp) : Timestamp :=
  ((log.maturityMoves.map Prod.snd).getLast?).getD initial

/-- Every event of a log respects the date in force at its place. -/
def RespectsMaturity (log : EventLog) (initial : Timestamp) : Prop :=
  ∀ (before : EventLog) (e : Event) (after : EventLog), log = before ++ e :: after →
    e.Respects (before.maturityInForce initial)

variable {log more : EventLog} {e : Event} {initial previous next : Timestamp}

theorem maturityMoves_append (log more : EventLog) :
    maturityMoves (log ++ more) = log.maturityMoves ++ more.maturityMoves :=
  List.filterMap_append

theorem maturityMoves_singleton (e : Event) :
    maturityMoves [e] = e.fact.maturityMove?.toList := by
  unfold maturityMoves
  cases hmove : e.fact.maturityMove? <;> simp [hmove]

/-- A log is continued from the date that it leaves in force. -/
theorem maturityInForce_append (log more : EventLog) (initial : Timestamp) :
    maturityInForce (log ++ more) initial = more.maturityInForce (log.maturityInForce initial) := by
  unfold maturityInForce
  rw [maturityMoves_append, List.map_append, List.getLast?_append, Option.getD_or]

theorem maturityInForce_of_moves_eq_nil (h : log.maturityMoves = []) (initial : Timestamp) :
    log.maturityInForce initial = initial := by
  rw [maturityInForce, h]
  rfl

theorem respectsMaturity_nil (initial : Timestamp) : RespectsMaturity [] initial := by
  intro before e after h
  cases before <;> cases h

/-- A log is continued under the date that it leaves in force. -/
theorem respectsMaturity_append : RespectsMaturity (log ++ more) initial ↔
    log.RespectsMaturity initial ∧ more.RespectsMaturity (log.maturityInForce initial) := by
  constructor
  · intro h
    refine ⟨fun before e after hlog => ?_, fun before e after hmore => ?_⟩
    · refine h before e (after ++ more) ?_
      rw [hlog, List.append_assoc, List.cons_append]
    · rw [← maturityInForce_append]
      refine h (log ++ before) e after ?_
      rw [hmore, List.append_assoc]
  · rintro ⟨hlog, hmore⟩ before e after heq
    obtain ⟨between, rfl, hafter⟩ | ⟨between, hlog', hafter⟩ := List.append_eq_append_iff.mp heq
    · rw [maturityInForce_append]
      exact hmore between e after hafter
    · cases between with
      | nil =>
        rw [List.append_nil] at hlog'
        rw [← hlog']
        exact hmore [] e after hafter.symm
      | cons first rest =>
        obtain ⟨rfl, -⟩ := List.cons.inj hafter
        exact hlog before e rest hlog'

theorem respectsMaturity_singleton : RespectsMaturity [e] initial ↔ e.Respects initial := by
  constructor
  · intro h
    exact h [] e [] rfl
  · intro h before e' after heq
    cases before with
    | nil =>
      obtain ⟨rfl, -⟩ := List.cons.inj heq
      exact h
    | cons first rest =>
      have hlength := congrArg List.length heq
      simp at hlength

/-- Events that do not move the date stand under the same one. -/
theorem respectsMaturity_of_moves_eq_nil (hmoves : log.maturityMoves = [])
    (h : ∀ e ∈ log, e.Respects initial) : log.RespectsMaturity initial := by
  intro before e after hlog
  rw [hlog, maturityMoves_append, List.append_eq_nil_iff] at hmoves
  rw [maturityInForce_of_moves_eq_nil hmoves.1]
  exact h e (hlog ▸ List.mem_append_right before List.mem_cons_self)

/-- The moves of a log are a chain that starts from the initial date and only goes forward. -/
theorem RespectsMaturity.chain (h : log.RespectsMaturity initial) :
    (initial :: log.maturityMoves.map Prod.snd).Pairwise (· < ·) ∧
      log.maturityMoves.map Prod.fst =
        (initial :: log.maturityMoves.map Prod.snd).dropLast := by
  induction log generalizing initial with
  | nil => exact ⟨List.pairwise_singleton _ _, rfl⟩
  | cons e rest ih =>
    have hsplit : RespectsMaturity ([e] ++ rest) initial := h
    obtain ⟨hfirst, hrest⟩ := respectsMaturity_append.mp hsplit
    have he := respectsMaturity_singleton.mp hfirst
    obtain ⟨hpairwise, hprevious⟩ := ih hrest
    have hmoves : maturityMoves (e :: rest) =
        e.fact.maturityMove?.toList ++ maturityMoves rest := by
      rw [← maturityMoves_singleton]
      exact maturityMoves_append [e] rest
    have hmoved : maturityInForce [e] initial =
        (e.fact.maturityMove?.map Prod.snd).getD initial := by
      rw [maturityInForce, maturityMoves_singleton]
      cases e.fact.maturityMove? <;> rfl
    rw [hmoves]
    rw [hmoved] at hpairwise hprevious
    cases hmove : e.fact.maturityMove? with
    | none =>
      rw [hmove] at hpairwise hprevious
      exact ⟨hpairwise, hprevious⟩
    | some move =>
      obtain ⟨previous, next⟩ := move
      rw [hmove] at hpairwise hprevious
      obtain ⟨rfl, hforward⟩ := he.move previous next (Fact.maturityMove?_eq_some_iff.mp hmove)
      refine ⟨List.pairwise_cons.mpr ⟨fun date hdate => ?_, hpairwise⟩, ?_⟩
      · rcases List.mem_cons.mp hdate with rfl | hlater
        · exact hforward
        · exact UInt64.lt_trans hforward ((List.pairwise_cons.mp hpairwise).1 date hlater)
      · exact congrArg (previous :: ·) hprevious

end EventLog

/-! ### Commands -/

namespace Bond

variable {b b' changed : Bond} {desk : Desk} {command : Command} {outcome : Outcome}
  {facts : List Fact}

/-- A command moves the maturity date and says so, or it leaves the terms as they are and redeems
at maturity only when the date has passed. -/
theorem Performed.maturity_cases (h : Performed desk b command outcome facts changed) :
    (∃ date, command = .updateMaturityDate date ∧ b.terms.maturityDate < date ∧
      outcome = .maturityDateUpdated b.terms.maturityDate ∧
      facts = [.maturityDateUpdated b.terms.maturityDate date] ∧
      changed.terms = { b.terms with maturityDate := date }) ∨
    changed.terms = b.terms ∧ ∀ f ∈ facts, f.maturityMove? = none ∧
      ∀ holder partition amount, f = .redeemedAtMaturity holder partition amount →
        b.terms.maturityDate < desk.now := by
  cases h with
  | @updateMaturityDate date terms _ hterms =>
    unfold Terms.extend? at hterms
    split at hterms
    · next hforward =>
      cases hterms
      exact .inl ⟨date, rfl, hforward, rfl, rfl, rfl⟩
    · cases hterms
  | redeemAtMaturity _ _ _ hmatured =>
    have hpassed : b.terms.maturityDate < desk.now := by
      simpa [Terms.isMatured] using hmatured
    refine .inr ⟨rfl, fun f hf => ?_⟩
    rw [eq_of_mem_factOfUnits f hf]
    exact ⟨rfl, fun _ _ _ _ => hpassed⟩
  | redeemAllAtMaturity _ _ hmatured =>
    have hpassed : b.terms.maturityDate < desk.now := by
      simpa [Terms.isMatured] using hmatured
    refine .inr ⟨rfl, fun f hf => ?_⟩
    obtain ⟨entry, -, rfl⟩ := List.mem_map.mp hf
    exact ⟨rfl, fun _ _ _ _ => hpassed⟩
  | setCoupon => exact .inr ⟨rfl, by simp [Fact.maturityMove?]⟩
  | issue => exact .inr ⟨rfl, by simp [Fact.maturityMove?, factOfUnits]⟩
  | transfer => exact .inr ⟨rfl, by simp [Fact.maturityMove?, factOfUnits]⟩
  | redeem => exact .inr ⟨rfl, by simp [Fact.maturityMove?, factOfUnits]⟩
  | lock => exact .inr ⟨rfl, by simp [Fact.maturityMove?]⟩
  | releaseLock => exact .inr ⟨rfl, by simp [Fact.maturityMove?]⟩
  | createHold => exact .inr ⟨rfl, by simp [Fact.maturityMove?]⟩
  | executeHold => exact .inr ⟨rfl, by simp [Fact.maturityMove?]⟩
  | releaseHold => exact .inr ⟨rfl, by simp [Fact.maturityMove?]⟩
  | freeze => exact .inr ⟨rfl, by simp [Fact.maturityMove?]⟩
  | unfreeze => exact .inr ⟨rfl, by simp [Fact.maturityMove?]⟩
  | createClearing => exact .inr ⟨rfl, by simp [Fact.maturityMove?]⟩
  | approveClearing => exact .inr ⟨rfl, by simp [Fact.maturityMove?]⟩
  | cancelClearing => exact .inr ⟨rfl, by simp [Fact.maturityMove?]⟩

/-- The log of a bond leaves the maturity date of its terms in force, and respects it at every
place. -/
structure MaturityLogged (b : Bond) (initial : Timestamp) : Prop where
  inForce : b.terms.maturityDate = b.events.maturityInForce initial
  respects : b.events.RespectsMaturity initial

/-- What a command logs under the date in force leaves the date of the changed terms in force. -/
theorem Performed.maturity_logged (h : Performed desk b command outcome facts changed) :
    let logged : EventLog := facts.map fun f => ⟨desk.now, f⟩
    changed.terms.maturityDate = logged.maturityInForce b.terms.maturityDate ∧
      logged.RespectsMaturity b.terms.maturityDate := by
  intro logged
  obtain ⟨date, -, hforward, -, rfl, hterms⟩ | ⟨hterms, hfacts⟩ := h.maturity_cases
  · rw [hterms]
    refine ⟨rfl, EventLog.respectsMaturity_singleton.mpr ⟨?_, nofun⟩⟩
    rintro previous next ⟨rfl, rfl⟩
    exact ⟨rfl, hforward⟩
  · have hmoves : logged.maturityMoves = [] := by
      refine List.filterMap_eq_nil_iff.mpr fun e he => ?_
      obtain ⟨f, hf, rfl⟩ := List.mem_map.mp he
      exact (hfacts f hf).1
    rw [hterms, EventLog.maturityInForce_of_moves_eq_nil hmoves]
    refine ⟨rfl, EventLog.respectsMaturity_of_moves_eq_nil hmoves fun e he => ?_⟩
    obtain ⟨f, hf, rfl⟩ := List.mem_map.mp he
    obtain ⟨hstays, hredeemed⟩ := hfacts f hf
    refine ⟨fun previous next hmove => ?_, fun holder partition amount => ?_⟩
    · rw [show f = .maturityDateUpdated previous next from hmove] at hstays
      cases hstays
    · exact hredeemed holder partition amount

/-- The events about snapshots have no part in it. -/
theorem moves_notices_eq_nil (now : Timestamp) (notices : List SnapshotNotice) :
    EventLog.maturityMoves ((notices.map noticeFact).map fun f => ⟨now, f⟩) = [] := by
  refine List.filterMap_eq_nil_iff.mpr fun e he => ?_
  obtain ⟨f, hf, rfl⟩ := List.mem_map.mp he
  obtain ⟨n, -, rfl⟩ := List.mem_map.mp hf
  rfl

theorem respectsMaturity_notices (now : Timestamp) (notices : List SnapshotNotice)
    (date : Timestamp) :
    EventLog.RespectsMaturity ((notices.map noticeFact).map fun f => ⟨now, f⟩) date := by
  refine EventLog.respectsMaturity_of_moves_eq_nil (moves_notices_eq_nil now notices) fun e he => ?_
  obtain ⟨f, hf, rfl⟩ := List.mem_map.mp he
  obtain ⟨n, -, rfl⟩ := List.mem_map.mp hf
  exact ⟨nofun, nofun⟩

/-- A command that is performed and logged keeps the log in step with the terms. -/
theorem MaturityLogged.closed {initial : Timestamp} (hlogged : b.MaturityLogged initial)
    (h : Performed desk b command outcome facts changed) :
    (b.closed desk.now changed facts).MaturityLogged initial := by
  obtain ⟨hinForce, hrespects⟩ := h.maturity_logged
  obtain ⟨notices, hevents⟩ := exists_events_closed b desk.now changed facts
  rw [h.events_eq, List.append_assoc] at hevents
  have hnoticed (date : Timestamp) := EventLog.maturityInForce_of_moves_eq_nil
    (moves_notices_eq_nil desk.now notices) date
  constructor
  · rw [hevents, EventLog.maturityInForce_append, EventLog.maturityInForce_append,
      ← hlogged.inForce, hnoticed]
    exact hinForce
  · rw [hevents, EventLog.respectsMaturity_append, EventLog.respectsMaturity_append,
      ← hlogged.inForce, hnoticed]
    exact ⟨hlogged.respects, respectsMaturity_notices _ _ _, hrespects⟩

/-- Bonds that differ in nothing that can be seen have the same terms and the same log. -/
theorem MaturityLogged.of_alike {initial : Timestamp} (h : b.MaturityLogged initial)
    (halike : b.Alike b') : b'.MaturityLogged initial :=
  (halike.congr (fun b => b.MaturityLogged initial) fun _ _ =>
    propext ⟨fun h => ⟨h.inForce, h.respects⟩, fun h => ⟨h.inForce, h.respects⟩⟩).mpr h

end Bond

/-! ### Histories -/

namespace Session

variable {config : Config} {s : Session}

/-- A move that is refused changes nothing. -/
theorem step_of_refused (h : s.Sound config) {move : Move} {cause : BondError}
    (hrefused : (s.step move).1 = .refused cause) : (s.step move).2 = s := by
  cases move with
  | advance seconds => cases hrefused
  | advanceTo time =>
    unfold step at hrefused
    dsimp only at hrefused
    split at hrefused <;> cases hrefused
  | command guards operator command =>
    have hspec := Bond.execute_spec ⟨s.clock.now, guards, operator⟩ h.consistent command
    unfold step at hrefused ⊢
    dsimp only at hrefused ⊢
    cases hm : Bond.execute ⟨s.clock.now, guards, operator⟩ command s.bond with
    | ok outcome b =>
      rw [hm] at hrefused
      cases hrefused
    | error e b =>
      dsimp only
      rw [(hspec.of_error hm).1]
  | query query =>
    unfold step
    dsimp only
    split <;> rfl
  | reload =>
    rw [h.step_reload.1] at hrefused
    cases hrefused

/-- A move changes the terms only if it is an applied request for a later maturity date, which
then is in force. -/
theorem Sound.terms_step (h : s.Sound config) (move : Move) :
    (s.step move).2.bond.terms = s.bond.terms ∨ ∃ guards operator date,
      move = .command guards operator (.updateMaturityDate date) ∧
      s.bond.terms.maturityDate < date ∧
      (s.step move).2.bond.terms = { s.bond.terms with maturityDate := date } := by
  obtain hseen | ⟨guards, operator, command, outcome, facts, changed, hmove, hdone, hbond⟩ :=
    h.alike_or_performed move
  · exact .inl (hseen.congr Bond.terms fun _ _ => rfl)
  · rw [hbond]
    obtain ⟨date, hcommand, hforward, -, -, hterms⟩ | ⟨hterms, -⟩ := hdone.maturity_cases
    · exact .inr ⟨guards, operator, date, hcommand ▸ hmove, hforward, hterms⟩
    · exact .inl hterms

/-- Throughout the history of a bond since it was opened the maturity date in force is the last one
that the log moves it to, and nothing else of the terms ever changes.  The moves are a chain: each
starts from the date in force before it and goes forward.  Whatever was redeemed at maturity was
redeemed behind the date in force at that place of the log.  Only an applied request for a later
date changes the terms, and a move that is refused changes nothing. -/
theorem maturity_date_in_force {b : Bond} (hcreate : Bond.create config = .ok b) (start : Clock)
    (history : List Move) :
    let s := (⟨b, start⟩ : Session).run history
    let log := s.bond.events
    s.bond.terms = { config.terms with maturityDate := log.maturityInForce config.maturityDate } ∧
    (∀ (before : EventLog) (e : Event) (after : EventLog), log = before ++ e :: after →
      (∀ previous next, e.fact = .maturityDateUpdated previous next →
        previous = before.maturityInForce config.maturityDate ∧ previous < next) ∧
      ∀ holder partition amount, e.fact = .redeemedAtMaturity holder partition amount →
        before.maturityInForce config.maturityDate < e.timestamp) ∧
    (config.maturityDate :: log.maturityMoves.map Prod.snd).Pairwise (· < ·) ∧
    log.maturityMoves.map Prod.fst =
      (config.maturityDate :: log.maturityMoves.map Prod.snd).dropLast ∧
    ∀ move, (∀ cause, (s.step move).1 = .refused cause → (s.step move).2 = s) ∧
      ((s.step move).2.bond.terms ≠ s.bond.terms → ∃ guards operator date,
        move = .command guards operator (.updateMaturityDate date) ∧
        s.bond.terms.maturityDate < date ∧
        (s.step move).2.bond.terms = { s.bond.terms with maturityDate := date }) := by
  intro s log
  have hopened := sound_of_create hcreate start
  have hsound : s.Sound config := hopened.run history
  have hstart : b.MaturityLogged config.maturityDate := by
    obtain ⟨-, rfl⟩ := Bond.create_eq_ok_iff.mp hcreate
    exact ⟨rfl, EventLog.respectsMaturity_nil _⟩
  obtain ⟨hinForce, hrespects⟩ := hopened.bond_keeps
    (fun halike hlogged => Bond.MaturityLogged.of_alike hlogged halike)
    (fun _ hperformed hlogged => hlogged.closed hperformed) hstart history
  obtain ⟨hforward, hlinked⟩ := hrespects.chain
  refine ⟨?_, fun before e after hlog => ?_, hforward, hlinked, fun move => ⟨?_, ?_⟩⟩
  · rw [← hinForce]
    exact hsound.terms_eq
  · obtain ⟨hmove, hredemption⟩ := hrespects before e after hlog
    refine ⟨fun previous next hfact => ?_, hredemption⟩
    obtain ⟨hprevious, hlater⟩ := hmove previous next hfact
    exact ⟨hprevious, hprevious ▸ hlater⟩
  · exact fun cause => step_of_refused hsound
  · exact fun hchanged => (hsound.terms_step move).resolve_left hchanged

/-- Ten units are issued.  Behind the maturity date 1000 four of them are redeemed; the date is
moved to 2000, where redemption is refused, and behind that date the rest is redeemed. -/
def maturingHistory : List Move :=
  [.command [] none (.issue (.ofLow 7) .default 10), .advanceTo 1001,
    .command [] none (.redeemAtMaturity (.ofLow 7) .default 4),
    .command [] none (.updateMaturityDate 2000),
    .command [] none (.redeemAtMaturity (.ofLow 7) .default 1), .advanceTo 2001,
    .command [] none (.redeemAllAtMaturity (.ofLow 7))]

/-- The log of the two redemptions and the move between them. -/
theorem maturing_date_in_force :
    let s := sampleStart.run maturingHistory
    s.bond.events =
      [⟨5, .issued (.ofLow 7) .default 10⟩, ⟨1001, .redeemedAtMaturity (.ofLow 7) .default 4⟩,
        ⟨1001, .maturityDateUpdated 1000 2000⟩,
        ⟨2001, .redeemedAtMaturity (.ofLow 7) .default 6⟩] ∧
    s.bond.terms.maturityDate = 2000 ∧
    ∀ (before : EventLog) (e : Event) (after : EventLog), s.bond.events = before ++ e :: after →
      ∀ holder partition amount, e.fact = .redeemedAtMaturity holder partition amount →
        before.maturityInForce 1000 < e.timestamp := by
  have hcreate : Bond.create Bond.sampleConfig = .ok sampleStart.bond := rfl
  obtain ⟨-, hlog, -⟩ := maturity_date_in_force hcreate sampleStart.clock maturingHistory
  exact ⟨by decide, by decide, fun before e after heq => (hlog before e after heq).2⟩

end Session

end CouponBond
