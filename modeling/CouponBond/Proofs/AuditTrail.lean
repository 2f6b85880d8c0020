import CouponBond.Proofs.Postings
import CouponBond.Proofs.Sessions

/-!
# The log is a complete audit trail

Whoever reads the events of an account, from the first to the last, and books them one after
another arrives at its balances, in each of the five buckets; and the supply of a partition is
what the log says was issued there without what it says was redeemed.

The snapshots that a command takes add events too, but these stand for no entry.

## Main Definitions

* `EventLog.balanceOf?` — the balance of an account, rebuilt from the events that name it
* `EventLog.issuedIn`, `EventLog.redeemedIn` — the units of a partition according to the log

## Main Results

* `Bond.explained_after` — the events that a command adds explain what it leaves
* `Session.Sound.traced_run` — the log explains the ledger throughout a history
* `Session.events_tell_balances` — balances and supplies can be read off the log
-/

namespace CouponBond

namespace EventLog

/-- The balance of an account in a partition, rebuilt from the events to which it is a party. -/
def balanceOf? (log : EventLog) (a : Address) (q : Partition) : Option Balance :=
  (log.forHolder a).foldlM (fun b e => e.fact.enter? a q b) .zero

/-- Units issued in a partition. -/
def issuedIn (log : EventLog) (q : Partition) : Nat := (log.map fun e => e.fact.issuedIn q).sum

/-- Units redeemed in a partition, before or at maturity. -/
def redeemedIn (log : EventLog) (q : Partition) : Nat :=
  (log.map fun e => e.fact.redeemedIn q).sum

/-- The events to which an account is no party do not matter to its balance. -/
theorem foldlM_forHolder (log : EventLog) (a : Address) (q : Partition) (b : Balance) :
    (log.forHolder a).foldlM (fun b e => e.fact.enter? a q b) b =
      (log.map Event.fact).foldlM (fun b f => f.enter? a q b) b := by
  induction log generalizing b with
  | nil => rfl
  | cons e rest ih =>
    have ih' := fun b => (show (EventLog.forHolder rest a).foldlM _ b = _ from ih b)
    by_cases hparty : a ∈ e.fact.parties
    · have hkept : EventLog.forHolder (e :: rest) a = e :: EventLog.forHolder rest a :=
        List.filter_cons_of_pos (by simpa [Fact.involves] using hparty)
      rw [hkept, List.foldlM_cons, List.map_cons, List.foldlM_cons]
      simp only [ih']
    · have hleft : EventLog.forHolder (e :: rest) a = EventLog.forHolder rest a :=
        List.filter_cons_of_neg (by simpa [Fact.involves] using hparty)
      rw [hleft, List.map_cons, List.foldlM_cons, Fact.enter?_of_not_mem_parties hparty]
      exact ih b

end EventLog

namespace Bond

variable {b : Bond}

/-- The facts about snapshots explain nothing. -/
theorem explainedBy_notices (l : Ledger) (notices : List SnapshotNotice) :
    l.ExplainedBy (notices.map noticeFact) l := by
  induction notices with
  | nil => exact Ledger.explainedBy_nil l
  | cons n rest ih =>
    have hone : l.ExplainedBy [noticeFact n] l := ⟨fun _ _ => rfl, fun _ => rfl⟩
    exact hone.append ih

/-- A change adds no events of its own. -/
theorem Performed.events_eq {desk : Desk} {changed : Bond} {command : Command}
    {outcome : Outcome} {facts : List Fact}
    (h : Performed desk b command outcome facts changed) : changed.events = b.events := by
  cases h <;> rfl

/-- A change that is made and logged only adds to the log, and what it adds explains the ledger. -/
theorem Performed.explained_closed {desk : Desk} {changed : Bond} {command : Command}
    {outcome : Outcome} {facts : List Fact}
    (hperformed : Performed desk b command outcome facts changed) (h : b.ledger.Consistent) :
    ∃ added, (b.closed desk.now changed facts).events = b.events ++ added ∧
      b.ledger.ExplainedBy (added.map Event.fact) (b.closed desk.now changed facts).ledger := by
  rw [ledger_closed]
  obtain ⟨notices, hevents⟩ := exists_events_closed b desk.now changed facts
  refine ⟨(notices.map noticeFact ++ facts).map fun f => ⟨desk.now, f⟩, ?_, ?_⟩
  · rw [hevents, hperformed.events_eq, List.map_append, List.append_assoc]
  · rw [List.map_map, show Event.fact ∘ (fun f => ⟨desk.now, f⟩) = id from rfl, List.map_id]
    exact (explainedBy_notices b.ledger notices).append (hperformed.explained h)

/-- A command only adds to the log, and what it adds explains the ledger that it leaves. -/
theorem explained_after (h : b.ledger.Consistent) (desk : Desk) (command : Command) :
    ∃ added, (b.after desk command).events = b.events ++ added ∧
      b.ledger.ExplainedBy (added.map Event.fact) (b.after desk command).ledger := by
  obtain hleft | ⟨outcome, facts, changed, hperformed, hafter⟩ :=
    after_eq_or_performed h desk command
  · rw [hleft]
    exact ⟨[], (List.append_nil _).symm, Ledger.explainedBy_nil _⟩
  · rw [hafter]
    exact hperformed.explained_closed h

/-- Bonds that differ in nothing that can be seen are explained by the same log. -/
theorem Alike.explainedBy {b' : Bond} {l : Ledger} (halike : b.Alike b')
    (h : l.ExplainedBy (b.events.map Event.fact) b.ledger) :
    l.ExplainedBy (b'.events.map Event.fact) b'.ledger := by
  have hevents : b'.events = b.events := halike.congr Bond.events fun _ _ => rfl
  refine ⟨fun a q => ?_, fun q => ?_⟩
  · rw [hevents, halike.congr (fun b => b.ledger.balanceOf a q) fun _ _ => rfl]
    exact h.rows a q
  · rw [hevents, halike.congr (fun b => b.ledger.totalSupply q) fun _ _ => rfl]
    exact h.supply q

end Bond

namespace Session

variable {config : Config} {s : Session}

/-- The log explains the ledger, from the empty one on. -/
def Traced (s : Session) : Prop :=
  Ledger.empty.ExplainedBy (s.bond.events.map Event.fact) s.bond.ledger

/-- Every history keeps the log in step with the ledger. -/
theorem Sound.traced_run (h : s.Sound config) (htraced : s.Traced) (moves : List Move) :
    (s.run moves).Traced := by
  refine h.bond_keeps (P := fun b => Ledger.empty.ExplainedBy (b.events.map Event.fact) b.ledger)
    (fun halike hbefore => halike.explainedBy hbefore) (fun hsound hperformed hbefore => ?_)
    htraced moves
  obtain ⟨added, hevents, hadded⟩ := hperformed.explained_closed hsound.consistent
  rw [hevents, List.map_append]
  exact hbefore.append hadded

/-- Throughout the history of a bond since it was opened, the events of an account tell its
balances in every partition and bucket, and all events together tell the supplies.  A command
that changes a balance of an account adds an event to which the account is a party. -/
theorem events_tell_balances {b : Bond} (hcreate : Bond.create config = .ok b) (start : Clock)
    (history : List Move) :
    let s := (⟨b, start⟩ : Session).run history
    (∀ a q, s.bond.events.balanceOf? a q = some (s.bond.ledger.balanceOf a q)) ∧
    (∀ q, (s.bond.ledger.totalSupply q).toNat + s.bond.events.redeemedIn q =
      s.bond.events.issuedIn q) ∧
    ∀ desk command, ∃ added, (s.bond.after desk command).events = s.bond.events ++ added ∧
      ∀ a q, (s.bond.after desk command).ledger.balanceOf a q ≠ s.bond.ledger.balanceOf a q →
        ∃ e ∈ added, e.fact.involves a = true := by
  intro s
  have hopened := sound_of_create hcreate start
  have hsound : s.Sound config := hopened.run history
  have hstart : (⟨b, start⟩ : Session).Traced := by
    obtain ⟨-, rfl⟩ := Bond.create_eq_ok_iff.mp hcreate
    exact Ledger.explainedBy_nil _
  have htraced : s.Traced := hopened.traced_run hstart history
  refine ⟨fun a q => ?_, fun q => ?_, fun desk command => ?_⟩
  · exact (s.bond.events.foldlM_forHolder a q .zero).trans (htraced.rows a q)
  · have hsupply := htraced.supply q
    rw [List.map_map, List.map_map] at hsupply
    exact hsupply.trans (Nat.zero_add _)
  · obtain ⟨added, hevents, hadded⟩ := Bond.explained_after hsound.consistent desk command
    refine ⟨added, hevents, fun a q hchanged => ?_⟩
    -- if no event named the account, none would explain the change of its balance
    refine Classical.byContradiction fun hnone => hchanged ?_
    refine hadded.balanceOf_eq (fun f hf p hp heq => hnone ?_) q
    obtain ⟨e, he, rfl⟩ := List.mem_map.mp hf
    refine ⟨e, he, ?_⟩
    rw [← heq]
    exact decide_eq_true (e.fact.account_mem_parties p hp)

/-- Of ten units six are held, and two of these are paid out to their own holder, who then pays
one to itself and redeems another one. -/
def auditedHistory : List Move :=
  [.command [] none (.issue (.ofLow 7) .default 10),
    .command [] none (.createHold (.ofLow 7) .default 6 (.ofLow 9) none 100),
    .command [] none (.executeHold 1 (.ofLow 7) 2),
    .command [] none (.transfer (.ofLow 7) (.ofLow 7) .default 1),
    .command [] none (.redeem (.ofLow 7) .default 1)]

/-- The five events tell that five units are free and four are held. -/
theorem audited_events_tell_balances :
    let s := sampleStart.run auditedHistory
    s.bond.events.length = 5 ∧
      s.bond.events.balanceOf? (.ofLow 7) .default = some ⟨5, 0, 4, 0, 0⟩ ∧
      ∀ a q, s.bond.events.balanceOf? a q = some (s.bond.ledger.balanceOf a q) := by
  intro s
  have hcreate : Bond.create Bond.sampleConfig = .ok (.opened Bond.sampleConfig) := rfl
  exact ⟨rfl, rfl, (events_tell_balances hcreate ⟨5⟩ auditedHistory).1⟩

end Session

end CouponBond
