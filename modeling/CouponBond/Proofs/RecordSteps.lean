import CouponBond.Proofs.Dockets
import CouponBond.Proofs.Postings
import CouponBond.Proofs.Sessions

/-!
# What applied commands do to records

The locks of a ledger, its holds and its clearings are each kept in a docket: the open records
under their numbers, and the number of the last one that was opened.  A command that is applied
opens one record, or takes units from one, or leaves the three dockets alone.  A lock and a
clearing go as a whole, a hold goes in parts.

Which of these a command did is read off the command and its answer.  What that had to be for the
ledgers before and after it is said here, once for each kind of record.

## Main Definitions

* `Deed` — a command that was applied, with the ledgers before and after it
* `Deed.lock?`, `Deed.releasedLock?`, … — the record that it opened, and the one that it drew on
* `Ledger.lockDocket`, `Ledger.holdDocket`, `Ledger.clearingDocket` — the records of a ledger
* `Session.deeds` — the commands that are applied in a history

## Main Results

* `Deed.Genuine.filed` — what an applied command does to the three dockets
* `Deed.Genuine.of_releaseLock`, `Deed.Genuine.of_executeHold`, … — when units of a record may be
  taken, and which rows they go to
* `Session.Sound.deed?_cases` — a move applies one command, or leaves the dockets alone
-/

namespace CouponBond

/-- A command that was applied: the time, its answer, and the ledgers before and after it. -/
structure Deed where
  now : Timestamp
  command : Command
  outcome : Outcome
  before : Ledger
  after : Ledger

namespace Deed

/-- The lock that a command opened. -/
def lock? (d : Deed) : Option Lock :=
  match d.command, d.outcome with
  | .lock holder partition amount expiration, .locked id =>
    some ⟨id, holder, partition, amount, expiration⟩
  | _, _ => none

/-- The hold that a command opened. -/
def hold? (d : Deed) : Option Hold :=
  match d.command, d.outcome with
  | .createHold holder partition amount escrow destination expiration, .holdCreated id =>
    some ⟨id, holder, partition, amount, escrow, destination, expiration⟩
  | _, _ => none

/-- The clearing that a command opened. -/
def clearing? (d : Deed) : Option Clearing :=
  match d.command, d.outcome with
  | .createClearing source destination partition amount expiration, .clearingCreated id =>
    some ⟨id, source, destination, partition, amount, expiration⟩
  | _, _ => none

/-- The lock that a command released. -/
def releasedLock? (d : Deed) : Option LockId :=
  match d.command with
  | .releaseLock id => some id
  | _ => none

/-- The hold that a command executed or released, as a whole or in part. -/
def drawnHold? (d : Deed) : Option HoldId :=
  match d.command with
  | .executeHold id _ _ => some id
  | .releaseHold id _ => some id
  | _ => none

/-- The clearing that a command approved or cancelled. -/
def endedClearing? (d : Deed) : Option ClearingId :=
  match d.command with
  | .approveClearing id => some id
  | .cancelClearing id => some id
  | _ => none

/-- Units of a hold that a command paid out. -/
def executedFrom (id : HoldId) (d : Deed) : Nat :=
  match d.command with
  | .executeHold drawn _ amount => if id = drawn then amount.toNat else 0
  | _ => 0

/-- Units of a hold that a command gave back to the holder. -/
def releasedFrom (id : HoldId) (d : Deed) : Nat :=
  match d.command with
  | .releaseHold drawn amount => if id = drawn then amount.toNat else 0
  | _ => 0

/-- A command that a bond with a consistent ledger performed. -/
inductive Genuine : Deed → Prop where
  | performed {desk : Desk} {b changed : Bond} {command : Command} {outcome : Outcome}
      {facts : List Fact} : b.ledger.Consistent →
      Bond.Performed desk b command outcome facts changed →
      Genuine ⟨desk.now, command, outcome, b.ledger, changed.ledger⟩

end Deed

/-! ### Dockets of a ledger -/

namespace Ledger

/-- The locks of a ledger. -/
def lockDocket (l : Ledger) : Docket Lock := ⟨l.locks, l.lockCounter⟩

/-- The holds of a ledger. -/
def holdDocket (l : Ledger) : Docket Hold := ⟨l.holds, l.holdCounter⟩

/-- The clearings of a ledger. -/
def clearingDocket (l : Ledger) : Docket Clearing := ⟨l.clearings, l.clearingCounter⟩

/-- Two ledgers have the same records. -/
structure SameRecords (l l' : Ledger) : Prop where
  locks : l'.lockDocket = l.lockDocket
  holds : l'.holdDocket = l.holdDocket
  clearings : l'.clearingDocket = l.clearingDocket

variable {l l' l'' : Ledger}

theorem SameRecords.refl (l : Ledger) : l.SameRecords l := ⟨rfl, rfl, rfl⟩

theorem SameRecords.trans (h : l.SameRecords l') (h' : l'.SameRecords l'') : l.SameRecords l'' :=
  ⟨h'.locks.trans h.locks, h'.holds.trans h.holds, h'.clearings.trans h.clearings⟩

theorem sameRecords_withRow (l : Ledger) (holder : Address) (partition : Partition)
    (balance : Balance) : l.SameRecords (l.withRow holder partition balance) := ⟨rfl, rfl, rfl⟩

theorem sameRecords_withSupply (l : Ledger) (partition : Partition) (supply : Amount) :
    l.SameRecords (l.withSupply partition supply) := ⟨rfl, rfl, rfl⟩

theorem Alike.sameRecords (h : l.Alike l') : l.SameRecords l' :=
  ⟨h.congr lockDocket fun _ _ => rfl, h.congr holdDocket fun _ _ => rfl,
    h.congr clearingDocket fun _ _ => rfl⟩

theorem sameRecords_of_redeem (h : l.Consistent) {holder : Address} {partition : Partition}
    {amount : Amount} (hl' : Ledger.redeem holder partition amount l = .ok () l') :
    l.SameRecords l' := by
  obtain ⟨-, ⟨-, rfl⟩ | ⟨-, supply, balance, -, -, rfl⟩⟩ :=
    (redeem_spec h holder partition amount).of_ok hl'
  · exact .refl _
  · exact (sameRecords_withSupply l partition supply).trans (sameRecords_withRow _ _ _ _)

/-- A plan of redemption leaves the records alone, whatever its length. -/
theorem sameRecords_of_redeemEach (h : l.Consistent) {holder : Address}
    {plan : List (Partition × Amount)} (hl' : Bond.redeemEach holder plan l = .ok () l') :
    l.SameRecords l' := by
  induction plan generalizing l with
  | nil =>
    cases hl'
    exact .refl _
  | cons entry rest ih =>
    obtain ⟨partition, amount⟩ := entry
    obtain ⟨l₁, hm, h₁, hl'⟩ := Bond.redeem_of_redeemEach h hl'
    exact (sameRecords_of_redeem h hm).trans (ih h₁ hl')

end Ledger

/-! ### What a command does to the dockets -/

namespace Deed

/-- What an applied command does to the three dockets. -/
structure Filed (d : Deed) : Prop where
  locks : d.before.lockDocket.WholeStep Lock.id d.lock? d.releasedLock? d.after.lockDocket
  holds : d.before.holdDocket.PartStep d.hold? (fun id => d.executedFrom id + d.releasedFrom id)
    d.after.holdDocket
  clearings : d.before.clearingDocket.WholeStep Clearing.id d.clearing? d.endedClearing?
    d.after.clearingDocket

variable {d : Deed}

/-- A command that opens no record and draws on none leaves the dockets alone. -/
theorem filed_of_sameRecords (h : d.before.SameRecords d.after) (hlock : d.lock? = none)
    (hreleased : d.releasedLock? = none) (hhold : d.hold? = none)
    (htaken : ∀ id, d.executedFrom id + d.releasedFrom id = 0) (hclearing : d.clearing? = none)
    (hended : d.endedClearing? = none) : d.Filed := by
  refine ⟨?_, ?_, ?_⟩
  · rw [hlock, hreleased, h.locks]
    exact .idle
  · rw [hhold, h.holds]
    exact .idle htaken
  · rw [hclearing, hended, h.clearings]
    exact .idle

/-- Each command opens one record, draws on one, or leaves all three dockets alone. -/
theorem Genuine.filed (h : d.Genuine) : d.Filed := by
  obtain ⟨h, hperformed⟩ := h
  cases hperformed with
  | setCoupon => exact filed_of_sameRecords (.refl _) rfl rfl rfl (fun _ => rfl) rfl rfl
  | updateMaturityDate =>
    exact filed_of_sameRecords (.refl _) rfl rfl rfl (fun _ => rfl) rfl rfl
  | issue _ _ _ hl' =>
    refine filed_of_sameRecords ?_ rfl rfl rfl (fun _ => rfl) rfl rfl
    obtain ⟨-, rfl⟩ | ⟨-, supply, balance, -, -, -, rfl⟩ :=
      (Ledger.issue_spec h _ _ _).of_ok hl'
    · exact .refl _
    · exact (Ledger.sameRecords_withSupply _ _ supply).trans (Ledger.sameRecords_withRow _ _ _ _)
  | transfer _ _ _ _ hl' =>
    refine filed_of_sameRecords ?_ rfl rfl rfl (fun _ => rfl) rfl rfl
    obtain ⟨-, ⟨-, rfl⟩ | ⟨-, -, sender, receiver, -, -, rfl⟩⟩ :=
      (Ledger.transfer_spec h _ _ _ _).of_ok hl'
    · exact .refl _
    · exact (Ledger.sameRecords_withRow _ _ _ sender).trans (Ledger.sameRecords_withRow _ _ _ _)
  | redeem _ _ _ hl' =>
    exact filed_of_sameRecords (Ledger.sameRecords_of_redeem h hl') rfl rfl rfl (fun _ => rfl)
      rfl rfl
  | redeemAtMaturity _ _ _ _ hl' =>
    exact filed_of_sameRecords (Ledger.sameRecords_of_redeem h hl') rfl rfl rfl (fun _ => rfl)
      rfl rfl
  | redeemAllAtMaturity _ _ _ hl' =>
    exact filed_of_sameRecords (Ledger.sameRecords_of_redeemEach h hl') rfl rfl rfl
      (fun _ => rfl) rfl rfl
  | freeze _ _ _ hl' =>
    refine filed_of_sameRecords ?_ rfl rfl rfl (fun _ => rfl) rfl rfl
    obtain ⟨-, -, balance, -, rfl⟩ := (Ledger.freeze_spec h _ _ _).of_ok hl'
    exact Ledger.sameRecords_withRow _ _ _ balance
  | unfreeze _ _ _ hl' =>
    refine filed_of_sameRecords ?_ rfl rfl rfl (fun _ => rfl) rfl rfl
    obtain ⟨-, -, balance, -, rfl⟩ := (Ledger.unfreeze_spec h _ _ _).of_ok hl'
    exact Ledger.sameRecords_withRow _ _ _ balance
  | lock _ _ _ hl' =>
    obtain ⟨-, -, balance, -, hid, rfl⟩ := (Ledger.lock_spec h _ _ _ _).of_ok hl'
    exact ⟨.opened hid, .idle fun _ => rfl, .idle⟩
  | releaseLock _ _ hl' =>
    obtain ⟨hrecord, -, balance, -, rfl⟩ := (Ledger.releaseLock_spec h _ _).of_ok hl'
    exact ⟨.ended hrecord, .idle fun _ => rfl, .idle⟩
  | createHold _ _ _ _ _ hl' =>
    obtain ⟨hpos, -, balance, -, hid, rfl⟩ := (Ledger.createHold_spec h _ _ _ _ _ _).of_ok hl'
    exact ⟨.idle, .opened (fun _ => rfl) hid hpos, .idle⟩
  | executeHold _ _ _ hl' =>
    obtain ⟨record, hrecord, -, -, -, -, sender, receiver, rest, -, -, hrest, rfl⟩ :=
      (Ledger.executeHold_spec h _ _ _ _).of_ok hl'
    exact ⟨.idle, .drawn (fun _ => rfl) hrecord hrest, .idle⟩
  | releaseHold _ _ hl' =>
    obtain ⟨record, hrecord, -, -, balance, rest, -, hrest, rfl⟩ :=
      (Ledger.releaseHold_spec h _ _).of_ok hl'
    exact ⟨.idle, .drawn (fun _ => Nat.zero_add _) hrecord hrest, .idle⟩
  | createClearing _ _ _ _ hl' =>
    obtain ⟨-, -, balance, -, hid, rfl⟩ := (Ledger.createClearing_spec h _ _ _ _ _).of_ok hl'
    exact ⟨.idle, .idle fun _ => rfl, .opened hid⟩
  | approveClearing _ _ hl' =>
    obtain ⟨hrecord, -, reserved, sender, receiver, -, -, -, rfl⟩ :=
      (Ledger.approveClearing_spec h _ _).of_ok hl'
    exact ⟨.idle, .idle fun _ => rfl, .ended hrecord⟩
  | cancelClearing _ _ hl' =>
    obtain ⟨hrecord, balance, -, rfl⟩ := (Ledger.cancelClearing_spec h _).of_ok hl'
    exact ⟨.idle, .idle fun _ => rfl, .ended hrecord⟩

/-! ### Units that are taken from a record -/

/-- A lock is released from its expiration on, and its units go back to its holder. -/
theorem Genuine.of_releaseLock (h : d.Genuine) {id : LockId} (hid : d.releasedLock? = some id) :
    ∃ r, d.before.locks.get? id = some r ∧ r.expiration ≤ d.now ∧
      d.before.Posts (Posting.move r.holder r.partition .locked .free r.amount) d.after := by
  obtain ⟨h, hperformed⟩ := h
  cases hperformed with
  | releaseLock _ _ hl' =>
    cases hid
    obtain ⟨hrecord, hexpired, balance, hbalance, rfl⟩ := (Ledger.releaseLock_spec h _ _).of_ok hl'
    exact ⟨_, hrecord, hexpired, Ledger.posts_move (fun _ _ => rfl) hbalance⟩
  | _ => cases hid

/-- A hold is executed before its expiration, to its destination if it has one. -/
theorem Genuine.of_executeHold (h : d.Genuine) {id : HoldId} {destination : Address}
    {amount : Amount} (hcommand : d.command = .executeHold id destination amount) :
    ∃ r, d.before.holds.get? id = some r ∧ d.now < r.expiration ∧
      (∀ expected, r.destination = some expected → expected = destination) ∧
      d.before.Posts [⟨r.holder, r.partition, .debit .held amount⟩,
        ⟨destination, r.partition, .credit .free amount⟩] d.after := by
  obtain ⟨h, hperformed⟩ := h
  cases hcommand
  cases hperformed with
  | executeHold _ _ _ hl' =>
    obtain ⟨r, hrecord, -, -, hopen, hagreed, sender, receiver, rest, hsender, hreceiver, -, rfl⟩ :=
      (Ledger.executeHold_spec h _ _ _ _).of_ok hl'
    exact ⟨r, hrecord, hopen, hagreed, Ledger.posts_payment (fun _ _ => rfl) hsender hreceiver⟩

/-- Units that are released from a hold go back to its holder. -/
theorem Genuine.of_releaseHold (h : d.Genuine) {id : HoldId} {amount : Amount}
    (hcommand : d.command = .releaseHold id amount) :
    ∃ r, d.before.holds.get? id = some r ∧
      d.before.Posts (Posting.move r.holder r.partition .held .free amount) d.after := by
  obtain ⟨h, hperformed⟩ := h
  cases hcommand
  cases hperformed with
  | releaseHold _ _ hl' =>
    obtain ⟨r, hrecord, -, -, balance, rest, hbalance, -, rfl⟩ :=
      (Ledger.releaseHold_spec h _ _).of_ok hl'
    exact ⟨r, hrecord, Ledger.posts_move (fun _ _ => rfl) hbalance⟩

/-- Units are taken from a hold that is open. -/
theorem Genuine.of_drawnHold (h : d.Genuine) {id : HoldId} (hid : d.drawnHold? = some id) :
    ∃ r, d.before.holds.get? id = some r := by
  obtain ⟨h, hperformed⟩ := h
  cases hperformed with
  | executeHold _ hnamed =>
    cases hid
    exact ⟨_, hnamed⟩
  | releaseHold hnamed =>
    cases hid
    exact ⟨_, hnamed⟩
  | _ => cases hid

/-- A clearing is approved before its expiration, and its units are paid to its receiver. -/
theorem Genuine.of_approveClearing (h : d.Genuine) {id : ClearingId}
    (hcommand : d.command = .approveClearing id) :
    ∃ r, d.before.clearings.get? id = some r ∧ d.now < r.expiration ∧
      d.before.Posts [⟨r.source, r.partition, .debit .cleared r.amount⟩,
        ⟨r.source, r.partition, .debit .free r.amount⟩,
        ⟨r.destination, r.partition, .credit .free r.amount⟩] d.after := by
  obtain ⟨h, hperformed⟩ := h
  cases hcommand
  cases hperformed with
  | approveClearing _ _ hl' =>
    obtain ⟨hrecord, hopen, reserved, sender, receiver, hreserved, hsender, hreceiver, rfl⟩ :=
      (Ledger.approveClearing_spec h _ _).of_ok hl'
    exact ⟨_, hrecord, hopen, Ledger.posts_settlement (fun _ _ => rfl) hreserved hsender hreceiver⟩

/-- The units of a clearing that is cancelled are reserved no longer. -/
theorem Genuine.of_cancelClearing (h : d.Genuine) {id : ClearingId}
    (hcommand : d.command = .cancelClearing id) :
    ∃ r, d.before.clearings.get? id = some r ∧
      d.before.Posts [⟨r.source, r.partition, .debit .cleared r.amount⟩] d.after := by
  obtain ⟨h, hperformed⟩ := h
  cases hcommand
  cases hperformed with
  | cancelClearing _ _ hl' =>
    obtain ⟨hrecord, balance, hbalance, rfl⟩ := (Ledger.cancelClearing_spec h _).of_ok hl'
    exact ⟨_, hrecord, Ledger.posts_debit (fun _ _ => rfl) hbalance⟩

end Deed

/-! ### Histories -/

namespace Session

/-- The command that a move applies, if it applies one. -/
def deed? (s : Session) (move : Move) : Option Deed :=
  match move, s.step move with
  | .command _ _ command, (.outcome outcome, s') =>
    some ⟨s.clock.now, command, outcome, s.bond.ledger, s'.bond.ledger⟩
  | _, _ => none

/-- The commands that are applied in a history, one after the other. -/
def deeds (s : Session) : List Move → List Deed
  | [] => []
  | move :: rest => (s.deed? move).toList ++ deeds (s.step move).2 rest

variable {config : Config} {s : Session}

/-- A move applies one command, or it leaves every docket as it was. -/
theorem Sound.deed?_cases (h : s.Sound config) (move : Move) :
    (s.deed? move = none ∧ s.bond.ledger.SameRecords (s.step move).2.bond.ledger) ∨
    ∃ d, s.deed? move = some d ∧ d.Genuine ∧ d.before = s.bond.ledger ∧
      d.after = (s.step move).2.bond.ledger := by
  have hleft := h.alike_or_performed move
  cases move with
  | command guards operator command =>
    have hspec := Bond.execute_spec ⟨s.clock.now, guards, operator⟩ h.consistent command
    unfold deed? Session.step
    dsimp only
    cases hm : Bond.execute ⟨s.clock.now, guards, operator⟩ command s.bond with
    | error e b' =>
      refine .inl ⟨rfl, ?_⟩
      rw [(hspec.of_error hm).1]
      exact .refl _
    | ok outcome b' =>
      obtain ⟨facts, changed, hperformed, rfl⟩ := hspec.of_ok hm
      exact .inr ⟨_, rfl, .performed h.consistent hperformed, rfl, rfl⟩
  | _ =>
    obtain halike | ⟨_, _, _, _, _, _, hcommand, -⟩ := hleft
    · exact .inl ⟨rfl, halike.ledger.sameRecords⟩
    · cases hcommand

theorem deeds_append (s : Session) (moves more : List Move) :
    s.deeds (moves ++ more) = s.deeds moves ++ (s.run moves).deeds more := by
  induction moves generalizing s with
  | nil => rfl
  | cons move rest ih =>
    rw [List.cons_append, deeds, deeds, ih, List.append_assoc]
    rfl

/-- A command that is applied in a history is applied by one of its moves. -/
theorem exists_of_mem_deeds {moves : List Move} {d : Deed} (hd : d ∈ s.deeds moves) :
    ∃ earlier move later, moves = earlier ++ move :: later ∧
      (s.run earlier).deed? move = some d := by
  induction moves generalizing s with
  | nil => cases hd
  | cons move rest ih =>
    rcases List.mem_append.mp hd with hd | hd
    · exact ⟨[], move, rest, rfl, Option.mem_toList.mp hd⟩
    · obtain ⟨earlier, next, later, rfl, hdone⟩ := ih hd
      exact ⟨move :: earlier, next, later, rfl, hdone⟩

/-- A command that is applied in a history was performed by the bond that the moves before it
led to. -/
theorem Sound.exists_of_mem_deeds (h : s.Sound config) {moves : List Move} {d : Deed}
    (hd : d ∈ s.deeds moves) : ∃ earlier later, s.deeds earlier ++ d :: later = s.deeds moves ∧
      d.before = (s.run earlier).bond.ledger ∧ d.Genuine := by
  obtain ⟨earlier, move, later, rfl, hdone⟩ := Session.exists_of_mem_deeds hd
  obtain ⟨hnone, -⟩ | ⟨d', hdone', hgenuine, hbefore, -⟩ := (h.run earlier).deed?_cases move
  · cases hnone.symm.trans hdone
  · cases hdone'.symm.trans hdone
    refine ⟨earlier, ((s.run earlier).step move).2.deeds later, ?_, hbefore, hgenuine⟩
    rw [deeds_append, deeds, hdone]
    rfl

end Session

end CouponBond
