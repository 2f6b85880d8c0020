import CouponBond.Config
import CouponBond.Entitlement
import CouponBond.Event
import CouponBond.Guard
import CouponBond.Ledger.Mutation

/-!
# The bond

Terms, ledger, corporate actions, snapshots and events of one bond, and the one path by
which all of them change.

## Main Definitions

* `Bond` — the state of a bond
* `Desk` — the surroundings of a command: the time, the guards and the operator
* `BondChange` — a change that may be refused
* `Bond.run` — guards, captures, the change itself, commit, events

## Design Notes

The record dates that have come are captured before the change is applied and kept only
if it is not refused.  The snapshots' events come before the events of the change.

Like a mutation of the ledger, a change carries the bond through refusals.
-/

namespace CouponBond

/-- Why a saved state is refused. -/
inductive StateError where
  | ledger (cause : LedgerError)
  /-- An action names a snapshot that was taken for another action. -/
  | foreignSnapshot (action : ActionId) (snapshot : SnapshotId) (owner : ActionId)
  /-- An action names a snapshot that does not exist. -/
  | missingSnapshot (action : ActionId) (snapshot : SnapshotId)
  /-- A snapshot is not named by the action it was taken for. -/
  | orphanedSnapshot (snapshot : SnapshotId) (owner : ActionId)
deriving DecidableEq, Repr

/-- The text of a refusal. -/
def StateError.message : StateError → String
  | .ledger cause => cause.message
  | .foreignSnapshot action snapshot owner =>
    s!"Action {action} points at snapshot {snapshot} taken for action {owner}"
  | .missingSnapshot action snapshot =>
    s!"Action {action} points at missing snapshot {snapshot}"
  | .orphanedSnapshot snapshot owner => s!"Orphaned snapshot {snapshot} for action {owner}"

/-- Why a bond refuses a command, a query or a saved state. -/
inductive BondError where
  | dates (cause : DateError)
  | action (cause : ActionError)
  | ledger (cause : LedgerError)
  | guarded (cause : GuardError)
  | zeroAddressNotAllowed
  | partitionNotAllowed (partition : Partition)
  | maturityDateWrong (maturityDate requested : Timestamp)
  | rateDecimalsOutOfRange (rateDecimals greatest : Decimals)
  | arithmeticOverflow
  | invalidConfig (cause : ConfigError)
  /-- The text of a saved state cannot be read. -/
  | unreadableState
  | invalidState (cause : StateError)
deriving DecidableEq, Repr

namespace BondError

/-- The text of a refusal. -/
def message : BondError → String
  | .dates cause => cause.message
  | .action cause => cause.message
  | .ledger cause => cause.message
  | .guarded cause => cause.message
  | .zeroAddressNotAllowed => "Zero address not allowed"
  | .partitionNotAllowed partition =>
    s!"Partition {partition} not allowed in single partition mode"
  | .maturityDateWrong maturityDate requested =>
    s!"Bond maturity date wrong: maturity {maturityDate}, requested {requested}"
  | .rateDecimalsOutOfRange rateDecimals greatest =>
    s!"Rate decimals {rateDecimals} exceed the maximum of {greatest}"
  | .arithmeticOverflow => "Arithmetic overflow computing entitlement"
  | .invalidConfig cause => "Invalid config: " ++ cause.message
  | .unreadableState => "Serialization error: Checkpoint deserialization failed"
  | .invalidState cause => "State validation error: " ++ cause.message

/-- The refusal of an entitlement as a refusal of the bond. -/
def ofAccrual : AccrualError → BondError
  | .wrongIndex id => .action ⟨id⟩
  | .arithmeticOverflow => .arithmeticOverflow

end BondError

/-- The state of a bond. -/
structure Bond where
  config : Config
  terms : Terms
  ledger : Ledger
  actions : ActionStore
  snapshots : SnapshotBook
  events : EventLog
deriving DecidableEq

/-- The surroundings of a command. -/
structure Desk where
  now : Timestamp
  guards : GuardChain
  /-- The account to which commands are attributed. -/
  operator : Option Address

/-- A change of a bond that may be refused. -/
abbrev BondChange := EStateM BondError Bond

/-- What a change answers, with the facts that it adds to the log. -/
abbrev Applied (α : Type) := α × List Fact

namespace Bond

/-- A bond with a configuration that was checked. -/
def opened (config : Config) : Bond :=
  ⟨config, config.terms, .empty, .empty, .empty, []⟩

/-- Open a bond. -/
def create (config : Config) : Except BondError Bond :=
  match config.check with
  | .ok () => .ok (opened config)
  | .error e => .error (.invalidConfig e)

/-! ### Parts of a change -/

/-- Refuse the change if a check fails. -/
def demand {α : Type} (check : Except BondError α) : BondChange α :=
  match check with
  | .ok a => pure a
  | .error e => throw e

/-- Change the ledger. -/
def onLedger {α : Type} (m : Ledger.Mutation α) : BondChange α := fun b =>
  match m b.ledger with
  | .ok a l => .ok a { b with ledger := l }
  | .error e l => .error (.ledger e) { b with ledger := l }

/-- Refuse the zero address. -/
def requireHolder (account : Address) : BondChange Unit :=
  if account.isZero then throw .zeroAddressNotAllowed else pure ()

/-- Refuse a partition other than the default one unless the bond has several. -/
def requirePartition (partition : Partition) : BondChange Unit := do
  if !(← get).terms.isMultiPartition && !partition.isDefault then
    throw (.partitionNotAllowed partition)

/-- Refuse a time that is not behind the maturity date. -/
def requireMatured (now : Timestamp) : BondChange Unit := do
  let terms := (← get).terms
  if !terms.isMatured now then throw (.maturityDateWrong terms.maturityDate now)

/-- Add facts to the log. -/
def record (now : Timestamp) (facts : List Fact) : BondChange Unit :=
  modify fun b => { b with events := b.events ++ facts.map fun f => ⟨now, f⟩ }

/-- Keep captures; the answer lists the snapshots that were added. -/
def keep (captures : List Capture) : BondChange (List SnapshotNotice) := fun b =>
  let (notices, snapshots, actions) := b.snapshots.commit b.actions captures
  .ok notices { b with snapshots, actions }

/-- The fact that a snapshot was kept. -/
def noticeFact (n : SnapshotNotice) : Fact := .snapshotTaken n.snapshotId n.actionId n.holders

/-- The context of a command that comes from the desk. -/
def contextAt (desk : Desk) (operation : Operation) (accounts : List Address)
    (partition : Option Partition) : CommandContext :=
  ⟨operation, accounts, partition, desk.operator⟩

/-- Carry a command through guards, captures, the change itself, commit and events. -/
def run {α : Type} (desk : Desk) (ctx : CommandContext) (apply : BondChange (Applied α)) :
    BondChange α := do
  match desk.guards.check ctx with
  | .ok () => pure ()
  | .error e => throw (.guarded e)
  let before ← get
  let captures := before.snapshots.captureDue desk.now before.actions before.ledger
  let (value, facts) ← apply
  let notices ← keep captures
  record desk.now (notices.map noticeFact)
  record desk.now facts
  return value

end Bond

end CouponBond
