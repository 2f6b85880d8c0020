import CouponBond.Bond.Basic
import CouponBond.Digest.Sha256
import CouponBond.Json.Printer
import CouponBond.Ledger.Audit
import CouponBond.Wire.Event
import CouponBond.Wire.Ledger

/-!
# Saving and restoring a bond

The whole state of a bond as a JSON text, and what has to hold of such a text before a
bond is made of it again.

## Main Definitions

* `Json.hash`, `Config.hash` — the digest of a value in canonical form
* `Checkpoint` — a saved state, with `Checkpoint.check`
* `Bond.checkpoint`, `Bond.save` — take a state
* `Bond.restore`, `Bond.load` — make a bond of it

## Design Notes

A state can only be restored under the configuration it was taken under.  The agenda of
record dates is not saved but set up again from the actions.
-/

namespace CouponBond

/-- The text that is digested: no blanks, and every object sorted by name. -/
def Json.canonicalText (j : Json) : String := j.canonical.print

/-- The SHA-256 digest of the canonical text of a value. -/
def Json.hash (j : Json) : String :=
  Sha256.hexDigest (j.canonicalText.toList.flatMap String.utf8EncodeChar)

/-- The digest that names a configuration. -/
def Config.hash (c : Config) : String := (encode c).hash

/-- The state of a bond at a moment. -/
structure Checkpoint where
  /-- Digest of the configuration. -/
  configHash : String
  bondId : BondId
  savedAt : Timestamp
  terms : Terms
  ledger : Ledger
  actions : ActionStore
  snapshots : SnapshotBook
  events : EventLog
deriving DecidableEq

/-- The field names of a saved state. -/
def Checkpoint.fieldNames : FieldNames :=
  ["config_hash", "bond_id", "saved_at", "details", "ledger", "actions", "snapshots", "events"]

instance : Wire Checkpoint where
  encode c := .obj
    [("config_hash", encode c.configHash),
      ("bond_id", encode c.bondId),
      ("saved_at", encode c.savedAt),
      ("details", encode c.terms),
      ("ledger", encode c.ledger),
      ("actions", encode c.actions),
      ("snapshots", encode c.snapshots),
      ("events", c.events.toJson)]
  read? site t := do
    let r ← t.record? site Checkpoint.fieldNames
    return {
      configHash := ← r.required "config_hash"
      bondId := ← r.required "bond_id"
      savedAt := ← r.required "saved_at"
      terms := ← r.required "details"
      ledger := ← r.required "ledger"
      actions := ← r.required "actions"
      snapshots := ← r.required "snapshots"
      events := ← (r.fields.lookup "events").bind (EventLog.read? site) }

namespace Checkpoint

/-- Whether the snapshot that an action names was taken for it. -/
def checkAction (c : Checkpoint) (a : Action) : Except StateError Unit :=
  match c.snapshots.get? a.snapshotId with
  | none => .error (.missingSnapshot a.id a.snapshotId)
  | some s =>
    if s.actionId = a.id then .ok () else .error (.foreignSnapshot a.id a.snapshotId s.actionId)

/-- Whether the action that the snapshot at a place was taken for names it. -/
def checkSnapshot (c : Checkpoint) (place : Nat) (s : Snapshot) : Except StateError Unit :=
  let number := UInt64.ofNat place
  match c.actions.get? s.actionId with
  | .ok a =>
    if a.snapshotId = number then .ok () else .error (.orphanedSnapshot number s.actionId)
  | .error _ => .error (.orphanedSnapshot number s.actionId)

/-- Check the snapshots from a place on. -/
def checkSnapshots (c : Checkpoint) : (place : Nat) → List Snapshot → Except StateError Unit
  | _, [] => .ok ()
  | place, s :: rest => do
    c.checkSnapshot place s
    c.checkSnapshots (place + 1) rest

/-- Check the actions that name a snapshot. -/
def checkActions (c : Checkpoint) : List Action → Except StateError Unit
  | [] => .ok ()
  | a :: rest => do
    if a.hasSnapshot then c.checkAction a
    c.checkActions rest

/-- Whether a saved state is one that a bond can be in. -/
def check (c : Checkpoint) : Except StateError Unit := do
  match c.ledger.auditSupply with
  | .error e => throw (.ledger e)
  | .ok () => pure ()
  match c.ledger.auditRecords with
  | .error e => throw (.ledger e)
  | .ok () => pure ()
  c.checkActions c.actions.actions
  c.checkSnapshots 1 c.snapshots.snapshots

end Checkpoint

namespace Bond

/-- The state of a bond at a moment. -/
def checkpoint (b : Bond) (now : Timestamp) : Checkpoint where
  configHash := b.config.hash
  bondId := b.config.bondId
  savedAt := now
  terms := b.terms
  ledger := b.ledger
  actions := b.actions
  snapshots := b.snapshots
  events := b.events

/-- The text of the state of a bond at a moment. -/
def save (b : Bond) (now : Timestamp) : String := (encode (b.checkpoint now)).print

/-- The bond in a saved state. -/
def ofCheckpoint (config : Config) (c : Checkpoint) : Bond where
  config := config
  terms := c.terms
  ledger := c.ledger
  actions := c.actions
  snapshots := c.snapshots.rebuildPending c.actions
  events := c.events

/-- Make a bond of a saved state, or of `none` if the state could not be read. -/
def restore (config : Config) (saved : Option Checkpoint) : Except BondError Bond :=
  match config.check with
  | .error e => .error (.invalidConfig e)
  | .ok () =>
    match saved with
    | none => .error .unreadableState
    | some c =>
      if c.configHash ≠ config.hash then
        .error (.invalidConfig (.hashMismatch c.configHash config.hash))
      else
        match c.check with
        | .error e => .error (.invalidState e)
        | .ok () => .ok (ofCheckpoint config c)

/-- Make a bond of the text of a saved state. -/
def load (config : Config) (text : String) : Except BondError Bond :=
  restore config (decodeText? text)

end Bond

end CouponBond
