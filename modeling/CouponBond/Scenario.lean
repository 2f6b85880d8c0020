import CouponBond.Bond.Checkpoint
import CouponBond.Clock
import CouponBond.Wire.Command

/-!
# Scenarios

A scripted history of one bond: its configuration, a start time, and steps that move the
clock, give commands and ask questions.

## Main Definitions

* `Scenario` — the script
* `Session` — a bond and the clock it is judged by
* `Session.perform` — one step
* `Scenario.replay` — the whole script, reported line by line
* `hashConfig` — the digest of a configuration text

## Design Notes

A rejected step leaves the session as it was; the replay goes on unless it was asked to
stop at the first rejection.
-/

namespace CouponBond

/-- A step of a script. -/
inductive ScenarioStep where
  | advance (seconds : UInt64)
  | advanceTo (time : Timestamp)
  | command (command : Command)
  | query (query : Query)
deriving DecidableEq, Repr

/-- The kinds of steps in their order, with the names of their members. -/
def ScenarioStep.layout : Layout :=
  [("advance", ["seconds"]),
    ("advance_to", ["timestamp"]),
    ("command", ["command"]),
    ("query", ["query"])]

instance : Wire ScenarioStep where
  encode
    | .advance seconds => .obj [("step", .str "advance"), ("seconds", encode seconds)]
    | .advanceTo time => .obj [("step", .str "advance_to"), ("timestamp", encode time)]
    | .command command => .obj [("step", .str "command"), ("command", encode command)]
    | .query query => .obj [("step", .str "query"), ("query", encode query)]
  read? site t := do
    match ← t.variant? site "step" ScenarioStep.layout with
    | ("advance", r) => return .advance (← r.required "seconds")
    | ("advance_to", r) => return .advanceTo (← r.required "timestamp")
    | ("command", r) => return .command (← r.required "command")
    | ("query", r) => return .query (← r.required "query")
    | _ => none

/-- A scripted history of a bond. -/
structure Scenario where
  config : Config
  startTime : Timestamp
  steps : List ScenarioStep
deriving DecidableEq, Repr

instance : Wire Scenario where
  encode s := .obj
    [("config", encode s.config), ("start_time", encode s.startTime), ("steps", encode s.steps)]
  read? site t := do
    let r ← t.record? site ["config", "start_time", "steps"]
    return {
      config := ← r.required "config"
      startTime := ← r.required "start_time"
      steps := ← r.withDefault "steps" [] }

/-- Why a step is rejected. -/
inductive Rejection where
  | clockBack (cause : ClockError)
  | refused (cause : BondError)
deriving DecidableEq, Repr

/-- The text of a rejection. -/
def Rejection.message : Rejection → String
  | .clockBack cause => s!"cannot move clock back from {cause.now} to {cause.requested}"
  | .refused cause => cause.message

/-- A bond and the clock it is judged by. -/
structure Session where
  bond : Bond
  clock : Clock
deriving DecidableEq

namespace Session

/-- The surroundings of a command without guards and operator. -/
def desk (s : Session) : Desk := ⟨s.clock.now, [], none⟩

/-- Perform a step; the answer is its written result. -/
def perform (s : Session) : ScenarioStep → Except Rejection Json × Session
  | .advance seconds => (.ok .null, { s with clock := s.clock.advance seconds })
  | .advanceTo time =>
    match s.clock.set time with
    | .ok clock => (.ok .null, { s with clock })
    | .error e => (.error (.clockBack e), s)
  | .command command =>
    match Bond.execute s.desk command s.bond with
    | .ok outcome bond => (.ok (encode outcome), { s with bond })
    | .error e bond => (.error (.refused e), { s with bond })
  | .query query =>
    match s.bond.query s.clock.now query with
    | .ok answer => (.ok answer.toJson, s)
    | .error e => (.error (.refused e), s)

end Session

/-- What a replay shows. -/
structure Report where
  /-- One line for every step, in order. -/
  lines : List Json
  /-- Why the replay ended early, if it did. -/
  failure : Option String
  /-- The session at the end. -/
  session : Session

namespace Scenario

/-- The line of a step. -/
def line (index : Nat) (now : Timestamp) : Except Rejection Json → Json
  | .ok value => .obj [("now", encode now), ("ok", value), ("step", .nat index)]
  | .error e => .obj [("error", .str e.message), ("now", encode now), ("step", .nat index)]

/-- Perform steps from an index on. -/
def replayFrom (failFast : Bool) : (index : Nat) → Session → List ScenarioStep → Report
  | _, s, [] => ⟨[], none, s⟩
  | index, s, step :: rest =>
    let (result, s) := s.perform step
    match result, failFast with
    | .error e, true => ⟨[], some (s!"step {index} rejected: " ++ e.message), s⟩
    | result, _ =>
      let report := replayFrom failFast (index + 1) s rest
      { report with lines := line index s.clock.now result :: report.lines }

/-- Perform a script. -/
def replay (failFast : Bool) (s : Scenario) : Except BondError Report :=
  match Bond.create s.config with
  | .ok bond => .ok (replayFrom failFast 0 ⟨bond, ⟨s.startTime⟩⟩ s.steps)
  | .error e => .error e

/-- Perform the script that a text holds; an error is its message. -/
def replayText (failFast : Bool) (text : String) : Except String Report :=
  let script : Option Scenario := decodeText? text
  match script with
  | none => .error "Invalid scenario JSON"
  | some s =>
    match s.replay failFast with
    | .ok report => .ok report
    | .error e => .error e.message

end Scenario

/-- The digest of the configuration that a text holds; an error is its message. -/
def hashConfig (text : String) : Except String String :=
  let config : Option Config := decodeText? text
  match config with
  | none => .error "Invalid config JSON"
  | some config =>
    match config.check with
    | .ok () => .ok config.hash
    | .error e => .error (BondError.invalidConfig e).message

end CouponBond
