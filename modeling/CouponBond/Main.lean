import CouponBond.Scenario

/-!
# Command line

* `run SCENARIO [--fail-fast] [--checkpoint-out FILE]` replays a scenario and prints one
  JSON line a step
* `hash-config CONFIG` prints the digest of a configuration

A failure is printed to the error stream behind `Error: `, with exit code 1; arguments that
ask for nothing end with exit code 2.

## Main Definitions

* `CommandLine.Request.parse?` — what the arguments ask for
* `main` — carry it out

## Design Notes

The file of the final state may also be named by the environment variable
`BOND_CHECKPOINT_OUT`; the argument wins.  Nothing is logged, so asking for a verbose log
changes nothing.
-/

namespace CouponBond.CommandLine

/-- The options of a replay. -/
structure RunOptions where
  scenario : String
  failFast : Bool
  /-- The file to which the final state is written. -/
  checkpointOut : Option String
deriving DecidableEq, Repr

/-- What a command line asks for. -/
inductive Request where
  | run (options : RunOptions)
  | hashConfig (path : String)
deriving DecidableEq, Repr

/-- The arguments without the switch for a verbose log. -/
def quiet (args : List String) : List String :=
  args.filter fun a => a != "--verbose" && a != "-v"

/-- Read the arguments of a replay whose scenario is still to come or already named. -/
def runOptions? (scenario : Option String) (failFast : Bool) (checkpointOut : Option String) :
    List String → Option RunOptions
  | [] => scenario.map fun path => ⟨path, failFast, checkpointOut⟩
  | "--fail-fast" :: rest => runOptions? scenario true checkpointOut rest
  | "--checkpoint-out" :: path :: rest => runOptions? scenario failFast (some path) rest
  | arg :: rest =>
    if arg.startsWith "-" || scenario.isSome then none
    else runOptions? (some arg) failFast checkpointOut rest

/-- Read the arguments of the program. -/
def Request.parse? (args : List String) : Option Request :=
  match quiet args with
  | "run" :: rest => (runOptions? none false none rest).map .run
  | ["hash-config", path] => if path.startsWith "-" then none else some (.hashConfig path)
  | _ => none

/-- Print a failure. -/
def fail (message : String) : IO UInt32 := do
  IO.eprintln ("Error: " ++ message)
  return 1

/-- The text of a file, if it can be read. -/
def readText (path : String) : IO (Option String) := do
  try
    return some (← IO.FS.readFile path)
  catch _ =>
    return none

/-- Write the final state to a file. -/
def writeState (path text : String) : IO UInt32 := do
  try
    IO.FS.writeFile path text
    return 0
  catch _ =>
    fail ("Failed to write checkpoint " ++ path)

/-- Replay a scenario file. -/
def runScenario (o : RunOptions) : IO UInt32 := do
  match ← readText o.scenario with
  | none => fail ("Failed to read scenario " ++ o.scenario)
  | some text =>
    match Scenario.replayText o.failFast text with
    | .error message => fail message
    | .ok report =>
      for line in report.lines do
        IO.println line.canonical.print
      match report.failure, o.checkpointOut.or (← IO.getEnv "BOND_CHECKPOINT_OUT") with
      | some message, _ => fail message
      | none, some path =>
        writeState path (report.session.bond.save report.session.clock.now)
      | none, none => return 0

/-- Print the digest of a configuration file. -/
def printHash (path : String) : IO UInt32 := do
  match ← readText path with
  | none => fail ("Failed to read config " ++ path)
  | some text =>
    match hashConfig text with
    | .ok digest =>
      IO.println digest
      return 0
    | .error message => fail message

/-- Say which arguments there are. -/
def usage : IO UInt32 := do
  IO.eprintln
    "usage: run SCENARIO [--fail-fast] [--checkpoint-out FILE] | hash-config CONFIG"
  return 2

end CouponBond.CommandLine

open CouponBond.CommandLine in
/-- Carry out what the arguments ask for. -/
def main (args : List String) : IO UInt32 :=
  match Request.parse? args with
  | some (.run options) => runScenario options
  | some (.hashConfig path) => printHash path
  | none => usage
