import CouponBond.Proofs.BondCommands
import CouponBond.Proofs.CheckpointAudit

/-!
# Reachable bonds, and commands that are refused

Every bond that can be opened or restored, and that commands lead to, has a consistent ledger.
So the commands of a reachable bond apply completely or not at all.

## Main Definitions

* `ActionStore.Placed` — the actions are numbered by their places
* `Bond.after` — the bond that a command leaves, applied or refused
* `Bond.Reachable` — the bonds that commands reach from an opened or restored one

## Main Results

* `Bond.after_eq_or_performed` — what a command leaves
* `Bond.Reachable.consistent` — a reachable bond has a consistent ledger
* `Bond.refused_leaves_bond` — a refused command leaves the bond exactly as it was

## Design Notes

The checks of a restored state do not ask for the numbers of its actions.  The text of a bond's
own state has them at their places; another text may not, and the captures for its actions have
no action to be linked to.  Such a bond is not among the reachable ones.
-/

namespace CouponBond

/-- The actions are numbered by their places. -/
structure ActionStore.Placed (s : ActionStore) : Prop where
  toNat_id : ∀ (place : Nat) (a : Action), s.actions[place]? = some a → a.id.toNat = place + 1

namespace Bond

/-- The bond that a command leaves, applied or refused. -/
def after (desk : Desk) (command : Command) (b : Bond) : Bond :=
  match execute desk command b with
  | .ok _ b' => b'
  | .error _ b' => b'

theorem after_of_ok {desk : Desk} {command : Command} {b b' : Bond} {outcome : Outcome}
    (h : execute desk command b = .ok outcome b') : after desk command b = b' := by
  unfold after
  rw [h]

theorem after_of_error {desk : Desk} {command : Command} {b b' : Bond} {e : BondError}
    (h : execute desk command b = .error e b') : after desk command b = b' := by
  unfold after
  rw [h]

/-- The bonds that commands of any desks reach from one that was opened, or restored with its
actions numbered by their places. -/
inductive Reachable : Bond → Prop where
  | created {config : Config} {b : Bond} : create config = .ok b → Reachable b
  | loaded {config : Config} {text : String} {b : Bond} :
      load config text = .ok b → b.actions.Placed → Reachable b
  | after {b : Bond} (desk : Desk) (command : Command) :
      Reachable b → Reachable (b.after desk command)

/-- A bond is opened when its configuration passes the check. -/
theorem create_eq_ok_iff {config : Config} {b : Bond} :
    create config = .ok b ↔ config.check = .ok () ∧ b = opened config := by
  unfold create
  cases config.check with
  | ok _ =>
    constructor
    · intro h
      cases h
      exact ⟨rfl, rfl⟩
    · rintro ⟨-, rfl⟩
      rfl
  | error e =>
    constructor
    · intro h
      cases h
    · rintro ⟨h, -⟩
      cases h

/-- A bond is restored when its configuration passes the check, and the text is that of a state
that a bond can be in and that was saved under the configuration. -/
theorem load_eq_ok_iff {config : Config} {text : String} {b : Bond} :
    load config text = .ok b ↔ config.check = .ok () ∧ ∃ saved, decodeText? text = some saved ∧
      saved.configHash = config.hash ∧ saved.check = .ok () ∧ b = ofCheckpoint config saved := by
  unfold load restore
  constructor
  · intro h
    split at h
    · cases h
    · next hconfig =>
      split at h
      · cases h
      · next saved hsaved =>
        split at h
        · cases h
        · next hhash =>
          split at h
          · cases h
          · next hcheck =>
            cases h
            exact ⟨hconfig, saved, hsaved, Classical.not_not.mp hhash, hcheck, rfl⟩
  · rintro ⟨hconfig, saved, hsaved, hhash, hcheck, rfl⟩
    simp only [hconfig, hsaved, hhash, hcheck, ne_eq, not_true_eq_false, if_false]

/-- A bond is restored only from a state whose ledger passes the audits. -/
theorem consistent_of_load {config : Config} {text : String} {b : Bond}
    (h : load config text = .ok b) : b.ledger.Consistent := by
  obtain ⟨-, saved, -, -, hcheck, rfl⟩ := load_eq_ok_iff.mp h
  exact (Checkpoint.check_eq_ok_iff.mp hcheck).1

/-- A change keeps the ledger that the captures of due record dates do not touch. -/
theorem ledger_closed (before : Bond) (now : Timestamp) (changed : Bond) (facts : List Fact) :
    (before.closed now changed facts).ledger = changed.ledger := rfl

/-- The events of a change stand behind those of the snapshots that were due. -/
theorem exists_events_closed (before : Bond) (now : Timestamp) (changed : Bond)
    (facts : List Fact) :
    ∃ notices : List SnapshotNotice, (before.closed now changed facts).events =
      changed.events ++ (notices.map noticeFact).map (fun f => ⟨now, f⟩) ++
        facts.map fun f => ⟨now, f⟩ := ⟨_, rfl⟩

/-- A command leaves the bond as it was, or is performed and leaves its change. -/
theorem after_eq_or_performed {b : Bond} (h : b.ledger.Consistent) (desk : Desk)
    (command : Command) : b.after desk command = b ∨ ∃ outcome facts changed,
      Performed desk b command outcome facts changed ∧
        b.after desk command = b.closed desk.now changed facts := by
  have hspec := execute_spec desk h command
  cases hm : execute desk command b with
  | ok outcome b' =>
    obtain ⟨facts, changed, hperformed, rfl⟩ := hspec.of_ok hm
    exact .inr ⟨outcome, facts, changed, hperformed, after_of_ok hm⟩
  | error e b' =>
    rw [after_of_error hm]
    exact .inl (hspec.of_error hm).1

theorem consistent_after {b : Bond} (h : b.ledger.Consistent) (desk : Desk)
    (command : Command) : (b.after desk command).ledger.Consistent := by
  obtain hleft | ⟨outcome, facts, changed, hperformed, hafter⟩ :=
    after_eq_or_performed h desk command
  · rw [hleft]
    exact h
  · rw [hafter, ledger_closed]
    exact hperformed.consistent h

/-- Every reachable bond has a consistent ledger. -/
theorem Reachable.consistent {b : Bond} (h : b.Reachable) : b.ledger.Consistent := by
  induction h with
  | created hcreated =>
    obtain ⟨-, rfl⟩ := create_eq_ok_iff.mp hcreated
    exact Ledger.consistent_empty
  | loaded hloaded _ => exact consistent_of_load hloaded
  | after desk command _ ih => exact consistent_after ih desk command

/-- A command that is refused leaves a reachable bond exactly as it was: terms, ledger, actions,
snapshots, agenda and log.  Full redemption is never refused by the ledger. -/
theorem refused_leaves_bond {b : Bond} (h : b.Reachable) (desk : Desk) (command : Command)
    {e : BondError} {b' : Bond} (hrefused : execute desk command b = .error e b') :
    b' = b ∧ ∀ holder, command = .redeemAllAtMaturity holder → ∀ cause, e ≠ .ledger cause :=
  (execute_spec desk h.consistent command).of_error hrefused

/-- A configuration that passes its check. -/
def sampleConfig : Config where
  bondId := .nil
  currency := "EUR"
  nominalValue := 1000
  nominalValueDecimals := 2
  tokenDecimals := 0
  startingDate := 0
  maturityDate := 1000
  isMultiPartition := false

/-- A desk without guards and operator. -/
def openDesk (now : Timestamp) : Desk := ⟨now, [], none⟩

/-- A bond of which one holder owns ten units. -/
def sampleBond : Bond := (opened sampleConfig).after (openDesk 5) (.issue (.ofLow 7) .default 10)

/-- Of ten units eleven cannot be redeemed, and the attempt changes nothing. -/
theorem refused_redemption_leaves_bond :
    ∃ b', execute (openDesk 6) (.redeem (.ofLow 7) .default 11) sampleBond =
        .error (.ledger (.insufficientBalance (.ofLow 7) .default 11 10)) b' ∧
      b' = sampleBond := by
  have hopened : create sampleConfig = .ok (opened sampleConfig) := rfl
  have hreachable : sampleBond.Reachable := .after _ _ (.created hopened)
  have hrefused : execute (openDesk 6) (.redeem (.ofLow 7) .default 11) sampleBond =
      .error (.ledger (.insufficientBalance (.ofLow 7) .default 11 10)) sampleBond := rfl
  exact ⟨sampleBond, hrefused, (refused_leaves_bond hreachable _ _ hrefused).1⟩

end Bond

end CouponBond
