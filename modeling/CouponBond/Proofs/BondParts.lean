import CouponBond.Bond.Command
import CouponBond.Proofs.LedgerMutations

/-!
# The parts of a change of a bond

What the checks at the door of a command, the ledger and the path through guards, captures and
events contribute to a statement `AllOrNothing` about a command.

## Main Definitions

* `Bond.closed` — the state in which a command ends, given the change it made

## Main Results

* `Bond.allOrNothing_run` — a command on the path of all changes
* `Bond.allOrNothing_onLedger` — a mutation of the ledger within a change
-/

namespace CouponBond

namespace Bond

open AllOrNothing

/-- The state in which a command ends: the captures of the state before it are kept in the
state that the change made, and the events of both are added. -/
def closed (before : Bond) (now : Timestamp) (changed : Bond) (facts : List Fact) : Bond :=
  let kept := changed.snapshots.commit changed.actions
    (before.snapshots.captureDue now before.actions before.ledger)
  { changed with
    snapshots := kept.2.1
    actions := kept.2.2
    events := changed.events ++ (kept.1.map noticeFact).map (fun f => ⟨now, f⟩) ++
      facts.map fun f => ⟨now, f⟩ }

variable {α β : Type} {desk : Desk} {b : Bond} {E : BondError → Prop}

/-! ### Checks -/

theorem allOrNothing_requireHolder {f : Unit → BondChange β} {account : Address}
    {Q : β → Bond → Prop} (he : account.isZero = true → E .zeroAddressNotAllowed)
    (hf : account.isZero = false → AllOrNothing (f ()) b E Q) :
    AllOrNothing (requireHolder account >>= f) b E Q := by
  unfold requireHolder
  cases h : account.isZero with
  | true => exact ⟨rfl, he h⟩
  | false => exact hf h

theorem allOrNothing_requirePartition {f : Unit → BondChange β} {partition : Partition}
    {Q : β → Bond → Prop} (he : E (.partitionNotAllowed partition))
    (hf : b.terms.isMultiPartition = true ∨ partition.isDefault = true →
      AllOrNothing (f ()) b E Q) :
    AllOrNothing (requirePartition partition >>= f) b E Q := by
  have hread : AllOrNothing (requirePartition partition) b E fun _ b' =>
      b' = b ∧ (b.terms.isMultiPartition = true ∨ partition.isDefault = true) := by
    unfold requirePartition
    refine bind_get ?_
    split
    · exact ⟨rfl, he⟩
    · next h =>
      refine AllOrNothing.pure ⟨rfl, ?_⟩
      simpa [Classical.or_iff_not_imp_left] using h
  exact bind_read hread fun _ h => hf h

theorem allOrNothing_requireMatured {f : Unit → BondChange β} {now : Timestamp}
    {Q : β → Bond → Prop} (he : E (.maturityDateWrong b.terms.maturityDate now))
    (hf : b.terms.isMatured now = true → AllOrNothing (f ()) b E Q) :
    AllOrNothing (requireMatured now >>= f) b E Q := by
  have hread : AllOrNothing (requireMatured now) b E fun _ b' =>
      b' = b ∧ b.terms.isMatured now = true := by
    unfold requireMatured
    refine bind_get ?_
    dsimp only
    split
    · exact ⟨rfl, he⟩
    · next h => exact AllOrNothing.pure ⟨rfl, by simpa using h⟩
  exact bind_read hread fun _ h => hf h

theorem allOrNothing_demand {f : α → BondChange β} {check : Except BondError α}
    {Q : β → Bond → Prop} (he : ∀ e, check = .error e → E e)
    (hf : ∀ a, check = .ok a → AllOrNothing (f a) b E Q) :
    AllOrNothing (demand check >>= f) b E Q := by
  unfold demand
  cases h : check with
  | ok a => exact hf a h
  | error e => exact ⟨rfl, he e h⟩

/-! ### The ledger -/

theorem onLedger_ok {m : Ledger.Mutation α} {a : α} {l' : Ledger}
    (h : m b.ledger = .ok a l') : onLedger m b = .ok a { b with ledger := l' } := by
  unfold onLedger
  rw [h]

theorem onLedger_error {m : Ledger.Mutation α} {e : LedgerError} {l' : Ledger}
    (h : m b.ledger = .error e l') : onLedger m b = .error (.ledger e) { b with ledger := l' } := by
  unfold onLedger
  rw [h]

theorem allOrNothing_onLedger {m : Ledger.Mutation α} {F : LedgerError → Prop}
    {Q : α → Ledger → Prop} (hm : AllOrNothing m b.ledger F Q) (he : ∀ e, F e → E (.ledger e)) :
    AllOrNothing (onLedger m) b E fun a b' => ∃ l',
      m b.ledger = .ok a l' ∧ b' = { b with ledger := l' } := by
  cases h : m b.ledger with
  | ok a l' => exact .ok (onLedger_ok h) ⟨l', rfl, rfl⟩
  | error e l' =>
    obtain ⟨rfl, hF⟩ := hm.of_error h
    exact .refuse (onLedger_error h) (he e hF)

/-- A lookup of a record. -/
theorem allOrNothing_lookup {f : α → BondChange β} {refusal : LedgerError} {o : Option α}
    {Q : β → Bond → Prop} (he : E (.ledger refusal))
    (hf : ∀ a, o = some a → AllOrNothing (f a) b E Q) :
    AllOrNothing (onLedger (Ledger.orRefuse refusal o) >>= f) b E Q := by
  cases h : o with
  | some a => exact hf a h
  | none => exact ⟨rfl, he⟩

/-- A record that the bond does not have is not found. -/
theorem record_of_none {refusal : LedgerError} {pick : Bond → Option α} (h : pick b = none) :
    (do onLedger (Ledger.orRefuse refusal (pick (← get))) : BondChange α) b =
      .error (.ledger refusal) b :=
  (bind_ok rfl).trans (onLedger_error (by rw [h]; rfl))

/-- A lookup of a record of the bond as it stands. -/
theorem allOrNothing_record {f : α → BondChange β} {refusal : LedgerError}
    {pick : Bond → Option α} {Q : β → Bond → Prop} (he : E (.ledger refusal))
    (hf : ∀ a, pick b = some a → AllOrNothing (f a) b E Q) :
    AllOrNothing ((do onLedger (Ledger.orRefuse refusal (pick (← get)))) >>= f) b E Q := by
  cases h : pick b with
  | some a =>
    have hfound : (do onLedger (Ledger.orRefuse refusal (pick (← get))) : BondChange α) b =
        .ok a b := (bind_ok rfl).trans (onLedger_ok (by rw [h]; rfl))
    unfold AllOrNothing
    rw [bind_ok hfound]
    exact hf a h
  | none => exact .refuse (bind_error (record_of_none h)) he

/-! ### The path of all changes -/

theorem allOrNothing_run {ctx : CommandContext} {apply : BondChange (Applied α)}
    {Q : Applied α → Bond → Prop} (hguarded : ∀ e, E (.guarded e))
    (happly : desk.guards.check ctx = .ok () → AllOrNothing apply b E Q) :
    AllOrNothing (run desk ctx apply) b E fun a b' => ∃ facts changed,
      Q (a, facts) changed ∧ b' = b.closed desk.now changed facts := by
  unfold run
  split
  · next hok =>
    refine bind_get ?_
    refine bind_last (happly hok) fun answer changed hq => ?_
    exact ⟨answer.1, b.closed desk.now changed answer.2, rfl, answer.2, changed, hq, rfl⟩
  · next e he => exact ⟨rfl, hguarded e⟩

/-- An answer that is put into other words. -/
theorem allOrNothing_map {m : BondChange α} {g : α → β} {Q : α → Bond → Prop}
    {R : β → Bond → Prop} (hm : AllOrNothing m b E Q) (hR : ∀ a b', Q a b' → R (g a) b') :
    AllOrNothing (m >>= fun a => pure (g a)) b E R :=
  bind_last hm fun a b' hq => ⟨g a, b', rfl, hR a b' hq⟩

end Bond

end CouponBond
