import CouponBond.Ledger.Mutation

/-!
# Changes that apply completely or not at all

A stateful computation that may be refused hands its state on through a refusal, so a
refusal may leave traces.  The computations of this library leave none, and what a change
does once it is applied is said together with that: one statement per change, put together
from the statements about its parts.

## Main Definitions

* `AllOrNothing` — a refusal leaves the state as it was, an answer satisfies a postcondition

## Main Results

* `AllOrNothing.bind_read` — a part that writes nothing can be followed by anything
* `AllOrNothing.ok` — a part that is known to answer is never refused
-/

namespace CouponBond

variable {ε σ α β : Type}

/-- Run from a state, a computation is either refused with the state as it was and an error
that satisfies `E`, or answers with a value and a state that satisfy `Q`. -/
def AllOrNothing (m : EStateM ε σ α) (s : σ) (E : ε → Prop) (Q : α → σ → Prop) : Prop :=
  match m s with
  | .ok a s' => Q a s'
  | .error e s' => s' = s ∧ E e

namespace AllOrNothing

variable {m : EStateM ε σ α} {f : α → EStateM ε σ β} {s : σ} {E : ε → Prop}

theorem ok {Q : α → σ → Prop} {a : α} {s' : σ} (h : m s = .ok a s') (hq : Q a s') :
    AllOrNothing m s E Q := by
  unfold AllOrNothing
  rw [h]
  exact hq

theorem refuse {Q : α → σ → Prop} {e : ε} (h : m s = .error e s) (he : E e) :
    AllOrNothing m s E Q := by
  unfold AllOrNothing
  rw [h]
  exact ⟨rfl, he⟩

/-- What an answer satisfies. -/
theorem of_ok {Q : α → σ → Prop} {a : α} {s' : σ} (h : AllOrNothing m s E Q)
    (hm : m s = .ok a s') : Q a s' := by
  unfold AllOrNothing at h
  rwa [hm] at h

/-- A refusal leaves the state as it was. -/
theorem of_error {Q : α → σ → Prop} {e : ε} {s' : σ} (h : AllOrNothing m s E Q)
    (hm : m s = .error e s') : s' = s ∧ E e := by
  unfold AllOrNothing at h
  rwa [hm] at h

/-- What no error refuses is answered. -/
theorem exists_ok {Q : α → σ → Prop} (h : AllOrNothing m s E Q) (hnot : ∀ e, ¬ E e) :
    ∃ a s', m s = .ok a s' ∧ Q a s' := by
  cases hm : m s with
  | ok a s' => exact ⟨a, s', rfl, h.of_ok hm⟩
  | error e s' => exact absurd (h.of_error hm).2 (hnot e)

theorem mono {E' : ε → Prop} {Q Q' : α → σ → Prop} (h : AllOrNothing m s E Q)
    (hE : ∀ e, E e → E' e) (hQ : ∀ a s', Q a s' → Q' a s') : AllOrNothing m s E' Q' := by
  unfold AllOrNothing at h ⊢
  split at h
  · exact hQ _ _ h
  · exact ⟨h.1, hE _ h.2⟩

theorem pure {Q : α → σ → Prop} {a : α} (h : Q a s) :
    AllOrNothing (Pure.pure a : EStateM ε σ α) s E Q := h

/-- A part that writes nothing can be followed by anything that starts in the same state. -/
theorem bind_read {P : α → Prop} {Q : β → σ → Prop}
    (hm : AllOrNothing m s E fun a s' => s' = s ∧ P a)
    (hf : ∀ a, P a → AllOrNothing (f a) s E Q) : AllOrNothing (m >>= f) s E Q := by
  unfold AllOrNothing at hm
  show match EStateM.bind m f s with
    | .ok b s' => Q b s'
    | .error e s' => s' = s ∧ E e
  unfold EStateM.bind
  cases hms : m s with
  | ok a s' =>
    rw [hms] at hm
    obtain ⟨rfl, ha⟩ := hm
    exact hf a ha
  | error e s' =>
    rw [hms] at hm
    exact hm

/-- A part that is the last one to be refused can be followed by a part that always answers. -/
theorem bind_last {P : α → σ → Prop} {Q : β → σ → Prop} (hm : AllOrNothing m s E P)
    (hf : ∀ a s', P a s' → ∃ b s'', f a s' = .ok b s'' ∧ Q b s'') :
    AllOrNothing (m >>= f) s E Q := by
  unfold AllOrNothing at hm
  show match EStateM.bind m f s with
    | .ok b s' => Q b s'
    | .error e s' => s' = s ∧ E e
  unfold EStateM.bind
  cases hms : m s with
  | ok a s' =>
    rw [hms] at hm
    obtain ⟨b, s'', hfa, hb⟩ := hf a s' hm
    simp only [hfa]
    exact hb
  | error e s' =>
    rw [hms] at hm
    exact hm

theorem bind_ok {s' : σ} {a : α} (h : m s = .ok a s') : (m >>= f) s = f a s' := by
  show EStateM.bind m f s = _
  unfold EStateM.bind
  rw [h]

theorem bind_error {s' : σ} {e : ε} (h : m s = .error e s') : (m >>= f) s = .error e s' := by
  show EStateM.bind m f s = _
  unfold EStateM.bind
  rw [h]

theorem bind_get {f : σ → EStateM ε σ β} {Q : β → σ → Prop} (h : AllOrNothing (f s) s E Q) :
    AllOrNothing (get >>= f) s E Q := h

/-- A condition that is refused before anything else. -/
theorem bind_refuseIf {c : Prop} [Decidable c] {e : ε} {Q : β → σ → Prop}
    {k : PUnit → EStateM ε σ β} (he : c → E e) (hk : ¬ c → AllOrNothing (k ()) s E Q) :
    AllOrNothing (if c then MonadExcept.throw e >>= k else k ()) s E Q := by
  by_cases h : c
  · rw [if_pos h]
    exact ⟨rfl, he h⟩
  · rw [if_neg h]
    exact hk h

/-- A condition without which everything else is refused. -/
theorem bind_refuseUnless {c : Prop} [Decidable c] {e : ε} {Q : β → σ → Prop}
    {k : PUnit → EStateM ε σ β} (he : ¬ c → E e) (hk : c → AllOrNothing (k ()) s E Q) :
    AllOrNothing (if c then k () else MonadExcept.throw e >>= k) s E Q := by
  by_cases h : c
  · rw [if_pos h]
    exact hk h
  · rw [if_neg h]
    exact ⟨rfl, he h⟩

end AllOrNothing

/-! ### Parts of a mutation of the ledger -/

namespace Ledger

variable {α β : Type} {l : Ledger} {E : LedgerError → Prop} {Q : β → Ledger → Prop}

theorem exactly_ok {o : Option α} {a : α} (h : o = some a) (l : Ledger) :
    exactly o l = .ok a l := by
  rw [h]
  rfl

theorem allOrNothing_orRefuse {f : α → Mutation β} {refusal : LedgerError} {o : Option α}
    (he : o = none → E refusal) (hf : ∀ a, o = some a → AllOrNothing (f a) l E Q) :
    AllOrNothing (orRefuse refusal o >>= f) l E Q := by
  cases ho : o with
  | none => exact ⟨rfl, he ho⟩
  | some a => exact hf a ho

theorem allOrNothing_exactly {f : α → Mutation β} {o : Option α}
    (he : o = none → E .outOfRange) (hf : ∀ a, o = some a → AllOrNothing (f a) l E Q) :
    AllOrNothing (exactly o >>= f) l E Q := allOrNothing_orRefuse he hf

theorem allOrNothing_requirePositive {f : Unit → Mutation β} {amount : Amount}
    (he : amount = 0 → E .zeroAmount) (hf : amount ≠ 0 → AllOrNothing (f ()) l E Q) :
    AllOrNothing (requirePositive amount >>= f) l E Q := by
  unfold requirePositive
  split
  · next h => exact ⟨rfl, he h⟩
  · next h => exact hf h

theorem allOrNothing_requireAvailable {f : Unit → Mutation β} {holder : Address}
    {partition : Partition} {balance : Balance} {amount : Amount}
    (he : balance.available < amount →
      E (.insufficientBalance holder partition amount balance.available))
    (hf : amount ≤ balance.available → AllOrNothing (f ()) l E Q) :
    AllOrNothing (requireAvailable holder partition balance amount >>= f) l E Q := by
  unfold requireAvailable
  split
  · next h => exact ⟨rfl, he h⟩
  · next h => exact hf (UInt64.not_lt.mp h)

end Ledger

end CouponBond
