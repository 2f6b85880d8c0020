/-!
# Coupled computations

Two computations that, run from related states, answer the same or are refused with the same
error, and leave related states.

## Main Definitions

* `Coupled` — the statement

## Main Results

* `Coupled.bind`, `Coupled.bind_get` — the rules for sequences
* `Coupled.ite`, `Coupled.refuseIf`, `Coupled.refuseUnless` — the rules for conditions
-/

namespace CouponBond

variable {ε σ α β : Type}

/-- Results that show the same and leave related states. -/
def SameResult (R : σ → σ → Prop) : EStateM.Result ε σ α → EStateM.Result ε σ α → Prop
  | .ok a s, .ok a' s' => a' = a ∧ R s s'
  | .error e s, .error e' s' => e' = e ∧ R s s'
  | _, _ => False

/-- Run from related states, two computations show the same and leave related states. -/
def Coupled (R : σ → σ → Prop) (m n : EStateM ε σ α) : Prop :=
  ∀ s s', R s s' → SameResult R (m s) (n s')

namespace Coupled

variable {R : σ → σ → Prop} {m n : EStateM ε σ α} {f g : α → EStateM ε σ β}

theorem of_eq (h : n = m) (hm : Coupled R m m) : Coupled R m n := by
  rw [h]
  exact hm

/-- An answer of the one is the answer of the other. -/
theorem of_ok (h : Coupled R m n) {s s' t : σ} (hs : R s s') {a : α} (hm : m s = .ok a t) :
    ∃ t', n s' = .ok a t' ∧ R t t' := by
  have hsame := h s s' hs
  rw [hm] at hsame
  cases hn : n s' with
  | ok a' t' =>
    rw [hn] at hsame
    obtain ⟨rfl, ht⟩ := hsame
    exact ⟨t', rfl, ht⟩
  | error e' t' =>
    rw [hn] at hsame
    exact hsame.elim

/-- A refusal of the one is the refusal of the other. -/
theorem of_error (h : Coupled R m n) {s s' t : σ} (hs : R s s') {e : ε} (hm : m s = .error e t) :
    ∃ t', n s' = .error e t' ∧ R t t' := by
  have hsame := h s s' hs
  rw [hm] at hsame
  cases hn : n s' with
  | ok a' t' =>
    rw [hn] at hsame
    exact hsame.elim
  | error e' t' =>
    rw [hn] at hsame
    obtain ⟨rfl, ht⟩ := hsame
    exact ⟨t', rfl, ht⟩

theorem pure (a : α) : Coupled R (Pure.pure a : EStateM ε σ α) (Pure.pure a) :=
  fun _ _ h => ⟨rfl, h⟩

theorem throw (e : ε) : Coupled R (MonadExcept.throw e : EStateM ε σ α) (MonadExcept.throw e) :=
  fun _ _ h => ⟨rfl, h⟩

theorem bind (hm : Coupled R m n) (hf : ∀ a, Coupled R (f a) (g a)) :
    Coupled R (m >>= f) (n >>= g) := by
  intro s s' hs
  show SameResult R (EStateM.bind m f s) (EStateM.bind n g s')
  unfold EStateM.bind
  cases hms : m s with
  | ok a t =>
    obtain ⟨t', hns, ht⟩ := hm.of_ok hs hms
    rw [hns]
    exact hf a t t' ht
  | error e t =>
    obtain ⟨t', hns, ht⟩ := hm.of_error hs hms
    rw [hns]
    exact ⟨rfl, ht⟩

/-- What follows a look at the state may use what it saw. -/
theorem bind_get {f g : σ → EStateM ε σ β} (h : ∀ s s', R s s' → Coupled R (f s) (g s')) :
    Coupled R (get >>= f) (get >>= g) :=
  fun s s' hs => h s s' hs s s' hs

theorem modify {p q : σ → σ} (h : ∀ s s', R s s' → R (p s) (q s')) :
    Coupled R (modify p : EStateM ε σ PUnit) (modify q) :=
  fun s s' hs => ⟨rfl, h s s' hs⟩

theorem set {s s' : σ} (h : R s s') : Coupled R (set s : EStateM ε σ PUnit) (set s') :=
  fun _ _ _ => ⟨rfl, h⟩

theorem ite {c : Prop} [Decidable c] {m' n' : EStateM ε σ α} (hpos : c → Coupled R m n)
    (hneg : ¬ c → Coupled R m' n') :
    Coupled R (if c then m else m') (if c then n else n') := by
  by_cases h : c
  · rw [if_pos h, if_pos h]
    exact hpos h
  · rw [if_neg h, if_neg h]
    exact hneg h

/-- A condition that is refused before anything else. -/
theorem refuseIf {c : Prop} [Decidable c] {e : ε} {k k' : PUnit → EStateM ε σ β}
    (h : Coupled R (k ()) (k' ())) :
    Coupled R (if c then MonadExcept.throw e >>= k else k ())
      (if c then MonadExcept.throw e >>= k' else k' ()) :=
  ite (fun _ _ _ hs => ⟨rfl, hs⟩) fun _ => h

/-- A condition without which everything else is refused. -/
theorem refuseUnless {c : Prop} [Decidable c] {e : ε} {k k' : PUnit → EStateM ε σ β}
    (h : Coupled R (k ()) (k' ())) :
    Coupled R (if c then k () else MonadExcept.throw e >>= k)
      (if c then k' () else MonadExcept.throw e >>= k') :=
  ite (fun _ => h) fun _ _ _ hs => ⟨rfl, hs⟩

end Coupled

end CouponBond
