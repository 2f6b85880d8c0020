import CouponBond.Proofs.RecordDates
import CouponBond.Proofs.WordArithmetic

/-!
# The arithmetic of entitlements

An entitlement is computed in 256 bits, one product after the other.  Its numerator is a product
of at most four figures of 64 bits, so it always fits, and so does whatever is multiplied on the
way.  Only the denominator can be too large: the power of ten of the decimal places, or its
product with the seconds of a year.  So an entitlement is the exact fraction if its denominator
fits, and overflows otherwise.

## Main Definitions

* `AnswersExactly` — a fraction that is answered exactly if its denominator fits
* `Accrual.countedBalance` — the balance that counts for an action whose record date has come

## Main Results

* `Coupon.amountFrom_exactly`, `Accrual.couponAmountFor_exactly` — the amount of a coupon
* `Accrual.principalFor_exactly` — the face value of what is owned
* `Coupon.scaledYear_lt_iff`, `Accrual.scale_lt_iff` — how many decimal places fit
-/

namespace CouponBond

/-- A fraction is answered if its denominator fits in 256 bits, and it is exact then; it overflows
if the denominator does not fit. -/
structure AnswersExactly {α : Type} (answer : Except AccrualError α) (wrap : Rational → α)
    (numerator denominator : Nat) : Prop where
  answered : denominator < 2 ^ 256 → ∃ r : Rational, answer = .ok (wrap r) ∧
    r.numerator.toNat = numerator ∧ r.denominator.toNat = denominator
  overflows : 2 ^ 256 ≤ denominator → answer = .error .arithmeticOverflow

theorem AnswersExactly.eq_error_iff {α : Type} {answer : Except AccrualError α}
    {wrap : Rational → α} {numerator denominator : Nat}
    (h : AnswersExactly answer wrap numerator denominator) :
    answer = .error .arithmeticOverflow ↔ 2 ^ 256 ≤ denominator := by
  refine ⟨fun herror => Nat.le_of_not_lt fun hfits => ?_, h.overflows⟩
  obtain ⟨r, hanswer, -⟩ := h.answered hfits
  rw [herror] at hanswer
  cases hanswer

/-! ### Powers of ten -/

namespace Accrual

section Steps

-- Stated for any computation, so that no power or product of 256 bits is evaluated in their use.
variable {ε α β : Type} {x : Except ε α}

/-- What follows a step that is computed. -/
theorem bind_of_eq_ok {a : α} (h : x = .ok a) (next : α → Except ε β) :
    (x >>= next) = next a := by
  rw [h]
  rfl

/-- Nothing follows a step that is not computed. -/
theorem bind_of_eq_error {e : ε} (h : x = .error e) (next : α → Except ε β) :
    (x >>= next) = .error e := by
  rw [h]
  rfl

/-- A computation of two steps is refused in the first or in the second. -/
theorem bind_eq_error_iff {next : α → Except ε β} {e : ε} :
    (x >>= next) = .error e ↔ x = .error e ∨ ∃ a, x = .ok a ∧ next a = .error e := by
  cases x with
  | error e' =>
    rw [bind_of_eq_error rfl]
    simp
  | ok a =>
    rw [bind_of_eq_ok rfl]
    simp

end Steps

/-- A power of ten that fits is computed. -/
theorem exists_scale {places : Nat} (h : 10 ^ places < 2 ^ 256) :
    ∃ power, scale places = .ok power ∧ power.toNat = 10 ^ places := by
  have hten : (10 : Word256).toNat = 10 := rfl
  rw [← hten] at h
  obtain ⟨power, hpower, hvalue⟩ := Word256.exists_pow? (by decide) h
  exact ⟨power, congrArg fitting hpower, hvalue.trans (by rw [hten])⟩

/-- A power of ten that does not fit overflows. -/
theorem scale_eq_error {places : Nat} (h : 2 ^ 256 ≤ 10 ^ places) :
    scale places = .error .arithmeticOverflow := by
  have hten : (10 : Word256).toNat = 10 := rfl
  rw [← hten] at h
  exact congrArg fitting (Word256.pow?_eq_none h)

/-- Powers of ten fit up to 77 places. -/
theorem scale_lt_iff {places : Nat} : 10 ^ places < 2 ^ 256 ↔ places ≤ 77 := by
  constructor
  · intro hfits
    refine Nat.le_of_not_lt fun hmore => ?_
    have hout : 10 ^ 78 ≤ 10 ^ places := Nat.pow_le_pow_right (by decide) hmore
    exact absurd (Nat.lt_of_le_of_lt hout hfits) (by decide)
  · intro hle
    exact Nat.lt_of_le_of_lt (Nat.pow_le_pow_right (by decide) hle) (by decide)

end Accrual

/-! ### Amounts of coupons -/

namespace Coupon

/-- With the seconds of a year, powers of ten fit up to 69 places. -/
theorem scaledYear_lt_iff {places : Nat} :
    10 ^ places * Clock.year.toNat < 2 ^ 256 ↔ places ≤ 69 := by
  constructor
  · intro hfits
    refine Nat.le_of_not_lt fun hmore => ?_
    have hout : 10 ^ 70 * Clock.year.toNat ≤ 10 ^ places * Clock.year.toNat :=
      Nat.mul_le_mul_right _ (Nat.pow_le_pow_right (by decide) hmore)
    exact absurd (Nat.lt_of_le_of_lt hout hfits) (by decide)
  · intro hle
    exact Nat.lt_of_le_of_lt
      (Nat.mul_le_mul_right _ (Nat.pow_le_pow_right (by decide) hle)) (by decide)

/-- What the amount of a coupon is divided by, computed step by step. -/
theorem exists_scaledYear {places : Nat} (h : 10 ^ places * Clock.year.toNat < 2 ^ 256) :
    ∃ power denominator, Accrual.scale places = .ok power ∧
      Accrual.fitting (Word256.mul? power (.ofUInt64 Clock.year)) = .ok denominator ∧
      denominator.toNat = 10 ^ places * Clock.year.toNat := by
  have hyear : 0 < Clock.year.toNat := by decide
  obtain ⟨power, hscale, hvalue⟩ :=
    Accrual.exists_scale (Nat.lt_of_le_of_lt (Nat.le_mul_of_pos_right _ hyear) h)
  have hfits : power.toNat * (Word256.ofUInt64 Clock.year).toNat < 2 ^ 256 := by
    rw [hvalue, Word256.toNat_ofUInt64]
    exact h
  obtain ⟨denominator, hdenominator, hproduct⟩ := Word256.exists_ofNat? hfits
  refine ⟨power, denominator, hscale, ?_, ?_⟩
  · rw [Word256.mul?, hdenominator, Accrual.fitting]
  · rw [hproduct, hvalue, Word256.toNat_ofUInt64]

/-- It overflows in one step or the other. -/
theorem scaledYear_eq_error {places : Nat} (h : 2 ^ 256 ≤ 10 ^ places * Clock.year.toNat) :
    (do
      let power ← Accrual.scale places
      Accrual.fitting (Word256.mul? power (.ofUInt64 Clock.year))) =
        .error .arithmeticOverflow := by
  rcases Nat.lt_or_ge (10 ^ places) (2 ^ 256) with hfits | hout
  · -- the power fits, and its product with the seconds of a year does not
    obtain ⟨power, hpower, hvalue⟩ := Accrual.exists_scale hfits
    have hproduct : 2 ^ 256 ≤ power.toNat * (Word256.ofUInt64 Clock.year).toNat := by
      rw [hvalue, Word256.toNat_ofUInt64]
      exact h
    rw [Accrual.bind_of_eq_ok hpower, Word256.mul?_eq_none hproduct, Accrual.fitting]
  · exact Accrual.bind_of_eq_error (Accrual.scale_eq_error hout) _

/-- What is owed for a balance, in natural numbers. -/
def owed (c : Coupon) (terms : Terms) (balance : Amount) : Nat :=
  balance.toNat * terms.nominalValue.toNat * c.rate.toNat * (c.endDate.toNat - c.startDate.toNat)

/-- The numerator of an amount always fits. -/
theorem exists_numerator (c : Coupon) (terms : Terms) (balance : Amount) :
    ∃ numerator, Word256.product? [.ofUInt64 balance, .ofUInt64 terms.nominalValue,
        .ofUInt64 c.rate, .ofUInt64 c.period] = some numerator ∧
      numerator.toNat = c.owed terms balance := by
  obtain ⟨numerator, hnumerator, hproduct⟩ := Word256.exists_product?
    [balance, terms.nominalValue, c.rate, c.period] (Nat.le_refl 4)
  refine ⟨numerator, hnumerator, ?_⟩
  rw [hproduct, owed, ← Unsigned.toNat_subFloored]
  simp [period, Nat.mul_assoc]

/-- The amount of a coupon is exact if it is answered, and it is answered if its denominator
fits. -/
theorem amountFrom_exactly (c : Coupon) (terms : Terms) (balance : Amount) :
    AnswersExactly (c.amountFrom terms balance) (fun r => ⟨r, true⟩) (c.owed terms balance)
      (10 ^ (terms.tokenDecimals.toNat + terms.nominalValueDecimals.toNat +
        c.rateDecimals.toNat) * Clock.year.toNat) := by
  obtain ⟨numerator, hnumerator, howed⟩ := c.exists_numerator terms balance
  unfold amountFrom
  rw [hnumerator, Accrual.bind_of_eq_ok (rfl : Accrual.fitting (some numerator) = .ok numerator)]
  refine ⟨fun hfits => ?_, fun hout => ?_⟩
  · obtain ⟨power, denominator, hpower, hdenominator, hvalue⟩ := exists_scaledYear hfits
    refine ⟨⟨numerator, denominator⟩, ?_, howed, hvalue⟩
    rw [Accrual.bind_of_eq_ok hpower, Accrual.bind_of_eq_ok hdenominator]
    rfl
  · rw [← bind_assoc]
    exact Accrual.bind_of_eq_error (scaledYear_eq_error hout) _

end Coupon

namespace Accrual

variable {v : Accrual} {id : ActionId} {a : Action} {c : Coupon}

/-- The balance of a holder that counts for an action whose record date has come: that of its
snapshot, or the live one while there is none. -/
def countedBalance (v : Accrual) (a : Action) (holder : Address) : Amount :=
  match v.snapshots.get? a.snapshotId with
  | some snapshot => snapshot.holdings.balanceOf holder
  | none => v.ledger.holdingOf holder

theorem couponFor_of_le (hget : v.actions.get? id = .ok a) (hkind : a.kind = .coupon c)
    (hdate : c.recordDate ≤ v.now) (holder : Address) :
    v.couponFor id holder = .ok ⟨v.countedBalance a holder, true, c⟩ := by
  have hcoupon : v.coupon id = .ok (c, v.snapshots.get? a.snapshotId) := by
    unfold coupon
    rw [hget]
    dsimp only
    rw [hkind]
  unfold couponFor countedBalance
  rw [hcoupon]
  show (if v.now < c.recordDate then _ else _) = _
  rw [if_neg (UInt64.not_lt.mpr hdate)]
  cases v.snapshots.get? a.snapshotId <;> rfl

/-- The amount of a coupon whose record date has come. -/
theorem couponAmountFor_exactly (hget : v.actions.get? id = .ok a) (hkind : a.kind = .coupon c)
    (hdate : c.recordDate ≤ v.now) (holder : Address) :
    AnswersExactly (v.couponAmountFor id holder) (fun r => ⟨r, true⟩)
      (c.owed v.terms (v.countedBalance a holder))
      (10 ^ (v.terms.tokenDecimals.toNat + v.terms.nominalValueDecimals.toNat +
        c.rateDecimals.toNat) * Clock.year.toNat) := by
  have hamount : v.couponAmountFor id holder =
      c.amountFrom v.terms (v.countedBalance a holder) := by
    unfold couponAmountFor
    rw [couponFor_of_le hget hkind hdate]
    rfl
  rw [hamount]
  exact c.amountFrom_exactly v.terms _

/-- The face value of what is owned. -/
theorem principalFor_exactly (v : Accrual) (holder : Address) :
    AnswersExactly (v.principalFor holder) (fun r => r)
      ((v.ledger.holdingOf holder).toNat * v.terms.nominalValue.toNat)
      (10 ^ (v.terms.tokenDecimals.toNat + v.terms.nominalValueDecimals.toNat)) := by
  obtain ⟨numerator, hnumerator, hproduct⟩ := Word256.exists_product?
    [v.ledger.holdingOf holder, v.terms.nominalValue] (by simp)
  have hfitting : fitting (Word256.product? [.ofUInt64 (v.ledger.holdingOf holder),
      .ofUInt64 v.terms.nominalValue]) = .ok numerator := congrArg fitting hnumerator
  unfold principalFor
  rw [bind_of_eq_ok hfitting]
  refine ⟨fun hfits => ?_, fun hout => bind_of_eq_error (scale_eq_error hout) _⟩
  obtain ⟨denominator, hdenominator, hscale⟩ := exists_scale hfits
  refine ⟨⟨numerator, denominator⟩, ?_, ?_, hscale⟩
  · rw [bind_of_eq_ok hdenominator]
    rfl
  · show numerator.toNat = _
    rw [hproduct]
    simp

end Accrual

/-- A bond refuses with an overflow exactly where its entitlement overflows. -/
theorem BondError.mapError_eq_overflow_iff {α : Type} {answer : Except AccrualError α} :
    answer.mapError ofAccrual = .error .arithmeticOverflow ↔
      answer = .error .arithmeticOverflow := by
  cases answer with
  | ok a => exact ⟨nofun, nofun⟩
  | error e => cases e <;> simp [Except.mapError, ofAccrual]

theorem Bond.principalFor_eq (b : Bond) (now : Timestamp) (holder : Address) :
    b.principalFor now holder = ((b.accrual now).principalFor holder).mapError .ofAccrual := by
  unfold principalFor
  cases (b.accrual now).principalFor holder <;> rfl

end CouponBond
