import CouponBond.Proofs.Refusals
import CouponBond.Proofs.RestoredTerms

/-!
# Entitlements are exact

What a holder is owed is computed exactly, and the computation overflows only where the
denominator of the exact fraction does not fit in 256 bits, whatever the terms and the coupon are.

A bond that was opened has terms of at most 36 decimal places, and every coupon that it accepted
has at most 18 more.  That is far below the 69 places at which a denominator can be too large, so
no question of any history of such a bond is answered with an overflow.  Commands compute no
entitlement, and restoring such a bond succeeds.

## Main Definitions

* `Accrual.OwesExactly` — the amount of a coupon, with each of its figures
* `Accrual.PrincipalExactly` — the face value of what is owned
* `Bond.Computes` — terms and coupons for which nothing overflows

## Main Results

* `Bond.Computes.query_ne_overflow` — no question is answered with an overflow
* `Session.Payable.overflow_not_mem_replies` — neither is any move of a history
* `Session.entitlements_exact` — exact entitlements, and no overflows since a bond was opened
-/

namespace CouponBond

/-! ### Questions that can overflow -/

namespace Accrual

variable {v : Accrual} {id : ActionId} {holder : Address}

theorem coupon_ne_overflow : v.coupon id ≠ .error .arithmeticOverflow := by
  unfold coupon
  split
  · nofun
  · split <;> nofun

theorem couponFor_ne_overflow : v.couponFor id holder ≠ .error .arithmeticOverflow := by
  intro h
  rcases bind_eq_error_iff.mp h with hcoupon | ⟨⟨c, snapshot⟩, -, hrest⟩
  · exact coupon_ne_overflow hcoupon
  · dsimp only at hrest
    split at hrest
    · cases hrest
    · cases snapshot <;> cases hrest

theorem couponHolders_ne_overflow {start stop : Nat} :
    v.couponHolders id start stop ≠ .error .arithmeticOverflow := by
  intro h
  rcases bind_eq_error_iff.mp h with hcoupon | ⟨⟨c, snapshot⟩, -, hrest⟩
  · exact coupon_ne_overflow hcoupon
  · cases snapshot <;> cases hrest

theorem couponHolderCount_ne_overflow :
    v.couponHolderCount id ≠ .error .arithmeticOverflow := by
  intro h
  rcases bind_eq_error_iff.mp h with hcoupon | ⟨⟨c, snapshot⟩, -, hrest⟩
  · exact coupon_ne_overflow hcoupon
  · cases snapshot <;> cases hrest

/-- The coupon of an answer is the one that the action has. -/
theorem kindOf?_of_couponFor {share : CouponFor} (h : v.couponFor id holder = .ok share) :
    v.actions.kindOf? id = some (.coupon share.coupon) := by
  unfold couponFor coupon at h
  unfold ActionStore.kindOf?
  cases hget : v.actions.get? id with
  | error e =>
    rw [hget] at h
    cases h
  | ok a =>
    rw [hget] at h
    dsimp only at h ⊢
    cases hkind : a.kind with
    | dividend d =>
      rw [hkind] at h
      cases h
    | coupon c =>
      rw [hkind] at h
      rw [bind_of_eq_ok rfl] at h
      dsimp only at h
      split at h
      · cases h
        rfl
      · split at h <;> cases h <;> rfl

/-- Only the places of the action's own coupon can make its amount overflow. -/
theorem exists_of_couponAmountFor_eq_overflow
    (h : v.couponAmountFor id holder = .error .arithmeticOverflow) :
    ∃ c, v.actions.kindOf? id = some (.coupon c) ∧
      69 < v.terms.places + c.rateDecimals.toNat := by
  rcases bind_eq_error_iff.mp h with hfor | ⟨share, hfor, hamount⟩
  · exact absurd hfor couponFor_ne_overflow
  · refine ⟨share.coupon, kindOf?_of_couponFor hfor, ?_⟩
    split at hamount
    · cases hamount
    · have hoverflow : share.coupon.amountFrom v.terms share.tokenBalance =
          .error .arithmeticOverflow := hamount
      exact Coupon.amountFrom_eq_error_iff.mp hoverflow

end Accrual

namespace Bond

variable {b : Bond} {couponId : UInt64}

/-- A question about a coupon is answered with an overflow only if its action's is. -/
theorem exists_of_aboutCoupon_eq_overflow {α : Type} {answer : ActionId → Except AccrualError α}
    (h : b.aboutCoupon couponId answer = .error .arithmeticOverflow) :
    ∃ id, answer id = .error .arithmeticOverflow := by
  unfold aboutCoupon at h
  split at h
  · cases h
  · next id _ =>
    cases hanswer : answer id with
    | ok a =>
      rw [hanswer] at h
      cases h
    | error e =>
      rw [hanswer] at h
      cases e with
      | wrongIndex => cases h
      | arithmeticOverflow => exact ⟨id, hanswer⟩

theorem couponOf_ne_overflow : b.couponOf couponId ≠ .error .arithmeticOverflow := by
  unfold couponOf
  split
  · nofun
  · split
    · nofun
    · split <;> nofun

/-- The decimal places of the terms and the coupons leave room for everything that is computed. -/
structure Computes (b : Bond) : Prop where
  places_le : b.terms.places ≤ 77
  rated_le : ∀ id coupon, b.actions.kindOf? id = some (.coupon coupon) →
    b.terms.places + coupon.rateDecimals.toNat ≤ 69

/-- No question is answered with an overflow then. -/
theorem Computes.query_ne_overflow (h : b.Computes) (now : Timestamp) (q : Query) :
    b.query now q ≠ .error .arithmeticOverflow := by
  intro hanswer
  -- questions that are put into words are refused as they are themselves
  have hworded : ∀ {α : Type} {x : Except BondError α} {words : α → Answer},
      (x >>= fun a => pure (words a)) = .error .arithmeticOverflow →
        x = .error .arithmeticOverflow := by
    intro α x words hx
    exact (Accrual.bind_eq_error_iff.mp hx).resolve_right fun ⟨_, _, hpure⟩ => nomatch hpure
  cases q with
  | coupon => exact couponOf_ne_overflow (hworded hanswer)
  | couponFor =>
    obtain ⟨id, hid⟩ := exists_of_aboutCoupon_eq_overflow (hworded hanswer)
    exact Accrual.couponFor_ne_overflow hid
  | couponAmountFor =>
    obtain ⟨id, hid⟩ := exists_of_aboutCoupon_eq_overflow (hworded hanswer)
    obtain ⟨c, hkind, hplaces⟩ := Accrual.exists_of_couponAmountFor_eq_overflow hid
    exact Nat.not_lt.mpr (h.rated_le id c hkind) hplaces
  | couponHolders =>
    obtain ⟨id, hid⟩ := exists_of_aboutCoupon_eq_overflow (hworded hanswer)
    exact Accrual.couponHolders_ne_overflow hid
  | totalCouponHolders =>
    obtain ⟨id, hid⟩ := exists_of_aboutCoupon_eq_overflow (hworded hanswer)
    exact Accrual.couponHolderCount_ne_overflow hid
  | principalFor =>
    exact Nat.not_lt.mpr h.places_le (principalFor_eq_error_iff.mp (hworded hanswer))
  | couponCount => cases hanswer
  | terms => cases hanswer
  | balanceOf => cases hanswer
  | totalBalanceOf => cases hanswer
  | totalSupply => cases hanswer
  | snapshot => cases hanswer

end Bond

/-! ### Histories -/

namespace Session

variable {config : Config} {s : Session}

/-- The bond of a history computes everything that it is asked. -/
theorem Payable.computes (h : s.Payable config) : s.bond.Computes := by
  have hplaces : s.bond.terms.places ≤ 36 := by
    rw [h.sound.terms_eq]
    exact Config.places_le_of_check h.sound.checked
  refine ⟨Nat.le_trans hplaces (by decide), fun id coupon hkind => ?_⟩
  have hrate := h.rateDecimals_le id coupon hkind
  have hmax : maxDecimals.toNat = 18 := rfl
  rw [UInt8.le_iff_toNat_le, hmax] at hrate
  omega

/-- No move shows an overflow. -/
theorem Payable.step_ne_overflow (h : s.Payable config) (move : Move) :
    (s.step move).1 ≠ .refused .arithmeticOverflow := by
  cases move with
  | advance seconds => nofun
  | advanceTo time =>
    unfold Session.step
    dsimp only
    split <;> nofun
  | command guards operator command =>
    unfold Session.step
    dsimp only
    split
    · nofun
    · next e b hrefused =>
      intro hreply
      cases hreply
      nomatch Bond.judged_execute _ command _ _ _ hrefused
  | query q =>
    unfold Session.step
    dsimp only
    split
    · nofun
    · next e hanswer =>
      intro hreply
      cases hreply
      exact h.computes.query_ne_overflow _ q hanswer
  | reload =>
    rw [h.sound.step_reload.1]
    nofun

/-- No history shows an overflow. -/
theorem Payable.overflow_not_mem_replies (h : s.Payable config) (moves : List Move) :
    .refused .arithmeticOverflow ∉ s.replies moves := by
  induction moves generalizing s with
  | nil => exact List.not_mem_nil
  | cons move rest ih =>
    rw [replies, List.mem_cons, not_or]
    exact ⟨(h.step_ne_overflow move).symm, ih (h.step move)⟩

end Session

/-! ### Exact entitlements -/

namespace Accrual

/-- The amount of a coupon is the exact fraction, or overflows if its denominator does not fit in
256 bits; the numerator always fits. -/
structure OwesExactly (v : Accrual) (id : ActionId) (a : Action) (c : Coupon) (holder : Address) :
    Prop where
  /-- The balance that counts is that of the snapshot, or the live one while there is none. -/
  counted : v.couponFor id holder = .ok ⟨v.countedBalance a holder, true, c⟩
  numerator_fits : ∃ numerator, Word256.product? [.ofUInt64 (v.countedBalance a holder),
      .ofUInt64 v.terms.nominalValue, .ofUInt64 c.rate, .ofUInt64 c.period] = some numerator ∧
    numerator.toNat = (v.countedBalance a holder).toNat * v.terms.nominalValue.toNat *
      c.rate.toNat * (c.endDate.toNat - c.startDate.toNat)
  amount : AnswersExactly (v.couponAmountFor id holder) (fun r => ⟨r, true⟩)
    ((v.countedBalance a holder).toNat * v.terms.nominalValue.toNat *
      c.rate.toNat * (c.endDate.toNat - c.startDate.toNat))
    (10 ^ (v.terms.tokenDecimals.toNat + v.terms.nominalValueDecimals.toNat +
      c.rateDecimals.toNat) * 31536000)

/-- The face value of what is owned is the exact fraction, or overflows if its denominator does
not fit. -/
def PrincipalExactly (v : Accrual) (holder : Address) : Prop :=
  AnswersExactly (v.principalFor holder) (fun r => r)
    ((v.ledger.holdingOf holder).toNat * v.terms.nominalValue.toNat)
    (10 ^ (v.terms.tokenDecimals.toNat + v.terms.nominalValueDecimals.toNat))

theorem owesExactly {v : Accrual} {id : ActionId} {a : Action} {c : Coupon}
    (hget : v.actions.get? id = .ok a) (hkind : a.kind = .coupon c)
    (hdate : c.recordDate ≤ v.now) (holder : Address) : v.OwesExactly id a c holder where
  counted := couponFor_of_le hget hkind hdate holder
  numerator_fits := c.exists_numerator v.terms (v.countedBalance a holder)
  amount := couponAmountFor_exactly hget hkind hdate holder

end Accrual

namespace Session

/-- Entitlements are exact and overflow only when they must: for any actions, snapshots, ledger
and terms, a coupon whose record date has come and a holder, the amount and the principal are the
exact fractions unless their denominators do not fit in 256 bits.  No history of a bond that was
opened shows an overflow. -/
theorem entitlements_exact :
    (∀ (v : Accrual) (id : ActionId) (a : Action) (c : Coupon) (holder : Address),
      v.actions.get? id = .ok a → a.kind = .coupon c → c.recordDate ≤ v.now →
      v.OwesExactly id a c holder) ∧
    (∀ (v : Accrual) (holder : Address), v.PrincipalExactly holder) ∧
    ∀ (config : Config) (b : Bond), Bond.create config = .ok b →
      ∀ (start : Clock) (history : List Move),
        .refused .arithmeticOverflow ∉ (⟨b, start⟩ : Session).replies history := by
  refine ⟨?_, ?_, ?_⟩
  · intro v id a c holder hget hkind hdate
    exact Accrual.owesExactly hget hkind hdate holder
  · intro v holder
    exact v.principalFor_exactly holder
  · intro config b hcreate start history
    exact (payable_of_create hcreate start).overflow_not_mem_replies history

/-- Ten units of the sample earn an exact amount, its history shows no overflow, and with a token
of 255 decimal places the same units have no principal. -/
theorem sample_entitlement_exact :
    let s := sampleStart.run sampleHistory
    let v := s.bond.accrual s.clock.now
    (∃ r : Rational, v.couponAmountFor 1 (.ofLow 7) = .ok ⟨r, true⟩ ∧
      r.numerator.toNat = 3500000 ∧ r.denominator.toNat = 315360000000) ∧
    { v with terms := Bond.overscaledTerms }.principalFor (.ofLow 7) =
      .error .arithmeticOverflow ∧
    .refused .arithmeticOverflow ∉ sampleStart.replies sampleHistory := by
  intro s v
  obtain ⟨hamounts, hprincipals, hreplies⟩ := entitlements_exact
  have hget : v.actions.get? 1 = .ok ⟨1, .coupon sampleCoupon, 1⟩ := rfl
  have hdate : sampleCoupon.recordDate ≤ v.now := by decide
  refine ⟨?_, ?_, hreplies Bond.sampleConfig _ rfl ⟨5⟩ sampleHistory⟩
  · have hexact := (hamounts v 1 _ sampleCoupon (.ofLow 7) hget rfl hdate).amount
    have hbalance : v.countedBalance ⟨1, .coupon sampleCoupon, 1⟩ (.ofLow 7) = 10 := rfl
    have hterms : v.terms = Bond.sampleConfig.terms := rfl
    rw [hbalance, hterms] at hexact
    obtain ⟨r, hanswer, hnumerator, hdenominator⟩ := hexact.answered (by decide)
    exact ⟨r, hanswer, hnumerator.trans (by decide), hdenominator.trans (by decide)⟩
  · refine (hprincipals { v with terms := Bond.overscaledTerms } (.ofLow 7)).overflows ?_
    refine Nat.le_of_not_lt fun hfits => ?_
    exact absurd (Accrual.scale_lt_iff.mp hfits) (by decide)

end Session

end CouponBond
