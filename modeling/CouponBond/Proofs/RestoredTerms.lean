import CouponBond.Proofs.Payout

/-!
# The terms of a restored bond

A saved state holds the terms of its bond beside the hash of the configuration that it was taken
under.  Restoring compares the hash and takes the terms as they stand in the text: nothing compares
them with the configuration.  So a text that a bond wrote restores to terms that the configuration
admits, and a text in which only the terms were changed restores to the changed ones, of whatever
scale.

A principal is computed up to 77 decimal places of token and face value, and the amount of a coupon
up to 69 with those of its rate, which leaves room for the seconds of a year.  Terms that a
configuration admits have at most 36.

## Main Definitions

* `Terms.places` — decimal places of a token's face value
* `Config.Admits` — the terms that a bond of a configuration can come to have
* `Bond.PaysPrincipal` — principals are computed with the face value of given terms
* `Bond.saveAs` — the text of a saved state with other terms in it

## Main Results

* `Bond.principalFor_eq_error_iff`, `Coupon.amountFrom_eq_error_iff` — when an answer overflows
* `Session.Sound.admits_run` — terms stay admitted throughout a history
* `Session.Sound.load_saveAs` — a text with other terms in it is restored with them
* `Bond.restored_terms` — the terms of a restored bond, and what they mean for its answers
-/

namespace CouponBond

/-- Decimal places of the face value of a token: those of the token and of its nominal value. -/
def Terms.places (t : Terms) : Nat := t.tokenDecimals.toNat + t.nominalValueDecimals.toNat

/-! ### Overflow -/

namespace Coupon

/-- The amount of a coupon overflows exactly when the decimal places leave no room for the seconds
of a year. -/
theorem amountFrom_eq_error_iff {terms : Terms} {coupon : Coupon} {balance : Amount} :
    coupon.amountFrom terms balance = .error .arithmeticOverflow ↔
      69 < terms.places + coupon.rateDecimals.toNat := by
  rw [(coupon.amountFrom_exactly terms balance).eq_error_iff, ← Nat.not_lt, scaledYear_lt_iff,
    Nat.not_le, Terms.places]

end Coupon

namespace Bond

variable {b : Bond} {now : Timestamp} {holder : Address}

/-- Principals are computed, with the face value of some terms. -/
def PaysPrincipal (b : Bond) (terms : Terms) : Prop :=
  ∀ now holder, ∃ principal, b.principalFor now holder = .ok principal ∧
    principal.numerator.toNat = (b.ledger.holdingOf holder).toNat * terms.nominalValue.toNat ∧
    principal.denominator.toNat = 10 ^ terms.places

theorem paysPrincipal_of_le (h : b.terms.places ≤ 77) : b.PaysPrincipal b.terms := by
  intro now holder
  obtain ⟨r, hanswer, hexact⟩ :=
    ((b.accrual now).principalFor_exactly holder).answered (Accrual.scale_lt_iff.mpr h)
  refine ⟨r, ?_, hexact⟩
  rw [principalFor_eq, hanswer]
  rfl

/-- A principal overflows exactly when the power of ten of its places does. -/
theorem principalFor_eq_error_iff :
    b.principalFor now holder = .error .arithmeticOverflow ↔ 77 < b.terms.places := by
  rw [principalFor_eq, BondError.mapError_eq_overflow_iff,
    ((b.accrual now).principalFor_exactly holder).eq_error_iff, ← Nat.not_lt,
    Accrual.scale_lt_iff, Nat.not_le]
  rfl

/-- The amount of a coupon that is reached overflows exactly when its own places do. -/
theorem couponAmountFor_eq_error_iff {couponId : UInt64} {id : ActionId} {coupon : Coupon}
    (hledger : b.ledger.Consistent) (hcoupon : b.couponAt? couponId = some (id, coupon))
    (hdate : coupon.recordDate ≤ now) :
    b.couponAmountFor now couponId holder = .error .arithmeticOverflow ↔
      69 < b.terms.places + coupon.rateDecimals.toNat := by
  obtain ⟨snapshot, hseen, hkept⟩ := exists_accrual_coupon now hcoupon
  have hamount : b.couponAmountFor now couponId holder = (coupon.amountFrom b.terms
      ((b.recorded id).balanceOf holder)).mapError .ofAccrual := by
    rw [couponAmountFor, aboutCoupon_eq hcoupon, Accrual.couponAmountFor,
      accrual_couponFor hledger hseen hkept hdate]
    rfl
  rw [hamount, BondError.mapError_eq_overflow_iff, coupon.amountFrom_eq_error_iff]

end Bond

/-! ### Terms that a configuration admits -/

/-- A configuration that passes its check has few places. -/
theorem Config.places_le_of_check {config : Config} (h : config.check = .ok ()) :
    config.terms.places ≤ 36 := by
  obtain ⟨htoken, hnominal⟩ := config.decimals_le_of_check h
  have hmax : maxDecimals.toNat = 18 := rfl
  rw [UInt8.le_iff_toNat_le, hmax] at htoken hnominal
  exact Nat.add_le_add htoken hnominal

/-- The terms that a bond of a configuration can come to have: those it is opened with, but for a
maturity date that may have moved on. -/
structure Config.Admits (config : Config) (terms : Terms) : Prop where
  terms_eq : terms = { config.terms with maturityDate := terms.maturityDate }
  maturityDate_le : config.maturityDate ≤ terms.maturityDate

namespace Config.Admits

variable {config : Config} {terms : Terms}

theorem places_eq (h : config.Admits terms) : terms.places = config.terms.places := by
  rw [h.terms_eq]
  rfl

/-- Terms that are admitted under a configuration that passes its check have few places. -/
theorem places_le (h : config.Admits terms) (hcheck : config.check = .ok ()) :
    terms.places ≤ 36 := by
  rw [h.places_eq]
  exact places_le_of_check hcheck

/-- A later maturity date is admitted too. -/
theorem extend (h : config.Admits terms) {date : Timestamp} {terms' : Terms}
    (hterms : terms.extend? date = some terms') : config.Admits terms' := by
  unfold Terms.extend? at hterms
  split at hterms
  · next hlater =>
    cases hterms
    refine ⟨?_, UInt64.le_of_lt (UInt64.lt_of_le_of_lt h.maturityDate_le hlater)⟩
    rw [h.terms_eq]
  · cases hterms

end Config.Admits

/-- A performed change keeps the terms, or moves the maturity date on. -/
theorem Bond.Performed.admits {desk : Desk} {b changed : Bond} {command : Command}
    {outcome : Outcome} {facts : List Fact} {config : Config}
    (hperformed : Performed desk b command outcome facts changed)
    (h : config.Admits b.terms) : config.Admits changed.terms := by
  cases hperformed with
  | updateMaturityDate _ hterms => exact h.extend hterms
  | _ => exact h

namespace Session

variable {config : Config} {s : Session}

/-- The terms of a bond that was opened stay admitted throughout its history. -/
theorem Sound.admits_run (h : s.Sound config) (hterms : config.Admits s.bond.terms)
    (moves : List Move) : config.Admits (s.run moves).bond.terms :=
  h.bond_keeps (P := fun b => config.Admits b.terms)
    (fun halike => (halike.congr (fun b => config.Admits b.terms) fun _ _ => rfl).mpr)
    (fun _ hperformed hbefore => hperformed.admits hbefore) hterms moves

/-- A bond that was opened is restored from its own state with terms that are admitted. -/
theorem Sound.admits_of_load (h : s.Sound config) (hterms : config.Admits s.bond.terms) {b : Bond}
    (hload : Bond.load config (s.bond.save s.clock.now) = .ok b) : config.Admits b.terms := by
  obtain ⟨restored, hrestored, halike⟩ := h.load_save
  rw [hload] at hrestored
  cases hrestored
  have hkept : b.terms = s.bond.terms := halike.bond.congr Bond.terms fun _ _ => rfl
  rw [hkept]
  exact hterms

end Session

/-! ### Other terms in a text -/

/-- The text of the state of a bond with other terms written in it. -/
def Bond.saveAs (b : Bond) (terms : Terms) (now : Timestamp) : String :=
  (encode { b.checkpoint now with terms }).print

/-- A text in which only the terms were changed is restored, and the bond has the changed terms:
neither the hash of the configuration nor the checks of the state look at them. -/
theorem Session.Sound.load_saveAs {config : Config} {s : Session} (h : s.Sound config)
    (terms : Terms) :
    ∃ b, Bond.load config (s.bond.saveAs terms s.clock.now) = .ok b ∧ b.terms = terms := by
  have hcheck : ({ s.bond.checkpoint s.clock.now with terms } : Checkpoint).reread.check = .ok () :=
    Checkpoint.check_eq_ok ((Ledger.alike_renumbered s.bond.ledger).consistent h.consistent)
      ⟨s.bond.snapshots.pending, h.agrees⟩
  have hhash : s.bond.config.hash = config.hash := by rw [h.config_eq]
  exact ⟨_, Bond.load_eq_ok_iff.mpr
    ⟨h.checked, _, Checkpoint.decodeText?_print _, hhash, hcheck, rfl⟩, rfl⟩

namespace Bond

variable {config : Config} {text : String} {b : Bond}

/-- A restored bond has the terms that stand in the text beside the hash of its configuration.
Its answers overflow exactly when these terms have too many decimal places.  They do not, and
principals have the face value of the configuration, if the configuration admits the terms; and it
does for every text that was saved in the history of a bond opened with it. -/
theorem restored_terms (hload : load config text = .ok b) :
    (∃ saved : Checkpoint, decodeText? text = some saved ∧ saved.configHash = config.hash ∧
      saved.terms = b.terms) ∧
    (∀ now holder, b.principalFor now holder = .error .arithmeticOverflow ↔
      77 < b.terms.places) ∧
    (∀ now couponId id coupon, b.couponAt? couponId = some (id, coupon) →
      coupon.recordDate ≤ now → ∀ holder,
      (b.couponAmountFor now couponId holder = .error .arithmeticOverflow ↔
        69 < b.terms.places + coupon.rateDecimals.toNat)) ∧
    (config.Admits b.terms → b.terms.places ≤ 36 ∧ b.PaysPrincipal config.terms) ∧
    ∀ first start history, create config = .ok first →
      text = ((⟨first, start⟩ : Session).run history).bond.save
        ((⟨first, start⟩ : Session).run history).clock.now →
      config.Admits b.terms := by
  have hledger := consistent_of_load hload
  obtain ⟨hcheck, saved, hsaved, hhash, -, hb⟩ := load_eq_ok_iff.mp hload
  refine ⟨⟨saved, hsaved, hhash, ?_⟩, ?_, ?_, ?_, ?_⟩
  · rw [hb]
    rfl
  · intro now holder
    exact principalFor_eq_error_iff
  · intro now couponId id coupon hcoupon hdate holder
    exact couponAmountFor_eq_error_iff hledger hcoupon hdate
  · intro hadmits
    have hplaces := hadmits.places_le hcheck
    refine ⟨hplaces, fun now holder => ?_⟩
    obtain ⟨principal, hanswer, hnumerator, hdenominator⟩ :=
      paysPrincipal_of_le (Nat.le_trans hplaces (by decide)) now holder
    refine ⟨principal, hanswer, ?_, ?_⟩
    · rw [hnumerator, hadmits.terms_eq]
    · rw [hdenominator, hadmits.places_eq]
  · rintro first start history hcreate rfl
    have hsound := Session.sound_of_create hcreate start
    have hfirst : config.Admits first.terms := by
      obtain ⟨-, rfl⟩ := create_eq_ok_iff.mp hcreate
      exact ⟨rfl, UInt64.le_refl _⟩
    exact (hsound.run history).admits_of_load (hsound.admits_run hfirst history) hload

/-- The terms of the sample with a token of 255 decimal places. -/
def overscaledTerms : Terms := { sampleConfig.terms with tokenDecimals := 255 }

/-- The bond of the sample is restored with a token of 255 decimal places, and none of its
principals can be computed. -/
theorem overscaled_terms_restored :
    ∃ text b, load sampleConfig text = .ok b ∧
      (∃ saved : Checkpoint, decodeText? text = some saved ∧
        saved.configHash = sampleConfig.hash ∧ saved.terms = overscaledTerms) ∧
      b.terms = overscaledTerms ∧ ¬ sampleConfig.Admits b.terms ∧
      ∀ now holder, b.principalFor now holder = .error .arithmeticOverflow := by
  have hsound := Session.sound_of_create (rfl : create sampleConfig = .ok (opened sampleConfig)) ⟨5⟩
  obtain ⟨b, hload, hterms⟩ := hsound.load_saveAs overscaledTerms
  obtain ⟨hsaved, hprincipal, -, hadmitted, -⟩ := restored_terms hload
  rw [hterms] at hsaved
  have hplaces : 77 < b.terms.places := by
    rw [hterms]
    decide
  refine ⟨_, b, hload, hsaved, hterms, fun hadmits => ?_, fun now holder => ?_⟩
  · have hle := (hadmitted hadmits).1
    omega
  · exact (hprincipal now holder).mpr hplaces

/-- A restored bond does not always have terms that its configuration admits. -/
theorem terms_beside_config :
    ¬ ∀ (config : Config) (text : String) (b : Bond), load config text = .ok b →
      config.Admits b.terms := by
  intro hall
  have hsound := Session.sound_of_create (rfl : create sampleConfig = .ok (opened sampleConfig)) ⟨5⟩
  obtain ⟨b, hload, hterms⟩ := hsound.load_saveAs overscaledTerms
  have hadmits := hall sampleConfig _ b hload
  have hplaces := hadmits.places_eq
  rw [hterms] at hplaces
  exact absurd hplaces (by decide)

end Bond

end CouponBond
