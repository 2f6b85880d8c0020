import CouponBond.Rational
import Mathlib.Data.Rat.Lemmas

/-!
# Fractions in lowest terms

Two fractions of 256-bit numbers have cross products of twice as many bits, so they are compared
by their lowest terms.  That is the comparison of their values: a fraction has its value in lowest
terms, and no value has two of them.

The greatest common divisor comes out of a loop of remainders.  What is left over falls to less
than half in two rounds, which bounds the rounds by twice the bits.

## Main Definitions

* `Word256.Euclid` — a run of the loop of remainders, with the number of its rounds
* `Rational.value` — the value of a defined fraction
* `Rational.LowestTerms` — one fraction is another one in lowest terms

## Main Results

* `Word256.exists_euclid`, `Word256.toNat_gcd` — the loop ends with the greatest common divisor
* `Rational.lowestTerms_reduced` — `reduced` finds lowest terms
* `Rational.LowestTerms.unique` — no value has two lowest terms
* `Rational.compared_by_value` — what comparing two fractions means
-/

namespace CouponBond

/-! ### The loop of remainders -/

namespace Word256

/-- The loop of remainders, started with two numbers, ends after so many rounds with a result.
Each round goes on with the second number and the remainder that it leaves of the first. -/
inductive Euclid : (a b : Word256) → (rounds : Nat) → (result : Word256) → Prop
  | done {a : Word256} : Euclid a 0 0 a
  | round {a b result : Word256} {rounds : Nat} (more : b ≠ 0)
      (rest : Euclid b (a % b) rounds result) : Euclid a b (rounds + 1) result

theorem toNat_ne_zero {b : Word256} (h : b ≠ 0) : b.toNat ≠ 0 :=
  fun hzero => h (BitVec.eq_of_toNat_eq hzero)

theorem gcd_zero (a : Word256) : gcd a 0 = a := by
  rw [gcd, if_pos rfl]

theorem gcd_of_ne_zero {b : Word256} (h : b ≠ 0) (a : Word256) : gcd a b = gcd b (a % b) := by
  rw [gcd, if_neg h]

/-- A second remainder is less than half of what the first division was by. -/
theorem two_mul_mod_lt {b r : Nat} (hr : r ≠ 0) (hlt : r < b) : 2 * (b % r) < b := by
  have hrest : b % r < r := Nat.mod_lt _ (Nat.pos_of_ne_zero hr)
  have hparts : r * (b / r) + b % r = b := Nat.div_add_mod b r
  have honce : r ≤ r * (b / r) :=
    Nat.le_mul_of_pos_right _ (Nat.div_pos (Nat.le_of_lt hlt) (Nat.pos_of_ne_zero hr))
  omega

theorem euclid_zero (a : Word256) : Euclid a 0 0 (gcd a 0) := by
  rw [gcd_zero]
  exact .done

/-- The loop ends within two rounds for every bit of the second number. -/
theorem exists_euclid_of_lt {bits : Nat} {a b : Word256} (h : b.toNat < 2 ^ bits) :
    ∃ rounds ≤ 2 * bits, Euclid a b rounds (gcd a b) := by
  induction bits generalizing a b with
  | zero =>
    have hb : b = 0 := BitVec.eq_of_toNat_eq (Nat.lt_one_iff.mp h)
    subst hb
    exact ⟨0, Nat.le_refl _, euclid_zero a⟩
  | succ bits ih =>
    by_cases hb : b = 0
    · subst hb
      exact ⟨0, Nat.zero_le _, euclid_zero a⟩
    by_cases hr : a % b = 0
    · refine ⟨1, by omega, .round hb ?_⟩
      rw [gcd_of_ne_zero hb, hr]
      exact euclid_zero b
    have hlt : (a % b).toNat < b.toNat := by
      rw [BitVec.toNat_umod]
      exact Nat.mod_lt _ (Nat.pos_of_ne_zero (toNat_ne_zero hb))
    have hhalf := two_mul_mod_lt (toNat_ne_zero hr) hlt
    rw [← BitVec.toNat_umod] at hhalf
    rw [Nat.pow_succ] at h
    obtain ⟨rounds, hrounds, hrest⟩ := ih (a := a % b) (b := b % (a % b)) (by omega)
    refine ⟨rounds + 2, by omega, .round hb (.round hr ?_)⟩
    rwa [gcd_of_ne_zero hb, gcd_of_ne_zero hr]

/-- Whatever the loop is started with, it ends within 512 rounds. -/
theorem exists_euclid (a b : Word256) : ∃ rounds ≤ 512, Euclid a b rounds (gcd a b) :=
  exists_euclid_of_lt b.isLt

/-- A run of the loop keeps the common divisors, so it ends with the greatest one. -/
theorem Euclid.toNat_result {a b result : Word256} {rounds : Nat}
    (h : Euclid a b rounds result) : result.toNat = Nat.gcd a.toNat b.toNat := by
  induction h with
  | done => exact (Nat.gcd_zero_right _).symm
  | @round a b result rounds _ _ ih =>
    rw [ih, BitVec.toNat_umod, Nat.gcd_comm b.toNat, ← Nat.gcd_rec, Nat.gcd_comm]

theorem toNat_gcd (a b : Word256) : (gcd a b).toNat = Nat.gcd a.toNat b.toNat := by
  obtain ⟨rounds, -, h⟩ := exists_euclid a b
  exact h.toNat_result

end Word256

/-! ### Lowest terms -/

namespace Rational

/-- The value of a defined fraction. -/
def value (r : Rational) : ℚ := (r.numerator.toNat : ℚ) / r.denominator.toNat

/-- A fraction is another one in lowest terms. -/
structure LowestTerms (s r : Rational) : Prop where
  defined : s.denominator ≠ 0
  coprime : Nat.Coprime s.numerator.toNat s.denominator.toNat
  value_eq : s.value = r.value
  floor?_eq : s.floor? = r.floor?

variable {r s t : Rational}

theorem isUndefined_eq_false (h : r.denominator ≠ 0) : r.isUndefined = false :=
  beq_eq_false_iff_ne.mpr h

/-- An undefined fraction stays as it is. -/
theorem reduced_of_undefined (h : r.denominator = 0) : r.reduced = r :=
  if_pos (beq_iff_eq.mpr h)

/-- Both parts of a defined fraction are multiples of those of its lowest terms. -/
theorem toNat_reduced (h : r.denominator ≠ 0) :
    ∃ g ≠ 0, r.numerator.toNat = r.reduced.numerator.toNat * g ∧
      r.denominator.toNat = r.reduced.denominator.toNat * g ∧
      Nat.Coprime r.reduced.numerator.toNat r.reduced.denominator.toNat := by
  have hreduced : r.reduced = ⟨r.numerator / Word256.gcd r.numerator r.denominator,
      r.denominator / Word256.gcd r.numerator r.denominator⟩ :=
    if_neg (by rw [isUndefined_eq_false h]; decide)
  have hpos : 0 < Nat.gcd r.numerator.toNat r.denominator.toNat :=
    Nat.gcd_pos_of_pos_right _ (Nat.pos_of_ne_zero (Word256.toNat_ne_zero h))
  refine ⟨_, Nat.ne_of_gt hpos, ?_, ?_, ?_⟩
  · rw [hreduced, BitVec.toNat_udiv, Word256.toNat_gcd]
    exact (Nat.div_mul_cancel (Nat.gcd_dvd_left _ _)).symm
  · rw [hreduced, BitVec.toNat_udiv, Word256.toNat_gcd]
    exact (Nat.div_mul_cancel (Nat.gcd_dvd_right _ _)).symm
  · rw [hreduced, BitVec.toNat_udiv, BitVec.toNat_udiv, Word256.toNat_gcd]
    exact Nat.coprime_div_gcd_div_gcd hpos

/-- `reduced` finds the lowest terms of a defined fraction. -/
theorem lowestTerms_reduced (h : r.denominator ≠ 0) : r.reduced.LowestTerms r := by
  obtain ⟨g, hg, hnumerator, hdenominator, hcoprime⟩ := toNat_reduced h
  have hdefined : r.reduced.denominator ≠ 0 := by
    intro hzero
    rw [hzero] at hdenominator
    exact Word256.toNat_ne_zero h (hdenominator.trans (Nat.zero_mul g))
  refine ⟨hdefined, hcoprime, ?_, ?_⟩
  · rw [value, value, hnumerator, hdenominator, Nat.cast_mul, Nat.cast_mul,
      mul_div_mul_right _ _ (Nat.cast_ne_zero.mpr hg)]
  · rw [floor?, floor?, isUndefined_eq_false hdefined, isUndefined_eq_false h]
    refine congrArg some (BitVec.eq_of_toNat_eq ?_)
    rw [BitVec.toNat_udiv, BitVec.toNat_udiv, hnumerator, hdenominator,
      Nat.mul_div_mul_right _ _ (Nat.pos_of_ne_zero hg)]

/-- Defined fractions have one value when their cross products agree. -/
theorem value_eq_value_iff (hr : r.denominator ≠ 0) (hs : s.denominator ≠ 0) :
    r.value = s.value ↔
      r.numerator.toNat * s.denominator.toNat = s.numerator.toNat * r.denominator.toNat := by
  have hr' : (r.denominator.toNat : ℚ) ≠ 0 := Nat.cast_ne_zero.mpr (Word256.toNat_ne_zero hr)
  have hs' : (s.denominator.toNat : ℚ) ≠ 0 := Nat.cast_ne_zero.mpr (Word256.toNat_ne_zero hs)
  rw [value, value, div_eq_div_iff hr' hs']
  exact_mod_cast Iff.rfl

/-- Fractions of one value have the same lowest terms. -/
theorem LowestTerms.unique {r' s' : Rational} (hr : r'.LowestTerms r) (hs : s'.LowestTerms s)
    (h : r.value = s.value) : r' = s' := by
  have hpos {d : Word256} (hd : d ≠ 0) : (0 : Int) < d.toNat :=
    Int.natCast_pos.mpr (Nat.pos_of_ne_zero (Word256.toNat_ne_zero hd))
  have hvalue : ((r'.numerator.toNat : Int) : ℚ) / ((r'.denominator.toNat : Int) : ℚ) =
      ((s'.numerator.toNat : Int) : ℚ) / ((s'.denominator.toNat : Int) : ℚ) :=
    hr.value_eq.trans (h.trans hs.value_eq.symm)
  have hcoprime {q : Rational} (hq : Nat.Coprime q.numerator.toNat q.denominator.toNat) :
      Nat.Coprime (q.numerator.toNat : Int).natAbs (q.denominator.toNat : Int).natAbs := hq
  obtain ⟨hnumerator, hdenominator⟩ := Rat.div_int_inj (hpos hr.defined) (hpos hs.defined)
    (hcoprime hr.coprime) (hcoprime hs.coprime) hvalue
  cases r'
  cases s'
  congr 1
  · exact BitVec.eq_of_toNat_eq (Int.ofNat.inj hnumerator)
  · exact BitVec.eq_of_toNat_eq (Int.ofNat.inj hdenominator)

/-- Lowest terms can not be reduced any further. -/
theorem reduced_reduced (h : r.denominator ≠ 0) : r.reduced.reduced = r.reduced := by
  have hlowest := lowestTerms_reduced h
  exact (lowestTerms_reduced hlowest.defined).unique hlowest hlowest.value_eq

theorem sameValue_iff (hr : r.denominator ≠ 0) (hs : s.denominator ≠ 0) :
    r.sameValue s = true ↔ r.value = s.value := by
  have hlowestr := lowestTerms_reduced hr
  have hlowests := lowestTerms_reduced hs
  rw [sameValue, beq_iff_eq]
  constructor
  · intro h
    rw [← hlowestr.value_eq, ← hlowests.value_eq, h]
  · exact hlowestr.unique hlowests

/-- Only undefined fractions have the lowest terms of an undefined one. -/
theorem reduced_ne_of_undefined (hr : r.denominator = 0) (hs : s.denominator ≠ 0) :
    r.reduced ≠ s.reduced := by
  intro h
  rw [reduced_of_undefined hr] at h
  exact (lowestTerms_reduced hs).defined (h ▸ hr)

/-- The loop of remainders ends with the greatest common divisor.  Reducing a defined fraction
gives its lowest terms, once and for all.  Defined fractions are compared as their cross products
are in the natural numbers, and none of them has the value of an undefined one. -/
theorem compared_by_value :
    (∀ a b : Word256, (∃ rounds ≤ 512, Word256.Euclid a b rounds (Word256.gcd a b)) ∧
      (Word256.gcd a b).toNat = Nat.gcd a.toNat b.toNat) ∧
    (∀ r : Rational, r.denominator ≠ 0 →
      r.reduced.LowestTerms r ∧ r.reduced.reduced = r.reduced) ∧
    (∀ r s : Rational, r.denominator ≠ 0 → s.denominator ≠ 0 →
      (r.sameValue s = true ↔
        r.numerator.toNat * s.denominator.toNat = s.numerator.toNat * r.denominator.toNat)) ∧
    ∀ r s : Rational, r.denominator = 0 → s.denominator ≠ 0 →
      r.sameValue s = false ∧ s.sameValue r = false := by
  refine ⟨fun a b => ⟨Word256.exists_euclid a b, Word256.toNat_gcd a b⟩,
    fun r h => ⟨lowestTerms_reduced h, reduced_reduced h⟩,
    fun r s hr hs => (sameValue_iff hr hs).trans (value_eq_value_iff hr hs),
    fun r s hr hs => ⟨?_, ?_⟩⟩
  · exact beq_eq_false_iff_ne.mpr (reduced_ne_of_undefined hr hs)
  · exact beq_eq_false_iff_ne.mpr (reduced_ne_of_undefined hr hs).symm

/-- Two fractions whose cross products differ by 2^256 have different values; ten quarters are
five halves, and five over nothing is neither. -/
theorem wide_fractions_compared :
    let wide : Rational := ⟨1 <<< 255, 1⟩
    let nothing : Rational := ⟨0, 2⟩
    wide.numerator.toNat * nothing.denominator.toNat = 2 ^ 256 ∧
      nothing.numerator.toNat * wide.denominator.toNat = 0 ∧
      ¬ wide.sameValue nothing = true ∧
      (⟨10, 4⟩ : Rational).sameValue ⟨5, 2⟩ = true ∧
      (⟨10, 4⟩ : Rational).reduced.LowestTerms ⟨10, 4⟩ ∧
      (⟨5, 0⟩ : Rational).sameValue ⟨5, 2⟩ = false := by
  intro wide nothing
  obtain ⟨-, hlowest, hsame, hundefined⟩ := compared_by_value
  refine ⟨by decide, by decide, ?_, ?_, ?_, ?_⟩
  · rw [hsame wide nothing (by decide) (by decide)]
    decide
  · rw [hsame ⟨10, 4⟩ ⟨5, 2⟩ (by decide) (by decide)]
    decide
  · exact (hlowest ⟨10, 4⟩ (by decide)).1
  · exact (hundefined ⟨5, 0⟩ ⟨5, 2⟩ (by decide) (by decide)).1

end Rational

end CouponBond
