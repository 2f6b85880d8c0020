import CouponBond.Word256

/-!
# Exact fractions

An entitlement is a fraction of two 256-bit numbers that nobody has rounded.  A
fraction over zero stands for an amount that is not defined yet.

## Main Definitions

* `Rational` — a fraction, compared field by field
* `Rational.floor?`, `Rational.reduced` — whole part and lowest terms
* `Rational.sameValue` — equality of the values

## Design Notes

Cross products of two fractions need not fit in 256 bits, so values are compared
through lowest terms.
-/

namespace CouponBond

/-- A non-negative fraction. -/
structure Rational where
  /-- The number above the line. -/
  numerator : Word256
  /-- The number below the line; zero if the fraction is undefined. -/
  denominator : Word256
deriving DecidableEq, Repr

/-- Greatest common divisor by repeated remainders. -/
def Word256.gcd (a b : Word256) : Word256 :=
  if b = 0 then a else gcd b (a % b)
termination_by b.toNat
decreasing_by
  rw [BitVec.toNat_umod]
  refine Nat.mod_lt _ (Nat.pos_of_ne_zero fun h => ?_)
  rename_i hb
  exact hb (BitVec.eq_of_toNat_eq h)

namespace Rational

/-- The fraction that stands for no value. -/
def undefined : Rational := ⟨0, 0⟩

/-- Whether the fraction stands for no value. -/
def isUndefined (r : Rational) : Bool := r.denominator == 0

/-- The whole part of a defined fraction. -/
def floor? (r : Rational) : Option Word256 :=
  if r.isUndefined then none else some (r.numerator / r.denominator)

/-- Lowest terms; an undefined fraction stays as it is. -/
def reduced (r : Rational) : Rational :=
  if r.isUndefined then r
  else
    let g := Word256.gcd r.numerator r.denominator
    ⟨r.numerator / g, r.denominator / g⟩

/-- Whether two fractions stand for the same value. -/
def sameValue (a b : Rational) : Bool := a.reduced == b.reduced

end Rational

end CouponBond
