import CouponBond.Word256
import Mathlib.Algebra.Ring.Nat

/-!
# Products and powers in 256 bits

When the products and powers behind an entitlement fit, so that they are answered, and what they
are in natural numbers.  Four 64-bit factors always fit.

## Main Results

* `Word256.exists_product?` — a product of at most four 64-bit factors
* `Word256.exists_pow?` — a power that fits
-/

namespace CouponBond.Word256

@[simp] theorem toNat_ofUInt64 (n : UInt64) : (ofUInt64 n).toNat = n.toNat := by
  have hfits := n.toNat_lt
  rw [ofUInt64, BitVec.toNat_ofNat]
  exact Nat.mod_eq_of_lt (by omega)

/-- A number that fits is answered. -/
theorem exists_ofNat? {n : Nat} (h : n < 2 ^ 256) : ∃ a, ofNat? n = some a ∧ a.toNat = n := by
  have hkept : (BitVec.ofNat 256 n).toNat = n := by
    rw [BitVec.toNat_ofNat]
    exact Nat.mod_eq_of_lt h
  exact ⟨BitVec.ofNat 256 n, if_pos hkept, hkept⟩

/-- A number that does not fit is not answered. -/
theorem ofNat?_eq_none {n : Nat} (h : 2 ^ 256 ≤ n) : ofNat? n = none := by
  cases hn : ofNat? n with
  | none => rfl
  | some a =>
    have hvalue := toNat_of_ofNat? hn
    have hfits := a.isLt
    omega

/-- A product that does not fit is not answered. -/
theorem mul?_eq_none {a b : Word256} (h : 2 ^ 256 ≤ a.toNat * b.toNat) : mul? a b = none :=
  ofNat?_eq_none h

/-- Factors of 64 bits are multiplied up as long as there is room for all of them. -/
theorem exists_foldlM_mul? (factors : List UInt64) (start : Word256)
    (hroom : start.toNat * UInt64.size ^ factors.length ≤ 2 ^ 256) :
    ∃ p, (factors.map ofUInt64).foldlM mul? start = some p ∧
      p.toNat = start.toNat * (factors.map UInt64.toNat).prod := by
  induction factors generalizing start with
  | nil => exact ⟨start, rfl, by simp⟩
  | cons f rest ih =>
    have hf : f.toNat < UInt64.size := f.toNat_lt
    have hpos : 0 < UInt64.size ^ rest.length := Nat.pow_pos (by decide)
    have hstep : start.toNat * f.toNat < 2 ^ 256 := by
      rcases Nat.eq_zero_or_pos start.toNat with hzero | hstart
      · rw [hzero, Nat.zero_mul]
        decide
      · calc start.toNat * f.toNat
          _ < start.toNat * UInt64.size := Nat.mul_lt_mul_of_pos_left hf hstart
          _ ≤ start.toNat * (UInt64.size ^ rest.length * UInt64.size) :=
            Nat.mul_le_mul_left _ (Nat.le_mul_of_pos_left _ hpos)
          _ ≤ 2 ^ 256 := hroom
    obtain ⟨next, hnext, hvalue⟩ := exists_ofNat? hstep
    have hroom' : next.toNat * UInt64.size ^ rest.length ≤ 2 ^ 256 := by
      refine Nat.le_trans ?_ hroom
      rw [hvalue, List.length_cons, Nat.pow_succ, Nat.mul_assoc]
      refine Nat.mul_le_mul_left _ ?_
      rw [Nat.mul_comm]
      exact Nat.mul_le_mul_left _ (Nat.le_of_lt hf)
    obtain ⟨p, hp, hproduct⟩ := ih next hroom'
    refine ⟨p, ?_, ?_⟩
    · rw [List.map_cons, List.foldlM_cons, mul?, toNat_ofUInt64, hnext]
      exact hp
    · rw [hproduct, hvalue, List.map_cons, List.prod_cons, Nat.mul_assoc]

/-- A product of at most four factors of 64 bits is answered. -/
theorem exists_product? (factors : List UInt64) (hfew : factors.length ≤ 4) :
    ∃ p, product? (factors.map ofUInt64) = some p ∧
      p.toNat = (factors.map UInt64.toNat).prod := by
  have hroom : (1 : Word256).toNat * UInt64.size ^ factors.length ≤ 2 ^ 256 := by
    rw [show (1 : Word256).toNat = 1 from rfl, Nat.one_mul]
    exact Nat.pow_le_pow_right (by decide) hfew
  obtain ⟨p, hp, hproduct⟩ := exists_foldlM_mul? factors 1 hroom
  exact ⟨p, hp, hproduct.trans (Nat.one_mul _)⟩

/-- A power that fits is answered. -/
theorem exists_pow? {base : Word256} {exponent : Nat} (hbase : 0 < base.toNat)
    (hfits : base.toNat ^ exponent < 2 ^ 256) :
    ∃ p, pow? base exponent = some p ∧ p.toNat = base.toNat ^ exponent := by
  induction exponent with
  | zero => exact ⟨1, rfl, rfl⟩
  | succ exponent ih =>
    rw [Nat.pow_succ] at hfits
    obtain ⟨power, hpower, hvalue⟩ :=
      ih (Nat.lt_of_le_of_lt (Nat.le_mul_of_pos_right _ hbase) hfits)
    rw [← hvalue] at hfits
    obtain ⟨p, hp, hproduct⟩ := exists_ofNat? hfits
    refine ⟨p, ?_, ?_⟩
    · rw [pow?, hpower]
      exact hp
    · rw [hproduct, hvalue, Nat.pow_succ]

/-- A power that is answered is exact. -/
theorem toNat_of_pow? {base p : Word256} {exponent : Nat} (h : pow? base exponent = some p) :
    p.toNat = base.toNat ^ exponent := by
  induction exponent generalizing p with
  | zero =>
    cases h
    rfl
  | succ exponent ih =>
    obtain ⟨power, hpower, hproduct⟩ := Option.bind_eq_some_iff.mp h
    rw [toNat_of_mul? hproduct, ih hpower, Nat.pow_succ]

/-- A power that does not fit is not answered. -/
theorem pow?_eq_none {base : Word256} {exponent : Nat} (h : 2 ^ 256 ≤ base.toNat ^ exponent) :
    pow? base exponent = none := by
  cases hp : pow? base exponent with
  | none => rfl
  | some p =>
    have hvalue := toNat_of_pow? hp
    have hfits := p.isLt
    omega

end CouponBond.Word256
