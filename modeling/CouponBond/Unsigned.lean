/-!
# Unsigned 64-bit quantities

Amounts, times and record numbers are unsigned 64-bit words.  Sums and
differences that could leave the range are taken through this module, so that
leaving it is a value a caller has to look at.

## Main Definitions

* `Amount`, `Timestamp`, `LockId`, … — the scalar types of the bond
* `Unsigned.add?`, `Unsigned.sub?` — the exact result, or `none` out of range
* `Unsigned.addCapped`, `Unsigned.subFloored` — the result cut off at the range

## Design Notes

`Unsigned.add?` and `Unsigned.sub?` agree with the natural numbers whenever they
answer (`toNat_of_add?`, `toNat_of_sub?`); proofs move to `Nat` through them.
-/

namespace CouponBond

/-- Token units; a balance is never negative. -/
abbrev Amount := UInt64

/-- Seconds since the epoch. -/
abbrev Timestamp := UInt64

/-- Number of decimal places by which a figure is scaled. -/
abbrev Decimals := UInt8

/-- Number of a lock record; the first is 1. -/
abbrev LockId := UInt64

/-- Number of a hold record; the first is 1. -/
abbrev HoldId := UInt64

/-- Number of a clearing record; the first is 1. -/
abbrev ClearingId := UInt64

/-- Number of a corporate action; the first is 1. -/
abbrev ActionId := UInt64

/-- Number of a snapshot; the first is 1, and 0 means that none was taken. -/
abbrev SnapshotId := UInt64

namespace Unsigned

/-- The largest quantity. -/
def greatest : UInt64 := 18446744073709551615

/-- The sum, unless it leaves the range. -/
def add? (a b : UInt64) : Option UInt64 :=
  if a.toNat + b.toNat < UInt64.size then some (a + b) else none

/-- The difference, unless it would be negative. -/
def sub? (a b : UInt64) : Option UInt64 :=
  if b ≤ a then some (a - b) else none

/-- The sum, cut off at the largest quantity. -/
def addCapped (a b : UInt64) : UInt64 := (add? a b).getD greatest

/-- The difference, cut off at zero. -/
def subFloored (a b : UInt64) : UInt64 := (sub? a b).getD 0

theorem toNat_of_add? {a b c : UInt64} (h : add? a b = some c) :
    c.toNat = a.toNat + b.toNat := by
  unfold add? at h
  split at h
  · next hlt =>
    cases h
    rw [UInt64.toNat_add]
    exact Nat.mod_eq_of_lt hlt
  · cases h

theorem toNat_of_sub? {a b c : UInt64} (h : sub? a b = some c) :
    b.toNat ≤ a.toNat ∧ c.toNat = a.toNat - b.toNat := by
  unfold sub? at h
  split at h
  · next hle =>
    cases h
    exact ⟨UInt64.le_iff_toNat_le.mp hle, UInt64.toNat_sub_of_le _ _ hle⟩
  · cases h

theorem isSome_add?_iff {a b : UInt64} :
    (add? a b).isSome ↔ a.toNat + b.toNat < UInt64.size := by
  unfold add?
  split <;> simp_all

theorem isSome_sub?_iff {a b : UInt64} : (sub? a b).isSome ↔ b.toNat ≤ a.toNat := by
  unfold sub?
  split <;> simp_all [UInt64.le_iff_toNat_le]

end Unsigned

end CouponBond
