import CouponBond.Balance

/-!
# Arithmetic of balances

What the exact changes of a balance do to each bucket and to the units it counts, in natural
numbers.

## Main Results

* `Balance.toNat_get_of_credit?`, `Balance.toNat_get_of_debit?`, `Balance.toNat_get_of_move?` —
  every bucket after a change
* `Balance.exists_credit?`, `Balance.exists_debit?`, `Balance.exists_move?` — when a change is
  in range
* `Balance.toNat_total` — the total is the sum, cut off at the largest amount
-/

namespace CouponBond

namespace Unsigned

theorem toNat_greatest : greatest.toNat = UInt64.size - 1 := rfl

theorem toNat_le_greatest (a : UInt64) : a.toNat ≤ greatest.toNat := by
  have h := a.toNat_lt
  rw [toNat_greatest, UInt64.size]
  omega

theorem toNat_addCapped (a b : UInt64) :
    (addCapped a b).toNat = min (a.toNat + b.toNat) greatest.toNat := by
  unfold addCapped
  cases h : add? a b with
  | some c =>
    have hfits : a.toNat + b.toNat < UInt64.size := isSome_add?_iff.mp (by rw [h]; rfl)
    rw [Option.getD_some, toNat_of_add? h, toNat_greatest]
    omega
  | none =>
    have hout : ¬ a.toNat + b.toNat < UInt64.size := fun hfits => by
      have := isSome_add?_iff.mpr hfits
      rw [h] at this
      cases this
    rw [Option.getD_none, toNat_greatest]
    omega

theorem toNat_subFloored (a b : UInt64) : (subFloored a b).toNat = a.toNat - b.toNat := by
  unfold subFloored
  cases h : sub? a b with
  | some c =>
    rw [Option.getD_some]
    exact (toNat_of_sub? h).2
  | none =>
    have hout : ¬ b.toNat ≤ a.toNat := fun hle => by
      have := isSome_sub?_iff.mpr hle
      rw [h] at this
      cases this
    rw [Option.getD_none, UInt64.toNat_zero]
    omega

/-- A difference and what was taken off make the whole again. -/
theorem add?_of_sub? {a b c : UInt64} (h : sub? a b = some c) : add? c b = some a := by
  obtain ⟨hle, hsub⟩ := toNat_of_sub? h
  have hfits : c.toNat + b.toNat < UInt64.size := by
    have := a.toNat_lt
    rw [UInt64.size]
    omega
  obtain ⟨d, hd⟩ := Option.isSome_iff_exists.mp (isSome_add?_iff.mpr hfits)
  have hsum := toNat_of_add? hd
  rw [hd, ← UInt64.toNat_inj.mp (show a.toNat = d.toNat by omega)]

end Unsigned

namespace Balance

open Unsigned

variable {b b' : Balance} {bucket source target : Bucket} {units : Amount}

/-! ### Counted units -/

/-- The total is the sum of the buckets that count, cut off at the largest amount. -/
theorem toNat_total (b : Balance) : b.total.toNat = min b.sum greatest.toNat := by
  simp only [total, toNat_addCapped, sum]
  omega

@[simp] theorem total_zero : zero.total = 0 := rfl

@[simp] theorem sum_zero : zero.sum = 0 := rfl

theorem toNat_available (b : Balance) : b.available.toNat = b.free.toNat - b.cleared.toNat :=
  toNat_subFloored _ _

/-- What can be spent counts. -/
theorem toNat_available_le_total (b : Balance) : b.available.toNat ≤ b.total.toNat := by
  have hrange := toNat_le_greatest b.free
  rw [toNat_available, toNat_total, sum]
  omega

/-! ### Changes of buckets -/

theorem get_set (b : Balance) (bucket other : Bucket) (units : Amount) :
    (b.set bucket units).get other = if other = bucket then units else b.get other := by
  cases bucket <;> cases other <;> rfl

theorem toNat_get_of_credit? (h : b.credit? bucket units = some b') (other : Bucket) :
    (b'.get other).toNat = (b.get other).toNat + if other = bucket then units.toNat else 0 := by
  obtain ⟨v, hv, rfl⟩ := Option.map_eq_some_iff.mp h
  rw [get_set]
  split
  · next heq => rw [heq, toNat_of_add? hv]
  · rfl

theorem toNat_get_of_debit? (h : b.debit? bucket units = some b') (other : Bucket) :
    (b'.get other).toNat + (if other = bucket then units.toNat else 0) =
      (b.get other).toNat := by
  obtain ⟨v, hv, rfl⟩ := Option.map_eq_some_iff.mp h
  have hle := (toNat_of_sub? hv).1
  rw [get_set]
  split
  · next heq =>
    rw [heq, (toNat_of_sub? hv).2]
    omega
  · rfl

theorem toNat_get_of_move? (h : b.move? source target units = some b') (other : Bucket) :
    (b'.get other).toNat + (if other = source then units.toNat else 0) =
      (b.get other).toNat + if other = target then units.toNat else 0 := by
  obtain ⟨c, hc, hb'⟩ := Option.bind_eq_some_iff.mp h
  have hdebit := toNat_get_of_debit? hc other
  have hcredit := toNat_get_of_credit? hb' other
  omega

theorem exists_credit? {k : Bucket} {u : Amount}
    (h : (b.get k).toNat + u.toNat < UInt64.size) : ∃ b', b.credit? k u = some b' := by
  obtain ⟨v, hv⟩ := Option.isSome_iff_exists.mp (isSome_add?_iff.mpr h)
  exact ⟨_, by rw [credit?, hv]; rfl⟩

theorem exists_debit? {k : Bucket} {u : Amount} (h : u.toNat ≤ (b.get k).toNat) :
    ∃ b', b.debit? k u = some b' := by
  obtain ⟨v, hv⟩ := Option.isSome_iff_exists.mp (isSome_sub?_iff.mpr h)
  exact ⟨_, by rw [debit?, hv]; rfl⟩

theorem exists_move? {s t : Bucket} {u : Amount} (hsource : u.toNat ≤ (b.get s).toNat)
    (htarget : (b.get t).toNat + u.toNat < UInt64.size) : ∃ b', b.move? s t u = some b' := by
  obtain ⟨c, hc⟩ := exists_debit? hsource
  have hother := toNat_get_of_debit? hc t
  obtain ⟨b', hb'⟩ := exists_credit? (b := c) (k := t) (u := u) (by omega)
  exact ⟨b', by rw [move?, hc]; exact hb'⟩

/-- What was taken out of a bucket can be put back. -/
theorem credit?_of_debit? (h : b.debit? bucket units = some b') :
    b'.credit? bucket units = some b := by
  obtain ⟨v, hv, rfl⟩ := Option.map_eq_some_iff.mp h
  rw [credit?, get_set, if_pos rfl, add?_of_sub? hv, Option.map_some]
  cases bucket <;> rfl

/-! ### Counted units after a change -/

theorem sum_eq (b : Balance) :
    b.sum = (b.get .free).toNat + (b.get .locked).toNat + (b.get .held).toNat +
      (b.get .frozen).toNat := rfl

theorem toNat_get_le_sum (b : Balance) {k : Bucket} (hcounted : k ≠ .cleared) :
    (b.get k).toNat ≤ b.sum := by
  rw [sum_eq]
  cases k <;> simp at hcounted ⊢ <;> omega

/-- Two different buckets that count hold no more than the sum. -/
theorem toNat_get_add_get_le_sum (b : Balance) (hsource : source ≠ .cleared)
    (htarget : target ≠ .cleared) (hne : source ≠ target) :
    (b.get source).toNat + (b.get target).toNat ≤ b.sum := by
  rw [sum_eq]
  cases source <;> cases target <;> simp at hsource htarget hne ⊢ <;> omega

theorem sum_of_credit? (h : b.credit? bucket units = some b') (hcounted : bucket ≠ .cleared) :
    b'.sum = b.sum + units.toNat := by
  have hget := toNat_get_of_credit? h
  rw [sum_eq, sum_eq, hget, hget, hget, hget]
  cases bucket <;> simp at hcounted ⊢ <;> omega

theorem sum_of_debit? (h : b.debit? bucket units = some b') (hcounted : bucket ≠ .cleared) :
    b'.sum + units.toNat = b.sum := by
  have hget := toNat_get_of_debit? h
  rw [sum_eq, sum_eq b, ← hget, ← hget, ← hget, ← hget]
  cases bucket <;> simp at hcounted ⊢ <;> omega

theorem sum_of_move? (h : b.move? source target units = some b') (hsource : source ≠ .cleared)
    (htarget : target ≠ .cleared) : b'.sum = b.sum := by
  obtain ⟨c, hc, hb'⟩ := Option.bind_eq_some_iff.mp h
  have hdebit := sum_of_debit? hc hsource
  have hcredit := sum_of_credit? hb' htarget
  omega

/-- Reserved units do not count. -/
theorem sum_of_credit?_cleared (h : b.credit? .cleared units = some b') : b'.sum = b.sum := by
  have hget := toNat_get_of_credit? h
  rw [sum_eq, sum_eq, hget, hget, hget, hget]
  simp

theorem sum_of_debit?_cleared (h : b.debit? .cleared units = some b') : b'.sum = b.sum := by
  have hget := toNat_get_of_debit? h
  rw [sum_eq, sum_eq b, ← hget, ← hget, ← hget, ← hget]
  simp

end Balance

end CouponBond
