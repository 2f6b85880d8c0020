import CouponBond.Text.Hex

/-!
# 256-bit numbers

Entitlements multiply several 64-bit figures, so they are computed in 256 bits
with operations that answer nothing where the exact result does not fit.

## Main Definitions

* `Word256` — an unsigned 256-bit number
* `Word256.ofNat?`, `Word256.mul?`, `Word256.pow?` — the exact result if it fits
* `Word256.text`, `Word256.parse?` — the hexadecimal form

## Design Notes

The written form has no leading zeros.  Reading also takes them, an absent mark, digits of
either case, and blanks, as long as at most 64 characters follow the mark.  The reader
fills bytes from the front by the length of the text, so an odd number of blanks leaves
the last digit without a partner, and it is lost.
-/

namespace CouponBond

/-- An unsigned 256-bit number. -/
abbrev Word256 := BitVec 256

namespace Word256

/-- The number, if it fits: what is left of it in 256 bits is all of it. -/
def ofNat? (n : Nat) : Option Word256 :=
  let a : Word256 := BitVec.ofNat 256 n
  if a.toNat = n then some a else none

/-- A 64-bit quantity as a 256-bit number. -/
def ofUInt64 (n : UInt64) : Word256 := BitVec.ofNat 256 n.toNat

/-- The product, if it fits. -/
def mul? (a b : Word256) : Option Word256 := ofNat? (a.toNat * b.toNat)

/-- A power of a base, if it fits. -/
def pow? (base : Word256) : (exponent : Nat) → Option Word256
  | 0 => some 1
  | exponent + 1 => (pow? base exponent).bind fun power => mul? power base

/-- The product of a list of factors, multiplied from the left as long as it fits. -/
def product? (factors : List Word256) : Option Word256 :=
  factors.foldlM mul? 1

/-- The hexadecimal form. -/
def text (a : Word256) : String :=
  String.ofList ('0' :: 'x' :: Hex.trimmed 64 a.toNat)

/-- The digits behind an optional mark. -/
def unmarked : List Char → List Char
  | '0' :: 'x' :: rest => rest
  | digits => digits

/-- Whether a character may stand between digits. -/
def isBlank (c : Char) : Bool := c == ' ' || c == '\t' || c == '\n' || c == '\r'

/-- The digits that count: all of them, but not the last one if the number of blanks is odd. -/
def counted (cs : List Char) : List Char :=
  let digits := cs.filter fun c => !isBlank c
  if (cs.length - digits.length) % 2 = 1 then digits.dropLast else digits

/-- The number that a hexadecimal text stands for. -/
def parse? (text : String) : Option Word256 :=
  let cs := unmarked text.toList
  if cs.isEmpty || 64 < cs.length then none
  else if cs.all fun c => isBlank c || (Hex.value? c).isSome then
    (Hex.number? (counted cs)).map (BitVec.ofNat 256)
  else none

/-- A number that is answered is the one that was given. -/
theorem toNat_of_ofNat? {n : Nat} {a : Word256} (h : ofNat? n = some a) : a.toNat = n := by
  simp only [ofNat?] at h
  split at h
  · next hfits =>
    cases h
    exact hfits
  · cases h

/-- A product that is answered is exact. -/
theorem toNat_of_mul? {a b c : Word256} (h : mul? a b = some c) :
    c.toNat = a.toNat * b.toNat := toNat_of_ofNat? h

end Word256

end CouponBond
