/-!
# The range of numbers

Which written numbers are too large.  A number that is no short whole number is taken as
a binary number of 53 digits times a power of two; it is refused if it rounds to 2^1024
or more, while one that is too small just becomes zero.

## Main Definitions

* `Range.round` — the nearest number of at most 53 binary digits
* `Range.leading` — as many decimal digits as fit in 64 bits
* `Range.contains` — whether a number from its decimal parts is in the range

## Design Notes

The significand and the power of ten are rounded before they are multiplied, and their
product is rounded again, so the bound is where that product overflows.
-/

namespace CouponBond.Json.Range

/-- The nearest number of at most 53 binary digits; of two the one with an even last
digit. -/
def round (n : Nat) : Nat :=
  let shift := n.log2 - 52
  let floor := n >>> shift
  let rest := n - floor <<< shift
  let half := (1 <<< shift) >>> 1
  if half < rest ∨ (rest = half ∧ 0 < rest ∧ floor % 2 = 1) then (floor + 1) <<< shift
  else floor <<< shift

/-- Whether a whole number rounds to one below 2^1024. -/
def isFinite (n : Nat) : Bool := decide (round n < 1 <<< 1024)

/-- Continue a number with decimal digits as long as it fits in 64 bits; also the count of
the digits that are left. -/
def leading (acc : Nat) : List Char → Nat × Nat
  | [] => (acc, 0)
  | c :: rest =>
    let next := 10 * acc + (c.toNat - 48)
    if next < UInt64.size then leading next rest else (acc, rest.length + 1)

/-- The largest power of ten that is in the range. -/
def largestPower : Int := 308

/-- Whether a number is in the range: the digits before and behind its point, and the
power of ten that it is multiplied with. -/
def contains (whole fraction : List Char) (power : Int) : Bool :=
  let (high, left) := leading 0 whole
  let (significand, unused) := leading high fraction
  let power := power + left - (fraction.length - unused : Nat)
  if significand = 0 ∨ power < 0 then true
  else if largestPower < power then false
  else isFinite (round significand * round (Nat.pow 10 power.toNat))

end CouponBond.Json.Range
