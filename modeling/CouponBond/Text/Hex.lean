/-!
# Hexadecimal text

Writing numbers in base sixteen and reading them back.

## Main Definitions

* `Hex.digit`, `Hex.value?` — a lower-case digit and the value of a digit of either case
* `Hex.fixed` — a number in a fixed count of digits, `Hex.capacity` of which there are
* `Hex.trimmed` — the same without leading zeros
* `Hex.number?` — the number that a digit string stands for

## Design Notes

Reading undoes writing: `number?_fixed`.
-/

namespace CouponBond.Hex

/-- The lower-case digit for a value below sixteen. -/
def digit (n : Nat) : Char :=
  if n < 10 then Char.ofNat (48 + n) else Char.ofNat (87 + n)

/-- The value of a digit of either case. -/
def value? (c : Char) : Option Nat :=
  if '0' ≤ c ∧ c ≤ '9' then some (c.toNat - 48)
  else if 'a' ≤ c ∧ c ≤ 'f' then some (c.toNat - 87)
  else if 'A' ≤ c ∧ c ≤ 'F' then some (c.toNat - 55)
  else none

/-- The lowest `width` digits of a number, most significant first. -/
def fixed : Nat → Nat → List Char
  | 0, _ => []
  | width + 1, n => fixed width (n / 16) ++ [digit (n % 16)]

/-- Number of the figures that a width can hold. -/
def capacity : (width : Nat) → Nat
  | 0 => 1
  | width + 1 => 16 * capacity width

/-- The number without leading zeros; zero keeps one digit. -/
def trimmed (width n : Nat) : List Char :=
  match (fixed width n).dropWhile (· == '0') with
  | [] => ['0']
  | digits => digits

/-- Read digits behind a number that is already read. -/
def continue? : Nat → List Char → Option Nat
  | acc, [] => some acc
  | acc, c :: rest => (value? c).bind fun d => continue? (16 * acc + d) rest

/-- The number that a digit string stands for, most significant digit first. -/
def number? (digits : List Char) : Option Nat := continue? 0 digits

theorem value?_digit {n : Nat} (h : n < 16) : value? (digit n) = some n := by
  have : ∀ n < 16, value? (digit n) = some n := by decide
  exact this n h

theorem length_fixed (width n : Nat) : (fixed width n).length = width := by
  induction width generalizing n with
  | zero => rfl
  | succ w ih => simp [fixed, ih]

theorem continue?_append (acc : Nat) (a b : List Char) :
    continue? acc (a ++ b) = (continue? acc a).bind fun m => continue? m b := by
  induction a generalizing acc with
  | nil => rfl
  | cons c rest ih =>
    simp only [List.cons_append, continue?]
    cases value? c <;> simp [ih]

theorem continue?_fixed (acc width n : Nat) :
    continue? acc (fixed width n) = some (acc * capacity width + n % capacity width) := by
  induction width generalizing n with
  | zero => simp [fixed, continue?, capacity, Nat.mod_one]
  | succ w ih =>
    have hd : value? (digit (n % 16)) = some (n % 16) := value?_digit (Nat.mod_lt _ (by decide))
    have hm : n % (16 * capacity w) = n % 16 + 16 * (n / 16 % capacity w) := Nat.mod_mul
    rw [fixed, continue?_append, ih]
    simp only [Option.bind_some, continue?, hd, capacity]
    rw [hm, Nat.mul_add, Nat.mul_left_comm 16 acc (capacity w)]
    congr 1
    omega

/-- A number that fits its width is read back from its fixed digits. -/
theorem number?_fixed {width n : Nat} (h : n < capacity width) :
    number? (fixed width n) = some n := by
  rw [number?, continue?_fixed, Nat.mod_eq_of_lt h, Nat.zero_mul, Nat.zero_add]

end CouponBond.Hex
