import CouponBond.Text.Hex

/-!
# Bond identifiers

A bond instance is named by a 128-bit universally unique identifier.

## Main Definitions

* `BondId` — the identifier
* `BondId.text` — the written form: 8, 4, 4, 4 and 12 lower-case digits with hyphens
* `BondId.parse?` — reading, which also takes the digits without hyphens, the
  hyphenated form in braces, and the hyphenated form as a `urn:uuid:` name in any case
-/

namespace CouponBond

/-- A 128-bit identifier of a bond instance. -/
structure BondId where
  /-- The identifier as a number. -/
  bits : BitVec 128
deriving DecidableEq, Repr

namespace BondId

/-- The identifier whose bits are all zero. -/
def nil : BondId := ⟨0⟩

instance : Inhabited BondId := ⟨nil⟩

/-- Cut a list after the given lengths. -/
def groups {α : Type} : List Nat → List α → List (List α)
  | [], rest => [rest]
  | n :: ns, rest => rest.take n :: groups ns (rest.drop n)

/-- The written form. -/
def text (id : BondId) : String :=
  String.ofList (List.intercalate ['-'] (groups [8, 4, 4, 4] (Hex.fixed 32 id.bits.toNat)))

/-- Read exactly 32 digits. -/
def plain? (digits : List Char) : Option BondId :=
  if digits.length = 32 then (Hex.number? digits).map fun n => ⟨BitVec.ofNat 128 n⟩ else none

/-- Read digits in groups of 8, 4, 4, 4 and 12 with hyphens between them. -/
def hyphenated? (cs : List Char) : Option BondId :=
  match groups [8, 1, 4, 1, 4, 1, 4, 1] cs with
  | [a, ['-'], b, ['-'], c, ['-'], d, ['-'], e] => plain? (a ++ b ++ c ++ d ++ e)
  | _ => none

/-- Read the hyphenated form in front of a closing brace. -/
def braced? (cs : List Char) : Option BondId :=
  if cs.drop 36 = ['}'] then hyphenated? (cs.take 36) else none

/-- What stands in front of an identifier as a name, in lower case. -/
def namespaceMark : List Char := ['u', 'r', 'n', ':', 'u', 'u', 'i', 'd', ':']

/-- The identifier that a text stands for. -/
def parse? (text : String) : Option BondId :=
  match text.toList with
  | '{' :: rest => braced? rest
  | cs =>
    if cs.length = 32 then plain? cs
    else if (cs.take 9).map Char.toLower = namespaceMark then hyphenated? (cs.drop 9)
    else hyphenated? cs

end BondId

end CouponBond
