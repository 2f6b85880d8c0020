import CouponBond.Text.Hex
import CouponBond.Text.Unprintable

/-!
# Quoted text

How a string or a character is shown inside a message: between quotation marks,
with the mark itself and the backslash escaped, the usual short escapes for line
ends, tabs and the zero character, and every other unprintable character given
by its number.

## Main Definitions

* `Quoted.string` — a string between double quotation marks
* `Quoted.char` — a character between single quotation marks
-/

namespace CouponBond.Quoted

/-- A character given by its number in hexadecimal, without padding. -/
def numbered (c : Char) : List Char :=
  ['\\', 'u', '{'] ++ Hex.trimmed 6 c.toNat ++ ['}']

/-- A character as it stands between the marks `mark`. -/
def escape (mark c : Char) : List Char :=
  if c = mark ∨ c = '\\' then ['\\', c]
  else if c = '\n' then ['\\', 'n']
  else if c = '\r' then ['\\', 'r']
  else if c = '\t' then ['\\', 't']
  else if c = Char.ofNat 0 then ['\\', '0']
  else if Unprintable.contains c then numbered c
  else [c]

/-- Characters between two marks. -/
def between (mark : Char) (cs : List Char) : String :=
  String.ofList (mark :: (cs.flatMap (escape mark) ++ [mark]))

/-- A string between double quotation marks. -/
def string (s : String) : String := between '"' s.toList

/-- A character between single quotation marks. -/
def char (c : Char) : String := between '\'' [c]

end CouponBond.Quoted
