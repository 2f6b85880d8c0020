import CouponBond.Json.Basic
import CouponBond.Text.Hex

/-!
# Printing JSON

## Main Definitions

* `Json.render` — the characters of a value without any blanks
* `Json.print` — the same as a string

## Design Notes

Strings escape the quotation mark, the backslash and the characters below the
space, and nothing else.
-/

namespace CouponBond.Json

/-- A character as it stands in a string literal. -/
def escape (c : Char) : List Char :=
  if c = '"' then ['\\', '"']
  else if c = '\\' then ['\\', '\\']
  else if c = '\n' then ['\\', 'n']
  else if c = '\r' then ['\\', 'r']
  else if c = '\t' then ['\\', 't']
  else if c = Char.ofNat 8 then ['\\', 'b']
  else if c = Char.ofNat 12 then ['\\', 'f']
  else if c.toNat < 32 then '\\' :: 'u' :: Hex.fixed 4 c.toNat
  else [c]

/-- A string literal. -/
def quote (s : String) : List Char := '"' :: (s.toList.flatMap escape ++ ['"'])

/-- The digits of a natural number. -/
def renderNat (n : Nat) : List Char := Nat.toDigits 10 n

/-- The digits of an integer behind its sign. -/
def renderInt : Int → List Char
  | .ofNat n => renderNat n
  | .negSucc n => '-' :: renderNat (n + 1)

mutual

/-- The characters of a value. -/
def render : Json → List Char
  | .null => ['n', 'u', 'l', 'l']
  | .bool true => ['t', 'r', 'u', 'e']
  | .bool false => ['f', 'a', 'l', 's', 'e']
  | .int n => renderInt n
  | .decimal digits => digits.toList
  | .str s => quote s
  | .arr [] => ['[', ']']
  | .arr (item :: rest) => '[' :: (item.render ++ renderItems rest)
  | .obj [] => ['{', '}']
  | .obj ((name, value) :: rest) =>
    '{' :: (quote name ++ ':' :: (value.render ++ renderMembers rest))

/-- The items behind the first one, up to the end of the array. -/
def renderItems : List Json → List Char
  | [] => [']']
  | item :: rest => ',' :: (item.render ++ renderItems rest)

/-- The members behind the first one, up to the end of the object. -/
def renderMembers : List (String × Json) → List Char
  | [] => ['}']
  | (name, value) :: rest =>
    ',' :: (quote name ++ ':' :: (value.render ++ renderMembers rest))

end

/-- The text of a value. -/
def print (j : Json) : String := String.ofList j.render

end CouponBond.Json
