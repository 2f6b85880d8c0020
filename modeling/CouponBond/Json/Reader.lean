import CouponBond.Json.Range
import CouponBond.Json.Tree

/-!
# Reading JSON

A strict reader: one value, blanks around it, and nothing else.

## Main Definitions

* `Json.Tree.parse?` — the tree of a text
* `Json.parse?` — the value of a text, if every part of it has one

## Design Notes

The reader recurses on a count of steps that the length of the text bounds, since
every step consumes a character or closes a list.  It refuses a control character inside
a string, a leading zero, and a number without digits behind its point or exponent.  A
surrogate escape without its partner, a number out of range, and an array or object that
lies too deep are read to their end and stand for no value; so does an object with a name
that has none.
-/

namespace CouponBond.Json

/-- The characters that may stand between tokens. -/
def isBlank (c : Char) : Bool := c == ' ' || c == '\n' || c == '\r' || c == '\t'

/-- The text behind leading blanks. -/
def skipBlanks (cs : List Char) : List Char := cs.dropWhile isBlank

/-! ### Numbers -/

/-- Split off a non-empty run of digits. -/
def digits? (cs : List Char) : Option (List Char × List Char) :=
  match cs.span Char.isDigit with
  | ([], _) => none
  | (ds, rest) => some (ds, rest)

/-- The whole part of a number: one zero, or digits that do not start with one. -/
def wholePart? (cs : List Char) : Option (List Char × List Char) :=
  match cs with
  | '0' :: rest => some (['0'], rest)
  | _ => digits? cs

/-- The fraction of a number, empty if there is none. -/
def fraction? (cs : List Char) : Option (List Char × List Char) :=
  match cs with
  | '.' :: rest => (digits? rest).map fun (ds, rest) => ('.' :: ds, rest)
  | _ => some ([], cs)

/-- The exponent of a number, empty if there is none. -/
def exponent? (cs : List Char) : Option (List Char × List Char) :=
  match cs with
  | e :: sign :: rest =>
    if e = 'e' ∨ e = 'E' then
      if sign = '+' ∨ sign = '-' then
        (digits? rest).map fun (ds, rest) => (e :: sign :: ds, rest)
      else (digits? (sign :: rest)).map fun (ds, rest) => (e :: ds, rest)
    else some ([], cs)
  | [e] => if e = 'e' ∨ e = 'E' then none else some ([], cs)
  | [] => some ([], [])

/-- The largest absolute value of a negative whole number. -/
def negativeLimit : Nat := 9223372036854775808

/-- The power of ten that an exponent names. -/
def powerOf : List Char → Int
  | _ :: '-' :: digits => -(Nat.ofDigitChars 10 digits 0 : Int)
  | _ :: '+' :: digits | _ :: digits => Nat.ofDigitChars 10 digits 0
  | [] => 0

/-- A number that is no short whole number, from its parts. -/
def decimalOf (negative : Bool) (whole frac expo : List Char) : Tree :=
  if Range.contains whole (frac.drop 1) (powerOf expo) then
    .decimal (String.ofList ((if negative then ['-'] else []) ++ whole ++ frac ++ expo))
  else .void

/-- A number from its parts. -/
def numberOf (negative : Bool) (whole frac expo : List Char) : Tree :=
  let n := Nat.ofDigitChars 10 whole 0
  if !frac.isEmpty || !expo.isEmpty then decimalOf negative whole frac expo
  else if negative then
    if n = 0 ∨ negativeLimit < n then decimalOf true whole [] []
    else .int (Int.negOfNat n)
  else if n < UInt64.size then .int n
  else decimalOf false whole [] []

/-- Read a number. -/
def readNumber (cs : List Char) : Option (Tree × List Char) := do
  let (negative, cs) := match cs with
    | '-' :: rest => (true, rest)
    | _ => (false, cs)
  let (whole, cs) ← wholePart? cs
  let (frac, cs) ← fraction? cs
  let (expo, cs) ← exponent? cs
  return (numberOf negative whole frac expo, cs)

/-! ### Strings -/

/-- The character behind a one-letter escape. -/
def shortEscape? : Char → Option Char
  | '"' => some '"'
  | '\\' => some '\\'
  | '/' => some '/'
  | 'b' => some (Char.ofNat 8)
  | 'f' => some (Char.ofNat 12)
  | 'n' => some '\n'
  | 'r' => some '\r'
  | 't' => some '\t'
  | _ => none

/-- The unit behind a four-digit escape. -/
def unit? (a b c d : Char) : Option Nat := Hex.number? [a, b, c, d]

/-- Whether a unit is the first of a surrogate pair. -/
def isLeading (u : Nat) : Bool := 0xD800 ≤ u && u < 0xDC00

/-- Whether a unit is the second of a surrogate pair. -/
def isTrailing (u : Nat) : Bool := 0xDC00 ≤ u && u < 0xE000

/-- A string literal. -/
structure Literal where
  /-- What it stands for; nothing if it holds half of a surrogate pair. -/
  text? : Option String
  /-- Whether it is written without any escape. -/
  isPlain : Bool

/-- The character of a surrogate pair. -/
def pairOf (u v : Nat) : Char := Char.ofNat (0x10000 + (u - 0xD800) * 0x400 + (v - 0xDC00))

/-- What a literal is known to be while it is read. -/
structure LiteralSoFar where
  /-- The characters, last one first. -/
  chars : List Char
  /-- The first half of a surrogate pair that stands last. -/
  lead? : Option Nat
  /-- Whether a half of a surrogate pair stands alone before. -/
  isBroken : Bool
  isPlain : Bool

namespace LiteralSoFar

/-- No character is read yet. -/
def start : LiteralSoFar := ⟨[], none, false, true⟩

/-- Nothing more can complete the surrogate pair that has begun. -/
def settle (l : LiteralSoFar) : LiteralSoFar :=
  { l with lead? := none, isBroken := l.isBroken || l.lead?.isSome }

/-- Behind a character. -/
def push (l : LiteralSoFar) (c : Char) : LiteralSoFar :=
  let l := l.settle
  { l with chars := c :: l.chars }

/-- Behind an escape. -/
def escaped (l : LiteralSoFar) : LiteralSoFar := { l with isPlain := false }

/-- Behind the escape of a unit. -/
def pushUnit (l : LiteralSoFar) (u : Nat) : LiteralSoFar :=
  match l.lead? with
  | some v =>
    if isTrailing u then { l with chars := pairOf v u :: l.chars, lead? := none }
    else if isLeading u then { l with lead? := some u, isBroken := true }
    else l.push (Char.ofNat u)
  | none =>
    if isLeading u then { l with lead? := some u }
    else if isTrailing u then { l with isBroken := true }
    else l.push (Char.ofNat u)

/-- The literal at its closing mark. -/
def finish (l : LiteralSoFar) : Literal :=
  ⟨if l.settle.isBroken then none else some (String.ofList l.chars.reverse), l.isPlain⟩

end LiteralSoFar

/-- Read the characters of a string up to its closing mark. -/
def readString (sofar : LiteralSoFar) : List Char → Option (Literal × List Char)
  | [] => none
  | '"' :: rest => some (sofar.finish, rest)
  | '\\' :: 'u' :: a :: b :: c :: d :: rest =>
    match unit? a b c d with
    | some u => readString (sofar.escaped.pushUnit u) rest
    | none => none
  | '\\' :: e :: rest =>
    match shortEscape? e with
    | some c => readString (sofar.escaped.push c) rest
    | none => none
  | c :: rest => if isPlain c then readString (sofar.push c) rest else none

/-- The string that a literal stands for. -/
def Literal.tree (l : Literal) : Tree :=
  match l.text? with
  | some s => .str s
  | none => .void

/-- The name that a literal stands for. -/
def Literal.name? (l : Literal) : Option Name := l.text?.map fun text => ⟨text, l.isPlain⟩

/-! ### Values -/

/-- How many arrays and objects may lie in one another. -/
def levelLimit : Nat := 127

/-- The object with the given members. -/
def objectOf (members : List (Literal × Tree)) : Tree :=
  match members.mapM fun m => m.1.name?.map fun name => (name, m.2) with
  | some members => .obj members
  | none => .void

/-- An array or object where so many levels are still allowed. -/
def atLevel (levels : Nat) (t : Tree) : Tree := if levels = 0 then .void else t

mutual

/-- Read one value where so many levels are still allowed. -/
def readValue : (levels steps : Nat) → List Char → Option (Tree × List Char)
  | _, 0, _ => none
  | levels, steps + 1, cs =>
    match skipBlanks cs with
    | 'n' :: 'u' :: 'l' :: 'l' :: rest => some (.null, rest)
    | 't' :: 'r' :: 'u' :: 'e' :: rest => some (.bool true, rest)
    | 'f' :: 'a' :: 'l' :: 's' :: 'e' :: rest => some (.bool false, rest)
    | '"' :: rest => (readString .start rest).map fun (l, rest) => (l.tree, rest)
    | '[' :: rest =>
      match skipBlanks rest with
      | ']' :: rest => some (atLevel levels (.arr []), rest)
      | rest =>
        (readItems (levels - 1) steps [] rest).map fun (items, rest) =>
          (atLevel levels (.arr items), rest)
    | '{' :: rest =>
      match skipBlanks rest with
      | '}' :: rest => some (atLevel levels (.obj []), rest)
      | rest =>
        (readMembers (levels - 1) steps [] rest).map fun (members, rest) =>
          (atLevel levels (objectOf members), rest)
    | rest => readNumber rest

/-- Read items up to the end of the array; `acc` holds those already read, last one
first. -/
def readItems : (levels steps : Nat) → (acc : List Tree) → List Char →
    Option (List Tree × List Char)
  | _, 0, _, _ => none
  | levels, steps + 1, acc, cs =>
    match readValue levels steps cs with
    | none => none
    | some (item, rest) =>
      match skipBlanks rest with
      | ',' :: rest => readItems levels steps (item :: acc) rest
      | ']' :: rest => some ((item :: acc).reverse, rest)
      | _ => none

/-- Read members up to the end of the object; `acc` holds those already read, last one
first. -/
def readMembers : (levels steps : Nat) → (acc : List (Literal × Tree)) → List Char →
    Option (List (Literal × Tree) × List Char)
  | _, 0, _, _ => none
  | levels, steps + 1, acc, cs =>
    match skipBlanks cs with
    | '"' :: rest =>
      match readString .start rest with
      | none => none
      | some (name, rest) =>
        match skipBlanks rest with
        | ':' :: rest =>
          match readValue levels steps rest with
          | none => none
          | some (value, rest) =>
            match skipBlanks rest with
            | ',' :: rest => readMembers levels steps ((name, value) :: acc) rest
            | '}' :: rest => some (((name, value) :: acc).reverse, rest)
            | _ => none
        | _ => none
    | _ => none

end

/-- The tree of a text. -/
def Tree.parse? (text : String) : Option Tree :=
  let cs := text.toList
  match readValue levelLimit (2 * cs.length + 2) cs with
  | some (t, rest) => if (skipBlanks rest).isEmpty then some t else none
  | none => none

/-- The value of a text, if every part of it has one. -/
def parse? (text : String) : Option Json := (Tree.parse? text).bind Tree.value?

end CouponBond.Json
