/-!
# JSON values

The data format in which states, commands and answers are exchanged.

## Main Definitions

* `Json` — a value; an object keeps its members in the order they were written
* `Json.member?`, `Json.canonical` — look-up, and the form with every object sorted

## Design Notes

Whole numbers of at most 64 bits are numbers here; every other number is kept as
it was written, because nothing in the library computes with fractions.  An object
may hold a name twice: text may, and whoever reads a record decides what that means.
-/

namespace CouponBond

/-- A JSON value. -/
inductive Json where
  | null
  | bool (value : Bool)
  /-- A whole number between -2^63 and 2^64 - 1. -/
  | int (value : Int)
  /-- Any other number, as written. -/
  | decimal (digits : String)
  | str (value : String)
  | arr (items : List Json)
  | obj (members : List (String × Json))
deriving Inhabited

namespace Json

/-- Whether a string literal may hold a character as it is: it is neither a quotation mark
nor a backslash nor below the space. -/
def isPlain (c : Char) : Bool := c != '"' && c != '\\' && decide (32 ≤ c.toNat)

/-- A natural number as a value. -/
def nat (n : Nat) : Json := .int n

/-- The value of a name in an object; the first counts. -/
def member? (j : Json) (name : String) : Option Json :=
  match j with
  | .obj members => members.lookup name
  | _ => none

/-- Put a member in its place in a list sorted by name, replacing one of the same name. -/
def insertMember (name : String) (value : Json) : List (String × Json) → List (String × Json)
  | [] => [(name, value)]
  | (n, v) :: rest =>
    if name = n then (n, value) :: rest
    else if name < n then (name, value) :: (n, v) :: rest
    else (n, v) :: insertMember name value rest

/-- Members sorted by name; of two with one name the later counts. -/
def sortMembers (members : List (String × Json)) : List (String × Json) :=
  members.foldl (fun sorted m => insertMember m.1 m.2 sorted) []

mutual

/-- The value with every object, at any depth, sorted by name without repetition. -/
def canonical : Json → Json
  | .arr items => .arr (canonicalItems items)
  | .obj members => .obj (sortMembers (canonicalMembers members))
  | other => other

/-- The canonical forms of the items of an array. -/
def canonicalItems : List Json → List Json
  | [] => []
  | item :: rest => item.canonical :: canonicalItems rest

/-- The canonical forms of the values of an object, under their names. -/
def canonicalMembers : List (String × Json) → List (String × Json)
  | [] => []
  | (name, value) :: rest => (name, value.canonical) :: canonicalMembers rest

end

end Json

end CouponBond
