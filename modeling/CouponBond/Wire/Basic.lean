import CouponBond.BondId
import CouponBond.Identifier
import CouponBond.Json.Reader
import CouponBond.SortedMap
import CouponBond.Word256

/-!
# The wire format

How values of the library are written as JSON and read back.

## Main Definitions

* `Wire` — a type with a written form: `encode` and `read?`
* `decode?`, `decodeText?` — what a JSON value or a JSON text stands for
* `Record` — the fields of a record, by name; `Tree.record?` reads one
* `Tree.variant?`, `Json.withTag` — values that name their variant in a member
* `Tree.word?` — values that are one of a few words
* `KeyText` — a type whose values name the members of a map

## Design Notes

A record is an object in which no declared name occurs twice and others are ignored, or
an array of its fields in the declared order from which fields at the end may be missing.
A field that has a default may be absent; `null` is not absence, except for an option.

A value that names its variant is read as a whole before the variant is known, so every
part of it has to have a value, known or not.  Inside it (`Site.variant`) more forms are
taken: a variant may be named by its place in the declared order, and a word may stand
over an empty object.
-/

namespace CouponBond

open Json (Tree)

/-- Where a value stands. -/
inductive Site where
  /-- Outside every value that names its variant. -/
  | plain
  /-- Inside a value that names its variant. -/
  | variant
deriving DecidableEq, Repr

/-- A type with a written form. -/
class Wire (α : Type) where
  /-- The written form of a value. -/
  encode : α → Json
  /-- The value that is written at a place, if it is one. -/
  read? : Site → Tree → Option α

export Wire (encode read?)

/-- What a JSON value stands for. -/
def decode? {α : Type} [Wire α] (j : Json) : Option α := read? .plain j.tree

/-- What a JSON text stands for. -/
def decodeText? {α : Type} [Wire α] (text : String) : Option α :=
  (Tree.parse? text).bind (read? .plain)

/-! ### Scalars -/

instance : Wire Bool where
  encode b := .bool b
  read? _
    | .bool b => some b
    | _ => none

instance : Wire String where
  encode s := .str s
  read? _
    | .str s => some s
    | _ => none

instance : Wire UInt64 where
  encode n := .nat n.toNat
  read? _
    | .int (.ofNat n) => if n < UInt64.size then some (UInt64.ofNat n) else none
    | _ => none

instance : Wire UInt8 where
  encode n := .nat n.toNat
  read? _
    | .int (.ofNat n) => if n < UInt8.size then some (UInt8.ofNat n) else none
    | _ => none

/-- The value of a string that a reader accepts. -/
def readText? {α : Type} (parse? : String → Option α) : Tree → Option α
  | .str s => parse? s
  | _ => none

instance : Wire Address where
  encode a := .str a.text
  read? _ := readText? fun s => (Address.parse s).toOption

instance : Wire Partition where
  encode p := .str p.text
  read? _ := readText? fun s => (Partition.parse s).toOption

instance : Wire Word256 where
  encode w := .str w.text
  read? _ := readText? Word256.parse?

instance : Wire BondId where
  encode b := .str b.text
  read? _ := readText? BondId.parse?

/-! ### Containers -/

instance {α : Type} [Wire α] : Wire (Option α) where
  encode
    | some a => encode a
    | none => .null
  read? site
    | .null => some none
    | t => (read? site t).map some

instance {α : Type} [Wire α] : Wire (List α) where
  encode l := .arr (l.map encode)
  read? site
    | .arr items => items.mapM (read? site)
    | _ => none

instance {α β : Type} [Wire α] [Wire β] : Wire (α × β) where
  encode p := .arr [encode p.1, encode p.2]
  read? site
    | .arr [a, b] => do return (← read? site a, ← read? site b)
    | _ => none

/-- A type whose values name the members of a map. -/
class KeyText (K : Type) where
  /-- The name of a value. -/
  keyText : K → String
  /-- The value of a name. -/
  readKey? : Json.Name → Option K

instance : KeyText Address where
  keyText := Address.text
  readKey? name := (Address.parse name.text).toOption

instance : KeyText Partition where
  keyText := Partition.text
  readKey? name := (Partition.parse name.text).toOption

/-- The number that digits without a leading zero stand for. -/
def readNumberKey? (s : String) : Option UInt64 :=
  let digits := s.toList
  let n := Nat.ofDigitChars 10 digits 0
  if digits.all Char.isDigit && !digits.isEmpty && (digits.head? != some '0' || digits == ['0'])
      && decide (n < UInt64.size) then
    some (UInt64.ofNat n)
  else none

/-- A number names a member only if its digits are written as they are. -/
instance : KeyText UInt64 where
  keyText n := String.ofList (Nat.toDigits 10 n.toNat)
  readKey? name := if name.isPlain then readNumberKey? name.text else none

instance {K V : Type} [Ranked K] [KeyText K] [Wire V] : Wire (SortedMap K V) where
  encode m := .obj (m.entries.map fun e => (KeyText.keyText e.1, encode e.2))
  read? site
    | .obj members => do
      let entries ← members.mapM fun m => do
        return (← KeyText.readKey? m.1, ← read? site m.2)
      return .ofList entries
    | _ => none

/-! ### Records -/

/-- The fields of a record by name. -/
structure Record where
  /-- Where the record stands. -/
  site : Site
  fields : List (String × Tree)

namespace Record

/-- A field that has to be present. -/
def required {α : Type} [Wire α] (r : Record) (name : String) : Option α :=
  (r.fields.lookup name).bind (read? r.site)

/-- A field that has a default. -/
def withDefault {α : Type} [Wire α] (r : Record) (name : String) (absent : α) : Option α :=
  match r.fields.lookup name with
  | none => some absent
  | some t => read? r.site t

/-- A field that may be absent. -/
def optional {α : Type} [Wire α] (r : Record) (name : String) : Option (Option α) :=
  r.withDefault name none

end Record

/-- The names of the fields of a record, in their order. -/
abbrev FieldNames := List String

/-- The variants of a type in their order, each with the names of its fields. -/
abbrev Layout := List (String × FieldNames)

/-- A record that names its variant in a member. -/
def Json.withTag (tag variant : String) : Json → Json
  | .obj members => .obj ((tag, .str variant) :: members)
  | other => other

namespace Json.Tree

/-- The record with the declared names. -/
def record? (site : Site) (names : FieldNames) : Tree → Option Record
  | .obj members =>
    if names.all fun name => (members.filter fun m => m.1.text == name).length ≤ 1 then
      some ⟨site, members.map fun m => (m.1.text, m.2)⟩
    else none
  | .arr items => if items.length ≤ names.length then some ⟨site, names.zip items⟩ else none
  | _ => none

/-- The variant that a label names: its word, or inside a variant also its place. -/
def label? (site : Site) (variants : List String) : Tree → Option String
  | .str variant => some variant
  | .int (.ofNat place) => if site = .variant then variants[place]? else none
  | _ => none

/-- The variant that a value names, and the rest of the value.  An array names its variant
in its first item. -/
def tagged? (site : Site) (tag : String) (variants : List String) :
    Tree → Option (String × Tree)
  | .obj members =>
    match members.filter fun m => m.1.text == tag with
    | [(_, label)] => do
      let variant ← label? site variants label
      return (variant, .obj (members.filter fun m => m.1.text != tag))
    | _ => none
  | .arr (label :: rest) => do return (← label? site variants label, .arr rest)
  | _ => none

/-- The variant that a value names, and its fields. -/
def variant? (site : Site) (tag : String) (layout : Layout) (t : Tree) :
    Option (String × Record) :=
  if t.value?.isSome then do
    let (variant, body) ← t.tagged? site tag (layout.map Prod.fst)
    let names ← layout.lookup variant
    return (variant, ← body.record? .variant names)
  else none

/-- Whether a value says nothing: `null`, and inside a variant also an empty object. -/
def isNothing (site : Site) : Tree → Bool
  | .null => true
  | .obj [] => site = .variant
  | _ => false

/-- The word that a value consists of, alone or as the name of nothing. -/
def word? (site : Site) : Tree → Option String
  | .str word => some word
  | .obj [(name, body)] => if body.isNothing site then some name.text else none
  | _ => none

end Json.Tree

end CouponBond
