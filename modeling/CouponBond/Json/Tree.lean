import CouponBond.Json.Printer

/-!
# What a JSON text says

Text can be well formed and still hold parts that stand for no value: a string with half
of a surrogate pair, a number beyond every range, arrays in arrays without end.  Such a
part does no harm where nobody looks at it, so it is kept as a leaf of its own and refused
by whoever wants its value.

## Main Definitions

* `Json.Name` — the name of a member, and whether it is written as it is
* `Json.Tree` — the parts of a text
* `Json.Tree.value?` — the value of a tree, if every part of it has one
* `Json.tree` — the tree of a value

## Design Notes

A value is the value of its tree: `value?_tree`.  Records are read from trees, since a
record ignores members that it does not know.
-/

namespace CouponBond.Json

/-- The name of a member as it stands in a text. -/
structure Name where
  text : String
  /-- Whether it is written without any escape. -/
  isPlain : Bool
deriving DecidableEq, Repr

/-- A name that is escaped only where it has to be. -/
def Name.ofString (text : String) : Name := ⟨text, text.toList.all Json.isPlain⟩

/-- The parts of a JSON text. -/
inductive Tree where
  | null
  | bool (value : Bool)
  | int (value : Int)
  | decimal (digits : String)
  | str (value : String)
  | arr (items : List Tree)
  | obj (members : List (Name × Tree))
  /-- A part that is well formed and stands for no value. -/
  | void
deriving Inhabited

mutual

/-- The value of a tree, if every part of it has one. -/
def Tree.value? : Tree → Option Json
  | .null => some .null
  | .bool b => some (.bool b)
  | .int n => some (.int n)
  | .decimal digits => some (.decimal digits)
  | .str s => some (.str s)
  | .arr items => (Tree.values? items).map .arr
  | .obj members => (Tree.memberValues? members).map .obj
  | .void => none

/-- The values of the items of an array. -/
def Tree.values? : List Tree → Option (List Json)
  | [] => some []
  | item :: rest =>
    match Tree.value? item, Tree.values? rest with
    | some j, some js => some (j :: js)
    | _, _ => none

/-- The values of the members of an object, under their names. -/
def Tree.memberValues? : List (Name × Tree) → Option (List (String × Json))
  | [] => some []
  | (name, value) :: rest =>
    match Tree.value? value, Tree.memberValues? rest with
    | some j, some js => some ((name.text, j) :: js)
    | _, _ => none

end

mutual

/-- The tree of a value. -/
def tree : Json → Tree
  | .null => .null
  | .bool b => .bool b
  | .int n => .int n
  | .decimal digits => .decimal digits
  | .str s => .str s
  | .arr items => .arr (treeItems items)
  | .obj members => .obj (treeMembers members)

/-- The trees of the items of an array. -/
def treeItems : List Json → List Tree
  | [] => []
  | item :: rest => item.tree :: treeItems rest

/-- The trees of the values of an object, under their names. -/
def treeMembers : List (String × Json) → List (Name × Tree)
  | [] => []
  | (name, value) :: rest => (Name.ofString name, value.tree) :: treeMembers rest

end

mutual

/-- Every part of the tree of a value has a value. -/
theorem value?_tree : ∀ j : Json, j.tree.value? = some j
  | .null | .bool _ | .int _ | .decimal _ | .str _ => rfl
  | .arr items => by rw [tree, Tree.value?, values?_treeItems items, Option.map_some]
  | .obj members => by
    rw [tree, Tree.value?, memberValues?_treeMembers members, Option.map_some]

theorem values?_treeItems : ∀ items : List Json, Tree.values? (treeItems items) = some items
  | [] => rfl
  | item :: rest => by rw [treeItems, Tree.values?, value?_tree item, values?_treeItems rest]

theorem memberValues?_treeMembers :
    ∀ members : List (String × Json), Tree.memberValues? (treeMembers members) = some members
  | [] => rfl
  | (name, value) :: rest => by
    rw [treeMembers, Tree.memberValues?, value?_tree value, memberValues?_treeMembers rest]
    rfl

end

end CouponBond.Json
