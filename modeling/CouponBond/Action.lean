import CouponBond.Coupon

/-!
# Corporate actions

The payments scheduled on a bond, numbered from 1 in the order in which they were
accepted, with a second numbering for each kind of payment.

## Main Definitions

* `ActionKind`, `ActionType` — the payment of an action, and its kind alone
* `Action` — a numbered payment and the snapshot taken for it
* `ActionStore` — the actions, with `append?`, `get?`, `idOfIndex?`, `linkSnapshot?`

## Design Notes

Number 0 is never valid, and a snapshot number of 0 means that no snapshot was
taken; the number of a snapshot is written at most once.

A store whose next action would get a number outside the 64-bit range is full: nothing can
be added to it.

The number of an action is its place, and `linkSnapshot?` writes at the place of the number
that the found action bears.  In a store whose actions bear other numbers that place may not
exist; the answer is an error then, where a running system stops.
-/

namespace CouponBond

/-- A kind of scheduled payment. -/
inductive ActionType where
  | coupon
  | dividend
deriving DecidableEq, Repr

/-- The payment of a corporate action. -/
inductive ActionKind where
  | coupon (coupon : Coupon)
  | dividend (dividend : Dividend)
deriving DecidableEq, Repr

namespace ActionKind

/-- The kind of the payment. -/
def type : ActionKind → ActionType
  | .coupon _ => .coupon
  | .dividend _ => .dividend

/-- Date at which the entitled balances are fixed. -/
def recordDate : ActionKind → Timestamp
  | .coupon c => c.recordDate
  | .dividend d => d.recordDate

/-- The coupon, if the payment is one. -/
def coupon? : ActionKind → Option Coupon
  | .coupon c => some c
  | .dividend _ => none

end ActionKind

/-- A numbered payment. -/
structure Action where
  id : ActionId
  kind : ActionKind
  /-- The snapshot taken at the record date, 0 before it is taken. -/
  snapshotId : SnapshotId
deriving DecidableEq, Repr

/-- Whether the snapshot of an action was taken. -/
def Action.hasSnapshot (a : Action) : Bool := a.snapshotId != 0

/-- The refusal of a number that addresses no action. -/
structure ActionError where
  /-- The number that was asked for. -/
  id : UInt64
deriving DecidableEq, Repr

/-- The text of a refused number. -/
def ActionError.message (e : ActionError) : String :=
  s!"Wrong index for action: {e.id}"

/-- The element with a number that counts from 1. -/
def nth? {α : Type} (l : List α) (number : UInt64) : Option α :=
  if number = 0 then none else l[number.toNat - 1]?

/-- The actions of a bond in the order of their numbers. -/
structure ActionStore where
  actions : List Action
  /-- Numbers of the coupons, first coupon first. -/
  couponIds : List ActionId
  /-- Numbers of the dividends, first dividend first. -/
  dividendIds : List ActionId
deriving DecidableEq, Repr

namespace ActionStore

/-- The store without actions. -/
def empty : ActionStore := ⟨[], [], []⟩

instance : Inhabited ActionStore := ⟨empty⟩

/-- Number of actions. -/
def count (s : ActionStore) : Nat := s.actions.length

/-- Numbers of the actions of one kind. -/
def idsOf (s : ActionStore) : ActionType → List ActionId
  | .coupon => s.couponIds
  | .dividend => s.dividendIds

/-- Number of actions of one kind. -/
def countOf (s : ActionStore) (type : ActionType) : Nat := (s.idsOf type).length

/-- The number that the next action gets, unless the store is full. -/
def nextId? (s : ActionStore) : Option ActionId :=
  if s.count + 1 < UInt64.size then some (UInt64.ofNat (s.count + 1)) else none

/-- The store with a numbered action behind the others. -/
def push (s : ActionStore) (id : ActionId) (kind : ActionKind) : ActionStore :=
  let actions := s.actions ++ [⟨id, kind, 0⟩]
  match kind.type with
  | .coupon => { s with actions, couponIds := s.couponIds ++ [id] }
  | .dividend => { s with actions, dividendIds := s.dividendIds ++ [id] }

/-- Add an action behind the others; the answer is its number. -/
def append? (s : ActionStore) (kind : ActionKind) : Option (ActionId × ActionStore) :=
  s.nextId?.map fun id => (id, s.push id kind)

/-- The action with a number. -/
def get? (s : ActionStore) (id : ActionId) : Except ActionError Action :=
  match nth? s.actions id with
  | some a => .ok a
  | none => .error ⟨id⟩

/-- The number of the action that comes at a place, from 1, among those of its kind. -/
def idOfIndex? (s : ActionStore) (type : ActionType) (index : UInt64) :
    Except ActionError ActionId :=
  match nth? (s.idsOf type) index with
  | some id => .ok id
  | none => .error ⟨index⟩

/-- Write the snapshot number of an action that has none; the answer says whether it was
written.  The record written is the one that the found action's own number addresses. -/
def linkSnapshot? (s : ActionStore) (id : ActionId) (snapshotId : SnapshotId) :
    Except ActionError (Bool × ActionStore) := do
  let found ← s.get? id
  let target ← s.get? found.id
  if target.hasSnapshot then return (false, s)
  return (true, { s with
    actions := s.actions.set (found.id.toNat - 1) { target with snapshotId } })

end ActionStore

end CouponBond
