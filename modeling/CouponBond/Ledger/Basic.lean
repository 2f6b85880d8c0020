import CouponBond.Balance
import CouponBond.Registry
import CouponBond.Unsigned

/-!
# The ledger of a bond

Every holder's balance in every partition, the records that explain the encumbered
buckets, and the registry of holders.

## Main Definitions

* `Lock`, `Hold`, `Clearing` — records of encumbered units
* `Book` — the balances and the supply of one partition
* `Ledger` — all of it, with the reads `balanceOf`, `holdingOf`, `totalSupply`, …
* `LedgerError` — why a change or a check is refused

## Design Notes

A row whose five buckets are all zero is not kept; a book whose last row leaves is.
Sums over several rows are natural numbers; `holdingOf` is the one that is cut off at
the largest amount.
-/

namespace CouponBond

/-! ### Records -/

/-- Units locked until a date. -/
structure Lock where
  id : LockId
  holder : Address
  partition : Partition
  amount : Amount
  expiration : Timestamp
deriving DecidableEq, Repr

/-- Units held in escrow until they are paid out or released. -/
structure Hold where
  id : HoldId
  holder : Address
  partition : Partition
  /-- What is left of the held units. -/
  amount : Amount
  escrow : Address
  /-- The only destination that may be paid, if one was agreed. -/
  destination : Option Address
  expiration : Timestamp
deriving DecidableEq, Repr

/-- Free units of the sender reserved for a transfer that awaits approval. -/
structure Clearing where
  id : ClearingId
  source : Address
  destination : Address
  partition : Partition
  amount : Amount
  expiration : Timestamp
deriving DecidableEq, Repr

/-- A kind of record. -/
inductive RecordKind where
  | lock
  | hold
  | clearing
deriving DecidableEq, Repr

/-- The word for a kind of record. -/
def RecordKind.text : RecordKind → String
  | .lock => "Lock"
  | .hold => "Hold"
  | .clearing => "Clearing"

/-! ### Refusals -/

/-- Why the ledger refuses a change or fails a check. -/
inductive LedgerError where
  | zeroAmount
  | insufficientBalance (holder : Address) (partition : Partition) (required available : Amount)
  | insufficientFrozenBalance (holder : Address) (partition : Partition)
      (required frozen : Amount)
  | lockNotFound (id : LockId)
  | lockExpirationNotReached (id : LockId) (expiration now : Timestamp)
  | holdNotFound (id : HoldId)
  | holdExpired (id : HoldId) (expiration now : Timestamp)
  | holdAmountExceeded (id : HoldId) (requested remaining : Amount)
  | holdDestinationMismatch (id : HoldId) (expected actual : Address)
  | clearingNotFound (id : ClearingId)
  | clearingExpired (id : ClearingId) (expiration now : Timestamp)
  | supplyOverflow (partition : Partition)
  | bondSupplyOverflow
  | conservationViolated (partition : Partition) (supply : Amount) (sum : Nat)
  | recordMismatch (holder : Address) (partition : Partition) (bucket : Bucket)
      (recorded : Nat) (balance : Amount)
  | clearedExceedsFree (holder : Address) (partition : Partition) (cleared free : Amount)
  | recordIdMismatch (kind : RecordKind) (id : UInt64)
  | registryOutOfSync (holder : Address)
  /-- A bucket, the supply, a record or a counter would leave the 64-bit range.  This stands for
  a system that stops, and is not one of the refusals that it answers with. -/
  | outOfRange
deriving DecidableEq, Repr

/-- The text of a refusal. -/
def LedgerError.message : LedgerError → String
  | .zeroAmount => "Amount must be positive"
  | .insufficientBalance holder partition required available =>
    s!"Insufficient balance for {holder} in {partition}: " ++
      s!"required {required}, available {available}"
  | .insufficientFrozenBalance holder partition required frozen =>
    s!"Insufficient frozen balance for {holder} in {partition}: " ++
      s!"required {required}, frozen {frozen}"
  | .lockNotFound id => s!"Lock {id} not found"
  | .lockExpirationNotReached id expiration now =>
    s!"Lock {id} expires at {expiration}, now is {now}"
  | .holdNotFound id => s!"Hold {id} not found"
  | .holdExpired id expiration now => s!"Hold {id} expired at {expiration}, now is {now}"
  | .holdAmountExceeded id requested remaining =>
    s!"Hold {id} has {remaining} remaining, requested {requested}"
  | .holdDestinationMismatch id expected actual =>
    s!"Hold {id} is bound to {expected}, not {actual}"
  | .clearingNotFound id => s!"Clearing {id} not found"
  | .clearingExpired id expiration now =>
    s!"Clearing {id} expired at {expiration}, now is {now}"
  | .supplyOverflow partition => s!"Total supply of {partition} would overflow"
  | .bondSupplyOverflow => "Total supply across partitions would overflow"
  | .conservationViolated partition supply sum =>
    s!"Conservation violated in {partition}: supply {supply}, sum of holders {sum}"
  | .recordMismatch holder partition bucket recorded balance =>
    bucket.text ++ s!" of {holder} in {partition} is {balance}, records add up to {recorded}"
  | .clearedExceedsFree holder partition cleared free =>
    s!"Cleared {cleared} of {holder} in {partition} exceeds free {free}"
  | .recordIdMismatch kind id =>
    kind.text ++ s!" record {id} is inconsistent with the id counter"
  | .registryOutOfSync holder => s!"Holder registry disagrees with balances for {holder}"
  | .outOfRange => "Quantity outside the 64-bit range"

/-! ### The ledger -/

/-- The balances and the supply of one partition. -/
structure Book where
  balances : SortedMap Address Balance
  totalSupply : Amount
deriving DecidableEq

/-- The book of a partition in which nothing was issued. -/
def Book.empty : Book := ⟨.empty, 0⟩

instance : Inhabited Book := ⟨.empty⟩

/-- The row of a holder in a book. -/
def Book.balanceOf (b : Book) (holder : Address) : Balance :=
  (b.balances.get? holder).getD .zero

/-- All balances of a bond with the records that explain them. -/
structure Ledger where
  books : SortedMap Partition Book
  registry : Registry
  locks : SortedMap LockId Lock
  holds : SortedMap HoldId Hold
  clearings : SortedMap ClearingId Clearing
  /-- Number of the last lock. -/
  lockCounter : LockId
  /-- Number of the last hold. -/
  holdCounter : HoldId
  /-- Number of the last clearing. -/
  clearingCounter : ClearingId
deriving DecidableEq

namespace Ledger

/-- The ledger in which nothing was issued. -/
def empty : Ledger := ⟨.empty, .empty, .empty, .empty, .empty, 0, 0, 0⟩

instance : Inhabited Ledger := ⟨empty⟩

/-- The book of a partition; it is empty if the partition is unknown. -/
def book (l : Ledger) (partition : Partition) : Book := (l.books.get? partition).getD .empty

/-- The buckets of a holder in a partition. -/
def balanceOf (l : Ledger) (holder : Address) (partition : Partition) : Balance :=
  (l.book partition).balanceOf holder

/-- What a holder owns in a partition. -/
def totalBalanceOf (l : Ledger) (holder : Address) (partition : Partition) : Amount :=
  (l.balanceOf holder partition).total

/-- What a holder owns over all partitions, cut off at the largest amount. -/
def holdingOf (l : Ledger) (holder : Address) : Amount :=
  (l.books.values.map fun b => (b.balanceOf holder).total).foldl Unsigned.addCapped 0

/-- The partitions in which a holder owns something, in ascending order. -/
def partitionsOf (l : Ledger) (holder : Address) : List Partition :=
  (l.books.filter fun _ b => !(b.balanceOf holder).isEmpty).keys

/-- The supply of a partition. -/
def totalSupply (l : Ledger) (partition : Partition) : Amount := (l.book partition).totalSupply

/-- The supply of all partitions. -/
def totalSupplyAll (l : Ledger) : Nat := l.books.sumOf fun b => b.totalSupply.toNat

end Ledger

end CouponBond
