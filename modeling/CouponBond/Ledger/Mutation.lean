import CouponBond.Ledger.Basic

/-!
# Changes of the ledger

Issue, transfer and redemption, and the three ways of encumbering units and setting
them free again.

## Main Definitions

* `Ledger.Mutation` — a change that may be refused
* `Ledger.withRow` — the only way in which a balance is written
* `Ledger.issue`, `Ledger.transfer`, `Ledger.redeem`
* `Ledger.lock`, `Ledger.createHold`, `Ledger.freeze`, `Ledger.createClearing` and what
  ends each of them

## Design Notes

A mutation carries the ledger through refusals too: what was written before a refusal
stays written, so that a mutation leaves the ledger alone when it is refused is a fact
about the mutation and not about the type.

The additions and subtractions of buckets, supply, records and counters are exact
(`Ledger.exactly`).  Where one leaves the 64-bit range a running system stops, and the refusal
`outOfRange` stands for that stop: it is no answer that a caller gets to see.  An accounted
ledger keeps every bucket and supply in range, so only a counter that is at the largest number
is left to cause it.
-/

namespace CouponBond

/-- A book with another row of a holder; a row of zeros is dropped. -/
def Book.withRow (b : Book) (holder : Address) (balance : Balance) : Book :=
  { b with balances :=
      if balance = .zero then b.balances.erase holder else b.balances.insert holder balance }

namespace Ledger

/-- A change of the ledger that may be refused. -/
abbrev Mutation := EStateM LedgerError Ledger

/-! ### Parts -/

/-- The value of an option, or a refusal. -/
def orRefuse {α : Type} (refusal : LedgerError) : Option α → Mutation α
  | some a => pure a
  | none => throw refusal

/-- The result of exact arithmetic; without one, the stop that `outOfRange` stands for. -/
def exactly {α : Type} : Option α → Mutation α := orRefuse .outOfRange

/-- Refuse an amount of zero. -/
def requirePositive (amount : Amount) : Mutation Unit :=
  if amount = 0 then throw .zeroAmount else pure ()

/-- Refuse an amount that a holder cannot spend. -/
def requireAvailable (holder : Address) (partition : Partition) (balance : Balance)
    (amount : Amount) : Mutation Unit :=
  if balance.available < amount then
    throw (.insufficientBalance holder partition amount balance.available)
  else pure ()

/-- The ledger with another supply of a partition. -/
def withSupply (l : Ledger) (partition : Partition) (supply : Amount) : Ledger :=
  { l with books := l.books.insert partition { l.book partition with totalSupply := supply } }

/-- The ledger with another row of a holder, and the registry in line with it. -/
def withRow (l : Ledger) (holder : Address) (partition : Partition) (balance : Balance) :
    Ledger :=
  let book := (l.book partition).withRow holder balance
  let next := { l with books := l.books.insert partition book }
  { next with
    registry := l.registry.reconcile holder partition balance.total (next.holdingOf holder) }

/-- Write a row. -/
def writeRow (holder : Address) (partition : Partition) (balance : Balance) : Mutation Unit :=
  modify fun l => l.withRow holder partition balance

/-! ### Issue, transfer, redemption -/

/-- Create free units for a holder. -/
def issue (holder : Address) (partition : Partition) (amount : Amount) : Mutation Unit :=
  if amount = 0 then pure ()
  else do
    let ledger ← get
    let supply ← orRefuse (.supplyOverflow partition)
      (Unsigned.add? (ledger.totalSupply partition) amount)
    if Unsigned.greatest.toNat < ledger.totalSupplyAll + amount.toNat then
      throw .bondSupplyOverflow
    let balance ← exactly ((ledger.balanceOf holder partition).credit? .free amount)
    modify fun l => l.withSupply partition supply
    writeRow holder partition balance

/-- Move available units from one holder to another. -/
def transfer (source destination : Address) (partition : Partition) (amount : Amount) :
    Mutation Unit := do
  let ledger ← get
  let sender := ledger.balanceOf source partition
  requireAvailable source partition sender amount
  if amount = 0 ∨ source = destination then pure ()
  else
    let receiver := ledger.balanceOf destination partition
    let sender ← exactly (sender.debit? .free amount)
    let receiver ← exactly (receiver.credit? .free amount)
    writeRow source partition sender
    writeRow destination partition receiver

/-- Destroy available units of a holder. -/
def redeem (holder : Address) (partition : Partition) (amount : Amount) : Mutation Unit := do
  let ledger ← get
  let balance := ledger.balanceOf holder partition
  requireAvailable holder partition balance amount
  if amount = 0 then pure ()
  else
    let balance ← exactly (balance.debit? .free amount)
    let supply ← exactly (Unsigned.sub? (ledger.totalSupply partition) amount)
    modify fun l => l.withSupply partition supply
    writeRow holder partition balance

/-! ### Locks -/

/-- Lock available units until a date; the answer is the number of the lock. -/
def lock (holder : Address) (partition : Partition) (amount : Amount) (expiration : Timestamp) :
    Mutation LockId := do
  let ledger ← get
  let balance := ledger.balanceOf holder partition
  requirePositive amount
  requireAvailable holder partition balance amount
  let balance ← exactly (balance.move? .free .locked amount)
  let id ← exactly (Unsigned.add? ledger.lockCounter 1)
  modify fun l => { l with
    lockCounter := id
    locks := l.locks.insert id ⟨id, holder, partition, amount, expiration⟩ }
  writeRow holder partition balance
  return id

/-- Give the units of an expired lock back to its holder; the answer is the lock. -/
def releaseLock (id : LockId) (now : Timestamp) : Mutation Lock := do
  let ledger ← get
  let record ← orRefuse (.lockNotFound id) (ledger.locks.get? id)
  if now < record.expiration then
    throw (.lockExpirationNotReached id record.expiration now)
  let balance ← exactly
    ((ledger.balanceOf record.holder record.partition).move? .locked .free record.amount)
  modify fun l => { l with locks := l.locks.erase id }
  writeRow record.holder record.partition balance
  return record

/-! ### Holds -/

/-- Put available units in escrow; the answer is the number of the hold. -/
def createHold (holder : Address) (partition : Partition) (amount : Amount) (escrow : Address)
    (destination : Option Address) (expiration : Timestamp) : Mutation HoldId := do
  let ledger ← get
  let balance := ledger.balanceOf holder partition
  requirePositive amount
  requireAvailable holder partition balance amount
  let balance ← exactly (balance.move? .free .held amount)
  let id ← exactly (Unsigned.add? ledger.holdCounter 1)
  modify fun l => { l with
    holdCounter := id
    holds := l.holds.insert id ⟨id, holder, partition, amount, escrow, destination, expiration⟩ }
  writeRow holder partition balance
  return id

/-- The hold with a number, if it covers a positive amount. -/
def coveringHold (id : HoldId) (amount : Amount) : Mutation Hold := do
  requirePositive amount
  let record ← orRefuse (.holdNotFound id) ((← get).holds.get? id)
  if record.amount < amount then
    throw (.holdAmountExceeded id amount record.amount)
  return record

/-- Take units off the hold kept under a number and drop it when nothing is left. -/
def consumeHold (id : HoldId) (record : Hold) (amount : Amount) : Mutation Unit := do
  let rest ← exactly (Unsigned.sub? record.amount amount)
  modify fun l => { l with
    holds :=
      if rest = 0 then l.holds.erase id
      else l.holds.insert id { record with amount := rest } }

/-- Pay held units out before the hold expires. -/
def executeHold (id : HoldId) (destination : Address) (amount : Amount) (now : Timestamp) :
    Mutation Unit := do
  let record ← coveringHold id amount
  if record.expiration ≤ now then
    throw (.holdExpired id record.expiration now)
  match record.destination with
  | none => pure ()
  | some expected =>
    if expected = destination then pure ()
    else throw (.holdDestinationMismatch id expected destination)
  let sender ← exactly
    (((← get).balanceOf record.holder record.partition).debit? .held amount)
  writeRow record.holder record.partition sender
  let receiver ← exactly
    (((← get).balanceOf destination record.partition).credit? .free amount)
  writeRow destination record.partition receiver
  consumeHold id record amount

/-- Give held units back to their holder. -/
def releaseHold (id : HoldId) (amount : Amount) : Mutation Unit := do
  let record ← coveringHold id amount
  let balance ← exactly
    (((← get).balanceOf record.holder record.partition).move? .held .free amount)
  writeRow record.holder record.partition balance
  consumeHold id record amount

/-! ### Freezing -/

/-- Freeze available units. -/
def freeze (holder : Address) (partition : Partition) (amount : Amount) : Mutation Unit := do
  let balance := (← get).balanceOf holder partition
  requirePositive amount
  requireAvailable holder partition balance amount
  let balance ← exactly (balance.move? .free .frozen amount)
  writeRow holder partition balance

/-- Set frozen units free. -/
def unfreeze (holder : Address) (partition : Partition) (amount : Amount) : Mutation Unit := do
  let balance := (← get).balanceOf holder partition
  requirePositive amount
  if balance.frozen < amount then
    throw (.insufficientFrozenBalance holder partition amount balance.frozen)
  let balance ← exactly (balance.move? .frozen .free amount)
  writeRow holder partition balance

/-! ### Clearing -/

/-- Reserve free units for a transfer that awaits approval; the answer is its number. -/
def createClearing (source destination : Address) (partition : Partition) (amount : Amount)
    (expiration : Timestamp) : Mutation ClearingId := do
  let ledger ← get
  let balance := ledger.balanceOf source partition
  requirePositive amount
  requireAvailable source partition balance amount
  let balance ← exactly (balance.credit? .cleared amount)
  let id ← exactly (Unsigned.add? ledger.clearingCounter 1)
  modify fun l => { l with
    clearingCounter := id
    clearings :=
      l.clearings.insert id ⟨id, source, destination, partition, amount, expiration⟩ }
  writeRow source partition balance
  return id

/-- Carry out a clearing before it expires; the answer is its record. -/
def approveClearing (id : ClearingId) (now : Timestamp) : Mutation Clearing := do
  let ledger ← get
  let record ← orRefuse (.clearingNotFound id) (ledger.clearings.get? id)
  if record.expiration ≤ now then
    throw (.clearingExpired id record.expiration now)
  let sender ← exactly
    (((ledger.balanceOf record.source record.partition).debit? .cleared record.amount).bind
      fun b => b.debit? .free record.amount)
  modify fun l => { l with clearings := l.clearings.erase id }
  writeRow record.source record.partition sender
  let receiver ← exactly
    (((← get).balanceOf record.destination record.partition).credit? .free record.amount)
  writeRow record.destination record.partition receiver
  return record

/-- Drop a clearing and its reservation; the answer is its record. -/
def cancelClearing (id : ClearingId) : Mutation Clearing := do
  let ledger ← get
  let record ← orRefuse (.clearingNotFound id) (ledger.clearings.get? id)
  let balance ← exactly
    ((ledger.balanceOf record.source record.partition).debit? .cleared record.amount)
  modify fun l => { l with clearings := l.clearings.erase id }
  writeRow record.source record.partition balance
  return record

end Ledger

end CouponBond
