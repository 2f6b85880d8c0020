import CouponBond.Identifier

/-!
# Guards

Conditions that a host imposes on commands: a pause, a block list, a register of known
customers, a clearing mode, recovered wallets, roles.  They are no part of the bond; the
bond hands each command's context to a chain of them before it looks at the command.

## Main Definitions

* `Operation`, `CommandContext` — what a guard sees of a command
* `Guard`, `GuardChain` — a condition, and a list of them in which the first refusal wins
* `Controls` — the switches and lists behind the guards of a host
* `GuardKind` — the guards that a host can put on the chain

## Design Notes

A guard is any function of the context, so that statements about chains hold whatever
else a host puts on them.
-/

namespace CouponBond

/-- A kind of command, as guards see it. -/
inductive Operation where
  | setCoupon
  | updateMaturityDate
  | issue
  | transfer
  | redeem
  | redeemAtMaturity
  | lock
  | releaseLock
  | createHold
  | executeHold
  | releaseHold
  | freeze
  | unfreeze
  | createClearing
  | approveClearing
  | cancelClearing
deriving DecidableEq, Repr

namespace Operation

/-- Every operation. -/
def all : List Operation :=
  [.setCoupon, .updateMaturityDate, .issue, .transfer, .redeem, .redeemAtMaturity, .lock,
    .releaseLock, .createHold, .executeHold, .releaseHold, .freeze, .unfreeze,
    .createClearing, .approveClearing, .cancelClearing]

/-- The word for an operation. -/
def text : Operation → String
  | .setCoupon => "SetCoupon"
  | .updateMaturityDate => "UpdateMaturityDate"
  | .issue => "Issue"
  | .transfer => "Transfer"
  | .redeem => "Redeem"
  | .redeemAtMaturity => "RedeemAtMaturity"
  | .lock => "Lock"
  | .releaseLock => "ReleaseLock"
  | .createHold => "CreateHold"
  | .executeHold => "ExecuteHold"
  | .releaseHold => "ReleaseHold"
  | .freeze => "Freeze"
  | .unfreeze => "Unfreeze"
  | .createClearing => "CreateClearing"
  | .approveClearing => "ApproveClearing"
  | .cancelClearing => "CancelClearing"

/-- The operation with a word. -/
def parse? (word : String) : Option Operation := all.find? fun o => o.text == word

/-- Whether the operation moves units without clearing, and so is barred while clearing
is active. -/
def bypassesClearing : Operation → Bool
  | .transfer | .redeem | .redeemAtMaturity | .createHold => true
  | _ => false

/-- Whether the operation changes the terms of the bond and no balance. -/
def isAdministrative : Operation → Bool
  | .setCoupon | .updateMaturityDate => true
  | _ => false

end Operation

/-- What a guard sees of a command. -/
structure CommandContext where
  operation : Operation
  /-- The holders whose balances the command touches. -/
  accounts : List Address
  partition : Option Partition
  /-- Who gives the command, if the host knows it. -/
  operator : Option Address
deriving DecidableEq, Repr

/-- Why a guard refuses a command. -/
inductive GuardError where
  | accountHasNoRole (account : Address) (operation : Operation)
  | accountIsBlocked (account : Address)
  | invalidKycStatus (account : Address)
  | tokenIsPaused
  | clearingIsActivated
  | walletRecovered (account : Address)
deriving DecidableEq, Repr

/-- The text of a refusal. -/
def GuardError.message : GuardError → String
  | .accountHasNoRole account operation =>
    s!"Account {account} has no role for " ++ operation.text
  | .accountIsBlocked account => s!"Account {account} is blocked"
  | .invalidKycStatus account => s!"Invalid KYC status for {account}"
  | .tokenIsPaused => "Token is paused"
  | .clearingIsActivated => "Clearing is activated"
  | .walletRecovered account => s!"Wallet {account} has been recovered"

/-- A condition on commands. -/
abbrev Guard := CommandContext → Except GuardError Unit

/-- Guards in the order in which they are asked. -/
abbrev GuardChain := List Guard

/-- Ask every guard; the first refusal wins. -/
def GuardChain.check : GuardChain → CommandContext → Except GuardError Unit
  | [], _ => .ok ()
  | guard :: rest, ctx => do
    guard ctx
    check rest ctx

/-- The length of a chain in words. -/
def GuardChain.describe (length : Nat) : String :=
  s!"GuardChain \x7b guards: {length} \x7d"

/-! ### The guards of a host -/

namespace Guard

/-- Refuse everything while the bond is paused. -/
def pause (paused : Bool) : Guard := fun _ =>
  if paused then .error .tokenIsPaused else .ok ()

/-- Refuse commands that touch a blocked account or come from one. -/
def controlList (blocked : SortedSet Address) : Guard := fun ctx =>
  match (ctx.accounts ++ ctx.operator.toList).find? blocked.contains with
  | some account => .error (.accountIsBlocked account)
  | none => .ok ()

/-- Refuse commands on balances that touch an account without a grant. -/
def kycRegistry (granted : SortedSet Address) : Guard := fun ctx =>
  if ctx.operation.isAdministrative then .ok ()
  else
    match ctx.accounts.find? fun a => !granted.contains a with
    | some account => .error (.invalidKycStatus account)
    | none => .ok ()

/-- Refuse commands that move units directly while clearing is active. -/
def clearingMode (active : Bool) : Guard := fun ctx =>
  if active && ctx.operation.bypassesClearing then .error .clearingIsActivated else .ok ()

/-- Refuse commands that touch a recovered wallet. -/
def recoveredWallets (recovered : SortedSet Address) : Guard := fun ctx =>
  match ctx.accounts.find? recovered.contains with
  | some account => .error (.walletRecovered account)
  | none => .ok ()

/-- Let only one account give commands of one kind. -/
def role (operation : Operation) (account : Address) : Guard := fun ctx =>
  if ctx.operation = operation ∧ ctx.operator ≠ some account then
    .error (.accountHasNoRole (ctx.operator.getD .zero) operation)
  else .ok ()

end Guard

/-- The switches and lists that the guards of a host look at. -/
structure Controls where
  paused : Bool
  blocked : SortedSet Address
  granted : SortedSet Address
  clearingActive : Bool
  recovered : SortedSet Address

/-- Nothing is paused, blocked, granted, active or recovered. -/
def Controls.initial : Controls := ⟨false, .empty, .empty, false, .empty⟩

/-- A guard that a host can put on the chain. -/
inductive GuardKind where
  | pause
  | controlList
  | kycRegistry
  | clearingMode
  | recoveredWallets
  | role (operation : Operation) (account : Address)
deriving DecidableEq, Repr

/-- The condition of a guard under the present state of the controls. -/
def GuardKind.guard (controls : Controls) : GuardKind → Guard
  | .pause => Guard.pause controls.paused
  | .controlList => Guard.controlList controls.blocked
  | .kycRegistry => Guard.kycRegistry controls.granted
  | .clearingMode => Guard.clearingMode controls.clearingActive
  | .recoveredWallets => Guard.recoveredWallets controls.recovered
  | .role operation account => Guard.role operation account

end CouponBond
