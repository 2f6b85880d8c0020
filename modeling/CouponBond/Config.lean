import CouponBond.BondId
import CouponBond.Terms
import CouponBond.Text.Quoted

/-!
# Bond configuration

What a host gives to open a bond, checked once when the bond is opened.

## Main Definitions

* `Config` — the configuration
* `Config.check` — whether a bond can be opened with it
* `Config.terms` — the terms the bond starts with
-/

namespace CouponBond

/-- The most decimal places that the token, the face value or a rate may have. -/
def maxDecimals : Decimals := 18

/-- The configuration of a bond. -/
structure Config where
  bondId : BondId
  /-- Currency code of three letters. -/
  currency : String
  /-- Face value of one token, scaled by `nominalValueDecimals` places. -/
  nominalValue : UInt64
  nominalValueDecimals : Decimals
  tokenDecimals : Decimals
  startingDate : Timestamp
  maturityDate : Timestamp
  /-- Whether partitions other than the default one may be used. -/
  isMultiPartition : Bool
deriving DecidableEq, Repr

/-- Why a configuration is refused. -/
inductive ConfigError where
  | badCurrency (currency : String)
  | zeroNominal
  | tooManyDecimals
  | startsTooLate (startingDate maturityDate : Timestamp)
  /-- A saved state was taken under another configuration. -/
  | hashMismatch (saved expected : String)
deriving DecidableEq, Repr

/-- The text of a refusal. -/
def ConfigError.message : ConfigError → String
  | .badCurrency currency =>
    "currency must be a 3-letter uppercase code, got " ++ Quoted.string currency
  | .zeroNominal => "nominal_value must be positive"
  | .tooManyDecimals => s!"decimals must not exceed {maxDecimals}"
  | .startsTooLate startingDate maturityDate =>
    s!"starting_date {startingDate} must precede maturity_date {maturityDate}"
  | .hashMismatch saved expected =>
    s!"Config hash mismatch: checkpoint {saved}, config {expected}"

/-- Whether a text is a currency code: three letters from A to Z. -/
def isCurrencyCode (code : String) : Bool :=
  code.toList.length == 3 && code.toList.all fun c => 'A' ≤ c && c ≤ 'Z'

namespace Config

/-- Whether a bond can be opened with a configuration. -/
def check (c : Config) : Except ConfigError Unit :=
  if !isCurrencyCode c.currency then .error (.badCurrency c.currency)
  else if c.nominalValue = 0 then .error .zeroNominal
  else if maxDecimals < c.nominalValueDecimals ∨ maxDecimals < c.tokenDecimals then
    .error .tooManyDecimals
  else if c.maturityDate ≤ c.startingDate then
    .error (.startsTooLate c.startingDate c.maturityDate)
  else .ok ()

/-- The terms a bond starts with. -/
def terms (c : Config) : Terms where
  currency := c.currency
  nominalValue := c.nominalValue
  nominalValueDecimals := c.nominalValueDecimals
  tokenDecimals := c.tokenDecimals
  startingDate := c.startingDate
  maturityDate := c.maturityDate
  isMultiPartition := c.isMultiPartition

end Config

end CouponBond
