import CouponBond.Action
import CouponBond.Balance
import CouponBond.Config
import CouponBond.Entitlement
import CouponBond.Wire.Basic

/-!
# Wire forms of terms, payments and amounts

## Main Definitions

* Instances of `Wire` for coupons, dividends, actions and their store, for the terms and
  the configuration of a bond, for balances, fractions and entitlements

## Design Notes

A configuration that names no bond is read as one that names `BondId.nil`.  A running system
draws a random identifier at this point, which is no function of the text; drawing is left out,
and no statement depends on the identifier that stands in for the missing one.
-/

namespace CouponBond

/-! ### Payments -/

instance : Wire RateStatus where
  encode
    | .pending => .str "Pending"
    | .fixed => .str "Set"
  read? site t :=
    match t.word? site with
    | some "Pending" => some .pending
    | some "Set" => some .fixed
    | _ => none

/-- The field names of a coupon. -/
def Coupon.fieldNames : FieldNames :=
  ["record_date", "execution_date", "start_date", "end_date", "fixing_date", "rate",
    "rate_decimals", "rate_status"]

/-- The coupon with the given fields. -/
def Coupon.ofRecord? (r : Record) : Option Coupon := do
  return {
    recordDate := ← r.required "record_date"
    executionDate := ← r.required "execution_date"
    startDate := ← r.required "start_date"
    endDate := ← r.required "end_date"
    fixingDate := ← r.required "fixing_date"
    rate := ← r.required "rate"
    rateDecimals := ← r.required "rate_decimals"
    rateStatus := ← r.withDefault "rate_status" .fixed }

instance : Wire Coupon where
  encode c := .obj
    [("record_date", encode c.recordDate),
      ("execution_date", encode c.executionDate),
      ("start_date", encode c.startDate),
      ("end_date", encode c.endDate),
      ("fixing_date", encode c.fixingDate),
      ("rate", encode c.rate),
      ("rate_decimals", encode c.rateDecimals),
      ("rate_status", encode c.rateStatus)]
  read? site t := (t.record? site Coupon.fieldNames).bind Coupon.ofRecord?

/-- The field names of a dividend. -/
def Dividend.fieldNames : FieldNames :=
  ["record_date", "execution_date", "amount", "amount_decimals"]

/-- The dividend with the given fields. -/
def Dividend.ofRecord? (r : Record) : Option Dividend := do
  return {
    recordDate := ← r.required "record_date"
    executionDate := ← r.required "execution_date"
    amount := ← r.required "amount"
    amountDecimals := ← r.required "amount_decimals" }

instance : Wire Dividend where
  encode d := .obj
    [("record_date", encode d.recordDate),
      ("execution_date", encode d.executionDate),
      ("amount", encode d.amount),
      ("amount_decimals", encode d.amountDecimals)]
  read? site t := (t.record? site Dividend.fieldNames).bind Dividend.ofRecord?

instance : Wire ActionType where
  encode
    | .coupon => .str "Coupon"
    | .dividend => .str "Dividend"
  read? site t :=
    match t.word? site with
    | some "Coupon" => some .coupon
    | some "Dividend" => some .dividend
    | _ => none

/-- The kinds of actions and their fields. -/
def ActionKind.layout : Layout :=
  [("Coupon", Coupon.fieldNames), ("Dividend", Dividend.fieldNames)]

instance : Wire ActionKind where
  encode
    | .coupon c => (encode c).withTag "type" "Coupon"
    | .dividend d => (encode d).withTag "type" "Dividend"
  read? site t := do
    match ← t.variant? site "type" ActionKind.layout with
    | ("Coupon", r) => return .coupon (← Coupon.ofRecord? r)
    | ("Dividend", r) => return .dividend (← Dividend.ofRecord? r)
    | _ => none

/-- The field names of an action. -/
def Action.fieldNames : FieldNames := ["id", "kind", "snapshot_id"]

instance : Wire Action where
  encode a := .obj
    [("id", encode a.id), ("kind", encode a.kind), ("snapshot_id", encode a.snapshotId)]
  read? site t := do
    let r ← t.record? site Action.fieldNames
    return {
      id := ← r.required "id"
      kind := ← r.required "kind"
      snapshotId := ← r.required "snapshot_id" }

/-- The field names of an action store. -/
def ActionStore.fieldNames : FieldNames := ["actions", "coupon_ids", "dividend_ids"]

instance : Wire ActionStore where
  encode s := .obj
    [("actions", encode s.actions),
      ("coupon_ids", encode s.couponIds),
      ("dividend_ids", encode s.dividendIds)]
  read? site t := do
    let r ← t.record? site ActionStore.fieldNames
    return {
      actions := ← r.required "actions"
      couponIds := ← r.required "coupon_ids"
      dividendIds := ← r.required "dividend_ids" }

/-! ### Terms -/

/-- The field names of the terms. -/
def Terms.fieldNames : FieldNames :=
  ["currency", "nominal_value", "nominal_value_decimals", "token_decimals", "starting_date",
    "current_maturity_date", "is_multi_partition"]

instance : Wire Terms where
  encode t := .obj
    [("currency", encode t.currency),
      ("nominal_value", encode t.nominalValue),
      ("nominal_value_decimals", encode t.nominalValueDecimals),
      ("token_decimals", encode t.tokenDecimals),
      ("starting_date", encode t.startingDate),
      ("current_maturity_date", encode t.maturityDate),
      ("is_multi_partition", encode t.isMultiPartition)]
  read? site t := do
    let r ← t.record? site Terms.fieldNames
    return {
      currency := ← r.required "currency"
      nominalValue := ← r.required "nominal_value"
      nominalValueDecimals := ← r.required "nominal_value_decimals"
      tokenDecimals := ← r.required "token_decimals"
      startingDate := ← r.required "starting_date"
      maturityDate := ← r.required "current_maturity_date"
      isMultiPartition := ← r.required "is_multi_partition" }

/-- The field names of a configuration. -/
def Config.fieldNames : FieldNames :=
  ["bond_id", "currency", "nominal_value", "nominal_value_decimals", "token_decimals",
    "starting_date", "maturity_date", "is_multi_partition"]

/-- A configuration without an identifier gets the one whose bits are all zero. -/
instance : Wire Config where
  encode c := .obj
    [("bond_id", encode c.bondId),
      ("currency", encode c.currency),
      ("nominal_value", encode c.nominalValue),
      ("nominal_value_decimals", encode c.nominalValueDecimals),
      ("token_decimals", encode c.tokenDecimals),
      ("starting_date", encode c.startingDate),
      ("maturity_date", encode c.maturityDate),
      ("is_multi_partition", encode c.isMultiPartition)]
  read? site t := do
    let r ← t.record? site Config.fieldNames
    return {
      bondId := ← r.withDefault "bond_id" .nil
      currency := ← r.required "currency"
      nominalValue := ← r.required "nominal_value"
      nominalValueDecimals := ← r.withDefault "nominal_value_decimals" 0
      tokenDecimals := ← r.withDefault "token_decimals" 0
      startingDate := ← r.required "starting_date"
      maturityDate := ← r.required "maturity_date"
      isMultiPartition := ← r.withDefault "is_multi_partition" false }

/-! ### Balances and amounts -/

/-- The field names of a balance. -/
def Balance.fieldNames : FieldNames := ["free", "locked", "held", "frozen", "cleared"]

instance : Wire Balance where
  encode b := .obj
    [("free", encode b.free),
      ("locked", encode b.locked),
      ("held", encode b.held),
      ("frozen", encode b.frozen),
      ("cleared", encode b.cleared)]
  read? site t := do
    let r ← t.record? site Balance.fieldNames
    return {
      free := ← r.required "free"
      locked := ← r.required "locked"
      held := ← r.required "held"
      frozen := ← r.required "frozen"
      cleared := ← r.required "cleared" }

/-- The field names of a fraction. -/
def Rational.fieldNames : FieldNames := ["numerator", "denominator"]

instance : Wire Rational where
  encode q := .obj
    [("numerator", encode q.numerator), ("denominator", encode q.denominator)]
  read? site t := do
    let r ← t.record? site Rational.fieldNames
    return {
      numerator := ← r.required "numerator"
      denominator := ← r.required "denominator" }

/-- The written form of the balance that counts for a coupon. -/
def CouponFor.toJson (c : CouponFor) : Json := .obj
  [("token_balance", encode c.tokenBalance),
    ("record_date_reached", encode c.recordDateReached),
    ("coupon", encode c.coupon)]

/-- The written form of the amount of a coupon. -/
def CouponAmountFor.toJson (c : CouponAmountFor) : Json := .obj
  [("numerator", encode c.amount.numerator),
    ("denominator", encode c.amount.denominator),
    ("record_date_reached", encode c.recordDateReached)]

end CouponBond
