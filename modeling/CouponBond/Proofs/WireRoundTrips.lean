import CouponBond.Proofs.Restoring
import CouponBond.Proofs.WireDefaults
import Mathlib.Tactic.CasesM

/-!
# What is written is read

Commands, outcomes and queries are read as they were written, and with them every value that is
exchanged or saved.  Of a registry, and so of a ledger, that is the order in which its rosters
enumerate their members.

## Main Definitions

* `Wire.RoundTrips` — values are read as they were written, up to what is the same of them

## Main Results

* `Wire.values_round_trip` — the round trip of every written type
-/

namespace CouponBond

open Json (Tree)
open Wire

/-! ### Amounts and configurations -/

instance : Faithful Rational where
  readsAs_self _ _ h _ := by
    refine Json.Restyled.bind_record? h rfl (by decide : Rational.fieldNames.Nodup) fun _ hr => ?_
    obtain ⟨_, _, -⟩ := hr
    simp (disch := assumption)

instance : Faithful Config where
  readsAs_self _ _ h _ := by
    refine Json.Restyled.bind_record? h rfl (by decide : Config.fieldNames.Nodup) fun _ hr => ?_
    obtain ⟨_, _, _, _, _, _, _, _, -⟩ := hr
    simp (disch := assumption)

/-! ### Commands -/

/-- The names that are declared for a command are those of its members. -/
theorem Command.lookup_layout (c : Command) :
    Command.layout.lookup c.text = some (c.fields.map Prod.fst) := by
  cases c <;> rfl

/-- No name stands twice in a command, and none is the tag. -/
theorem Command.names_sound (c : Command) :
    (c.fields.map Prod.fst).Nodup ∧ "command" ∉ c.fields.map Prod.fst := by
  cases c <;> simp [fields]

/-- A command is read of its members, wherever they stand. -/
theorem Command.ofRecord?_of_holds (c : Command) {r : Record} (h : r.Holds c.fields) :
    Command.ofRecord? c.text r = some c := by
  cases c <;> simp only [fields, Record.Holds] at h <;> casesm* _ ∧ _ <;>
    simp (disch := assumption) [Command.ofRecord?, Command.text, Record.optional]

instance : Faithful Command where
  readsAs_self c _ h _ := by
    obtain ⟨hnodup, htag⟩ := c.names_sound
    exact Json.Restyled.bind_variant? h c.lookup_layout rfl hnodup htag fun r hr =>
      c.ofRecord?_of_holds hr

/-! ### Outcomes -/

/-- The word for a kind of outcome. -/
def Outcome.text : Outcome → String
  | .applied => "applied"
  | .couponSet _ => "coupon_set"
  | .maturityDateUpdated _ => "maturity_date_updated"
  | .locked _ => "locked"
  | .holdCreated _ => "hold_created"
  | .clearingCreated _ => "clearing_created"
  | .fullyRedeemed _ => "fully_redeemed"

/-- The members of an outcome behind its kind. -/
def Outcome.fields : Outcome → List (String × Json)
  | .applied => []
  | .couponSet couponId => [("coupon_id", encode couponId)]
  | .maturityDateUpdated previous => [("previous", encode previous)]
  | .locked id => [("lock_id", encode id)]
  | .holdCreated id => [("hold_id", encode id)]
  | .clearingCreated id => [("clearing_id", encode id)]
  | .fullyRedeemed redeemed => [("redeemed", encode redeemed)]

theorem Outcome.encode_eq (o : Outcome) :
    encode o = .obj (("outcome", .str o.text) :: o.fields) := by
  cases o <;> rfl

theorem Outcome.lookup_layout (o : Outcome) :
    Outcome.layout.lookup o.text = some (o.fields.map Prod.fst) := by
  cases o <;> rfl

theorem Outcome.names_sound (o : Outcome) :
    (o.fields.map Prod.fst).Nodup ∧ "outcome" ∉ o.fields.map Prod.fst := by
  cases o <;> simp [fields]

instance : Faithful Outcome where
  readsAs_self o _ h _ := by
    obtain ⟨hnodup, htag⟩ := o.names_sound
    rw [o.encode_eq] at h
    refine Json.Restyled.bind_variant? h o.lookup_layout rfl hnodup htag fun r hr => ?_
    cases o with
    | applied => rfl
    | _ =>
      obtain ⟨_, -⟩ := hr
      simp (disch := assumption) [Outcome.text]

/-! ### Queries -/

theorem Query.lookup_layout (q : Query) :
    Query.layout.lookup q.text = some (q.fields.map Prod.fst) := by
  cases q <;> rfl

theorem Query.names_sound (q : Query) :
    (q.fields.map Prod.fst).Nodup ∧ "query" ∉ q.fields.map Prod.fst := by
  cases q <;> simp [fields]

instance : Faithful Query where
  readsAs_self q _ h _ := by
    obtain ⟨hnodup, htag⟩ := q.names_sound
    refine Json.Restyled.bind_variant? h q.lookup_layout rfl hnodup htag fun r hr => ?_
    cases q with
    | couponCount | terms => rfl
    | _ =>
      simp only [Query.fields, Record.Holds] at hr
      casesm* _ ∧ _
      simp (disch := assumption) [Query.text]

/-! ### Round trips -/

/-- Values are read as they were written, up to what is the same of them. -/
structure Wire.RoundTrips (α : Type) [Wire α] (Same : α → α → Prop) : Prop where
  /-- In whatever style a value is written, the value is read. -/
  restyled : ∀ (a : α) (j : Json), (encode a).Restyled j →
    ∀ site, ∃ b, read? site j.tree = some b ∧ Same a b
  /-- Whatever a value was read of, it is read again once it is written. -/
  reread : ∀ (t : Tree) (site : Site) (a : α), read? site t = some a →
    ∃ b, decode? (encode a) = some b ∧ Same a b

namespace Wire.RoundTrips

variable {α : Type} [Wire α]

theorem of_readsAs {Same : α → α → Prop} {f : α → α} (hread : ∀ a, ReadsAs a (f a))
    (hsame : ∀ a, Same a (f a)) : RoundTrips α Same where
  restyled a j hj site := ⟨f a, hread a j hj site, hsame a⟩
  reread _ _ a _ := ⟨f a, hread a _ (.refl _) .plain, hsame a⟩

theorem of_faithful [Faithful α] : RoundTrips α Eq := of_readsAs readsAs_self fun _ => rfl

end Wire.RoundTrips

/-- Of a registry the enumerations of its rosters are read. -/
theorem Registry.roundTrips : RoundTrips Registry fun r r' => r'.view = r.view :=
  .of_readsAs Registry.readsAs Registry.view_renumbered

theorem Ledger.roundTrips : RoundTrips Ledger Ledger.Alike :=
  .of_readsAs Ledger.readsAs Ledger.alike_renumbered

/-- Every value that is exchanged or saved is read as it was written: in any order of members, with
members that nobody knows among those of records, and with the members left out that are assumed
anyway. -/
theorem Wire.values_round_trip :
    (RoundTrips Address Eq ∧ RoundTrips Partition Eq ∧ RoundTrips Coupon Eq ∧
      RoundTrips Dividend Eq ∧ RoundTrips ActionKind Eq ∧ RoundTrips Action Eq ∧
      RoundTrips Command Eq ∧ RoundTrips Query Eq ∧ RoundTrips Outcome Eq ∧ RoundTrips Event Eq ∧
      RoundTrips Config Eq ∧ RoundTrips Terms Eq ∧ RoundTrips Rational Eq ∧ RoundTrips Balance Eq ∧
      RoundTrips Lock Eq ∧ RoundTrips Hold Eq ∧ RoundTrips Clearing Eq ∧ RoundTrips Snapshot Eq ∧
      RoundTrips ActionStore Eq) ∧
    (RoundTrips Registry (fun r r' => r'.view = r.view) ∧ RoundTrips Ledger Ledger.Alike) ∧
    (Assumes Command "partition" (encode Partition.default) ∧
      Assumes Query "partition" (encode Partition.default) ∧
      Assumes Command "to" (encode (none : Option Address)) ∧
      Assumes Hold "to" (encode (none : Option Address)) ∧
      Assumes Coupon "rate_status" (encode RateStatus.fixed) ∧
      Assumes ActionKind "rate_status" (encode RateStatus.fixed) ∧
      Assumes Config "nominal_value_decimals" (encode (0 : UInt8)) ∧
      Assumes Config "token_decimals" (encode (0 : UInt8)) ∧
      Assumes Config "is_multi_partition" (encode false)) := by
  refine ⟨?_, ⟨Registry.roundTrips, Ledger.roundTrips⟩, ?_⟩
  · exact ⟨.of_faithful, .of_faithful, .of_faithful, .of_faithful, .of_faithful, .of_faithful,
      .of_faithful, .of_faithful, .of_faithful, .of_faithful, .of_faithful, .of_faithful,
      .of_faithful, .of_faithful, .of_faithful, .of_faithful, .of_faithful, .of_faithful,
      .of_faithful⟩
  · exact ⟨Command.assumes_partition, Query.assumes_partition, Command.assumes_to, Hold.assumes_to,
      Coupon.assumes_rateStatus, ActionKind.assumes_rateStatus, Config.assumes⟩

/-- A command whose members come in the opposite order, behind one that nobody knows. -/
theorem Wire.reversed_command_round_trips :
    let c : Command := .issue (.ofLow 1) .default 5
    let j : Json := .obj [("memo", .null), ("amount", encode (5 : Amount)),
      ("partition", encode Partition.default), ("to", encode (Address.ofLow 1)),
      ("command", .str "issue")]
    (encode c).Restyled j ∧ ∃ b, read? .plain j.tree = some b ∧ c = b := by
  intro c j
  have hperm := List.reverse_perm (("command", .str "issue") :: c.fields ++ [("memo", .null)])
  have hstyle : (encode c).Restyled j :=
    .obj (.refl _) hperm (by simp [c, Command.fields]) fun _ =>
      ⟨_, List.mem_cons_self, (by decide : Json.isWord "command" = true)⟩
  obtain ⟨_, _, _, _, _, _, hcommand, _⟩ := values_round_trip.1
  exact ⟨hstyle, hcommand.restyled c j hstyle .plain⟩

end CouponBond
