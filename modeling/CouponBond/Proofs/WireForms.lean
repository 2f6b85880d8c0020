import CouponBond.Bond.Checkpoint
import CouponBond.Proofs.WireLaws
import Mathlib.Tactic.CasesM

/-!
# Reading undoes writing: the state of a bond

Every part of a saved state is read as it was written, but for two things: a roster is read
with its accounts on the first places, and the agenda of record dates, which is not written,
is read as empty.

## Main Definitions

* `Roster.renumbered`, `Registry.renumbered`, `Ledger.renumbered` — what is read of a roster
  and of what holds rosters
* `Checkpoint.reread` — what is read of a saved state

## Main Results

* `Checkpoint.decodeText?_print` — the text of a saved state is read
-/

namespace CouponBond

open Json (Tree)
open Wire

/-! ### Payments -/

instance : Faithful RateStatus where
  readsAs_self
    | .pending => readsAs_of_isLeaf rfl fun _ => rfl
    | .fixed => readsAs_of_isLeaf rfl fun _ => rfl
instance : Bounded RateStatus := ⟨0, fun s => by cases s <;> trivial⟩

/-- The members of the object that a coupon is written as. -/
def Coupon.members (c : Coupon) : List (String × Json) :=
  [("record_date", encode c.recordDate),
    ("execution_date", encode c.executionDate),
    ("start_date", encode c.startDate),
    ("end_date", encode c.endDate),
    ("fixing_date", encode c.fixingDate),
    ("rate", encode c.rate),
    ("rate_decimals", encode c.rateDecimals),
    ("rate_status", encode c.rateStatus)]

theorem Coupon.ofRecord?_of_holds (c : Coupon) {r : Record} (h : r.Holds c.members) :
    Coupon.ofRecord? r = some c := by
  obtain ⟨_, _, _, _, _, _, _, _, -⟩ := h
  simp (disch := assumption) [Coupon.ofRecord?]

/-- The members of the object that a dividend is written as. -/
def Dividend.members (d : Dividend) : List (String × Json) :=
  [("record_date", encode d.recordDate),
    ("execution_date", encode d.executionDate),
    ("amount", encode d.amount),
    ("amount_decimals", encode d.amountDecimals)]

theorem Dividend.ofRecord?_of_holds (d : Dividend) {r : Record} (h : r.Holds d.members) :
    Dividend.ofRecord? r = some d := by
  obtain ⟨_, _, _, _, -⟩ := h
  simp (disch := assumption) [Dividend.ofRecord?]

instance : Faithful Coupon where
  readsAs_self c _ h _ :=
    Json.Restyled.bind_record? h rfl (by decide : Coupon.fieldNames.Nodup) fun _ hr =>
      c.ofRecord?_of_holds hr

instance : Bounded Coupon where
  depth := 1
  fits_depth c := by
    refine ⟨Nat.one_pos, ?_⟩
    simp (disch := decide) [Json.FitsMembers, Bounded.fits]

instance : Faithful Dividend where
  readsAs_self d _ h _ :=
    Json.Restyled.bind_record? h rfl (by decide : Dividend.fieldNames.Nodup) fun _ hr =>
      d.ofRecord?_of_holds hr

instance : Bounded Dividend where
  depth := 1
  fits_depth d := by
    refine ⟨Nat.one_pos, ?_⟩
    simp (disch := decide) [Json.FitsMembers, Bounded.fits]

instance : Faithful ActionKind where
  readsAs_self
    | .coupon c, _, h, _ => by
      refine Json.Restyled.bind_variant? h
        (rfl : ActionKind.layout.lookup "Coupon" = some Coupon.fieldNames)
        (rfl : c.members.map Prod.fst = Coupon.fieldNames) (by decide)
        (by decide : "type" ∉ Coupon.fieldNames) fun r hr => ?_
      show (Coupon.ofRecord? r).bind _ = _
      rw [c.ofRecord?_of_holds hr]
      rfl
    | .dividend d, _, h, _ => by
      refine Json.Restyled.bind_variant? h
        (rfl : ActionKind.layout.lookup "Dividend" = some Dividend.fieldNames)
        (rfl : d.members.map Prod.fst = Dividend.fieldNames) (by decide)
        (by decide : "type" ∉ Dividend.fieldNames) fun r hr => ?_
      show (Dividend.ofRecord? r).bind _ = _
      rw [d.ofRecord?_of_holds hr]
      rfl

instance : Bounded ActionKind where
  depth := 1
  fits_depth k := by
    cases k with
    | coupon c => exact ⟨Nat.one_pos, trivial, (Bounded.fits_depth c).2⟩
    | dividend d => exact ⟨Nat.one_pos, trivial, (Bounded.fits_depth d).2⟩

instance : Faithful Action where
  readsAs_self _ _ h _ := by
    refine Json.Restyled.bind_record? h rfl (by decide : Action.fieldNames.Nodup) fun _ hr => ?_
    obtain ⟨_, _, _, -⟩ := hr
    simp (disch := assumption)

instance : Bounded Action where
  depth := 2
  fits_depth a := by
    refine ⟨Nat.two_pos, ?_⟩
    simp (disch := decide) [Json.FitsMembers, Bounded.fits]

instance : Faithful ActionStore where
  readsAs_self _ _ h _ := by
    refine Json.Restyled.bind_record? h rfl (by decide : ActionStore.fieldNames.Nodup)
      fun _ hr => ?_
    obtain ⟨_, _, _, -⟩ := hr
    simp (disch := assumption)

instance : Bounded ActionStore where
  depth := 4
  fits_depth s := by
    refine ⟨Nat.succ_pos _, ?_⟩
    simp (disch := decide) [Json.FitsMembers, Bounded.fits]

/-! ### Terms -/

instance : Faithful Terms where
  readsAs_self _ _ h _ := by
    refine Json.Restyled.bind_record? h rfl (by decide : Terms.fieldNames.Nodup) fun _ hr => ?_
    obtain ⟨_, _, _, _, _, _, _, -⟩ := hr
    simp (disch := assumption)

instance : Bounded Terms where
  depth := 1
  fits_depth t := by
    refine ⟨Nat.one_pos, ?_⟩
    simp (disch := decide) [Json.FitsMembers, Bounded.fits]

/-! ### Records and balances -/

instance : Faithful Balance where
  readsAs_self _ _ h _ := by
    refine Json.Restyled.bind_record? h rfl (by decide : Balance.fieldNames.Nodup) fun _ hr => ?_
    obtain ⟨_, _, _, _, _, -⟩ := hr
    simp (disch := assumption)

instance : Bounded Balance where
  depth := 1
  fits_depth b := by
    refine ⟨Nat.one_pos, ?_⟩
    simp (disch := decide) [Json.FitsMembers, Bounded.fits]

instance : Faithful Lock where
  readsAs_self _ _ h _ := by
    refine Json.Restyled.bind_record? h rfl (by decide : Lock.fieldNames.Nodup) fun _ hr => ?_
    obtain ⟨_, _, _, _, _, -⟩ := hr
    simp (disch := assumption)

instance : Bounded Lock where
  depth := 1
  fits_depth l := by
    refine ⟨Nat.one_pos, ?_⟩
    simp (disch := decide) [Json.FitsMembers, Bounded.fits]

instance : Faithful Hold where
  readsAs_self _ _ h _ := by
    refine Json.Restyled.bind_record? h rfl (by decide : Hold.fieldNames.Nodup) fun _ hr => ?_
    obtain ⟨_, _, _, _, _, _, _, -⟩ := hr
    simp (disch := assumption) [Record.optional]

instance : Bounded Hold where
  depth := 1
  fits_depth h := by
    refine ⟨Nat.one_pos, ?_⟩
    simp (disch := decide) [Json.FitsMembers, Bounded.fits]

instance : Faithful Clearing where
  readsAs_self _ _ h _ := by
    refine Json.Restyled.bind_record? h rfl (by decide : Clearing.fieldNames.Nodup) fun _ hr => ?_
    obtain ⟨_, _, _, _, _, _, -⟩ := hr
    simp (disch := assumption)

instance : Bounded Clearing where
  depth := 1
  fits_depth c := by
    refine ⟨Nat.one_pos, ?_⟩
    simp (disch := decide) [Json.FitsMembers, Bounded.fits]

instance : Faithful Book where
  readsAs_self _ _ h _ := by
    refine Json.Restyled.bind_record? h rfl (by decide : Book.fieldNames.Nodup) fun _ hr => ?_
    obtain ⟨_, _, -⟩ := hr
    simp (disch := assumption)

instance : Bounded Book where
  depth := 3
  fits_depth b := by
    refine ⟨Nat.succ_pos _, ?_⟩
    simp (disch := decide) [Json.FitsMembers, Bounded.fits]

/-! ### Registry and ledger -/

/-- The roster with its accounts on the first places. -/
def Roster.renumbered (r : Roster) : Roster := .ofList r.members

theorem Roster.members_renumbered (r : Roster) : r.renumbered.members = r.members :=
  members_ofList r.nodup_members

theorem Roster.readsAs (r : Roster) : ReadsAs r r.renumbered := by
  intro j h site
  show (read? site j.tree).map Roster.ofList = some r.renumbered
  rw [readsAs_self r.members j h site]
  rfl

instance : Bounded Roster where
  depth := 1
  fits_depth r := Bounded.fits_depth r.members

/-- The registry with every roster renumbered. -/
def Registry.renumbered (r : Registry) : Registry :=
  ⟨r.partitions.mapValues Roster.renumbered, r.all.renumbered⟩

theorem Registry.readsAs (r : Registry) : ReadsAs r r.renumbered := by
  intro j h site
  refine Json.Restyled.bind_record? h rfl (by decide : Registry.fieldNames.Nodup) fun _ hr => ?_
  obtain ⟨hpartitions, hall, -⟩ := hr
  simp [hpartitions.required_of_readsAs (SortedMap.readsAs Roster.readsAs r.partitions),
    hall.required_of_readsAs (Roster.readsAs r.all), renumbered]

instance : Bounded Registry where
  depth := 3
  fits_depth r := by
    refine ⟨Nat.succ_pos _, ?_⟩
    simp (disch := decide) [Json.FitsMembers, Bounded.fits]

/-- The ledger with its registry renumbered. -/
def Ledger.renumbered (l : Ledger) : Ledger := { l with registry := l.registry.renumbered }

theorem Ledger.readsAs (l : Ledger) : ReadsAs l l.renumbered := by
  intro j h site
  refine Json.Restyled.bind_record? h rfl (by decide : Ledger.fieldNames.Nodup) fun _ hr => ?_
  obtain ⟨_, hregistry, _, _, _, _, _, _, -⟩ := hr
  simp (disch := assumption) [hregistry.required_of_readsAs (Registry.readsAs l.registry),
    renumbered]

instance : Bounded Ledger where
  depth := 5
  fits_depth l := by
    refine ⟨Nat.succ_pos _, ?_⟩
    simp (disch := decide) [Json.FitsMembers, Bounded.fits]

/-! ### Snapshots -/

instance : Faithful Snapshot where
  readsAs_self _ _ h _ := by
    refine Json.Restyled.bind_record? h rfl (by decide : Snapshot.fieldNames.Nodup) fun _ hr => ?_
    obtain ⟨_, _, _, _, _, _, -⟩ := hr
    simp (disch := assumption)

instance : Bounded Snapshot where
  depth := 3
  fits_depth s := by
    refine ⟨Nat.succ_pos _, ?_⟩
    simp (disch := decide) [Json.FitsMembers, Bounded.fits]

theorem SnapshotBook.readsAs (b : SnapshotBook) : ReadsAs b { b with pending := .empty } := by
  intro j h site
  refine Json.Restyled.bind_record? h rfl (by decide : SnapshotBook.fieldNames.Nodup) fun _ hr => ?_
  obtain ⟨_, -⟩ := hr
  simp (disch := assumption)

instance : Bounded SnapshotBook where
  depth := 5
  fits_depth b := by
    refine ⟨Nat.succ_pos _, ?_⟩
    simp (disch := decide) [Json.FitsMembers, Bounded.fits]

/-! ### Events -/

/-- The names that are declared for a fact are those of its members. -/
theorem Fact.lookup_layout (f : Fact) :
    Event.layout.lookup f.typeText = some ("timestamp" :: f.fields.map Prod.fst) := by
  cases f <;> rfl

/-- No name stands twice in an event, and none is the tag. -/
theorem Fact.names_sound (f : Fact) :
    ("timestamp" :: f.fields.map Prod.fst).Nodup ∧
      "type" ∉ "timestamp" :: f.fields.map Prod.fst := by
  cases f <;> simp [fields]

/-- A fact is read of its members, wherever they stand. -/
theorem Fact.ofRecord?_of_holds (f : Fact) {r : Record} (h : r.Holds f.fields) :
    Fact.ofRecord? f.typeText r = some f := by
  cases f <;> simp only [fields, Record.Holds] at h <;> casesm* _ ∧ _ <;>
    simp (disch := assumption) [Fact.ofRecord?, Fact.typeText]

instance : Faithful Event where
  readsAs_self e _ h _ := by
    obtain ⟨hnodup, htag⟩ := e.fact.names_sound
    refine Json.Restyled.bind_variant? h e.fact.lookup_layout rfl hnodup htag fun r hr => ?_
    obtain ⟨_, hfields⟩ := hr
    simp (disch := assumption) [e.fact.ofRecord?_of_holds hfields]

instance : Bounded Event where
  depth := 1
  fits_depth e := by
    refine ⟨Nat.one_pos, trivial, Bounded.fits_depth e.timestamp, ?_⟩
    cases e.fact <;> simp (disch := decide) [Fact.fields, Json.FitsMembers, Bounded.fits]

/-! ### Saved states -/

/-- What is read of a saved state. -/
def Checkpoint.reread (c : Checkpoint) : Checkpoint :=
  { c with
    ledger := c.ledger.renumbered
    snapshots := { c.snapshots with pending := .empty } }

theorem EventLog.read?_of_restyled (log : EventLog) {j : Json} (h : log.toJson.Restyled j)
    (site : Site) : EventLog.read? site j.tree = some log := by
  refine Json.Restyled.bind_record? h rfl (by decide : EventLog.fieldNames.Nodup) fun _ hr => ?_
  exact Record.Carries.required (a := (log : List Event)) hr.1

theorem Checkpoint.readsAs (c : Checkpoint) : ReadsAs c c.reread := by
  intro j h site
  refine Json.Restyled.bind_record? h rfl (by decide : Checkpoint.fieldNames.Nodup) fun r hr => ?_
  obtain ⟨_, _, _, _, hledger, _, hsnapshots, ⟨log, hlog, hlookup⟩, -⟩ := hr
  simp (disch := assumption) [hledger.required_of_readsAs (Ledger.readsAs c.ledger),
    hsnapshots.required_of_readsAs (SnapshotBook.readsAs c.snapshots), hlookup,
    c.events.read?_of_restyled hlog, reread]

instance : Bounded Checkpoint where
  depth := 6
  fits_depth c := by
    refine ⟨Nat.succ_pos _, ?_⟩
    have hevents : (c.events.toJson).Fits 5 :=
      ⟨Nat.succ_pos _, Bounded.fits (by decide) (c.events : List Event), trivial⟩
    simp (disch := decide) [Json.FitsMembers, Bounded.fits, hevents]

/-- The text of a saved state is read as the state. -/
theorem Checkpoint.decodeText?_print (c : Checkpoint) :
    decodeText? (encode c).print = some c.reread := by
  have hfits : (encode c).Fits Json.levelLimit := Bounded.fits (by decide) c
  unfold decodeText?
  rw [Json.parse?_print hfits, Option.bind_some, Checkpoint.readsAs c _ (.refl _)]

end CouponBond
