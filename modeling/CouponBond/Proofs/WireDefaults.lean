import CouponBond.Proofs.WireForms
import CouponBond.Wire.Command

/-!
# Members that may be left out

A reader fills in some of the members that a record leaves out.  What it fills in is what it would
have read, had the member been written: two spellings of one value, and nothing depends on which of
them was received.

## Main Definitions

* `Record.Fills` — a record with one member more
* `Wire.Assumes` — what is assumed of a member that is left out

## Main Results

* `Json.Tree.bind_record?_fill`, `Json.Tree.bind_variant?_fill` — what is made of a record does not
  change with a member that is assumed anyway
* `Command.assumes_partition`, `Coupon.assumes_rateStatus`, … — the members that may be left out
-/

namespace CouponBond

open Json (Tree Name)

/-- What is assumed of a member that is left out: a value of the type that leaves it out is read as
if the member stood there, wherever that is. -/
def Wire.Assumes (α : Type) [Wire α] (name : String) (assumed : Json) : Prop :=
  ∀ (site : Site) (before after : List (Name × Tree)), (∀ m ∈ before ++ after, m.1.text ≠ name) →
    (read? site (.obj (before ++ after)) : Option α) =
      read? site (.obj (before ++ (Name.ofString name, assumed.tree) :: after))

open Wire

/-! ### Records with one member more -/

/-- The second record is the first with one member more. -/
structure Record.Fills (name : String) (t : Tree) (r r' : Record) : Prop where
  site_eq : r'.site = r.site
  absent : r.fields.lookup name = none
  present : r'.fields.lookup name = some t
  others : ∀ other, other ≠ name → r'.fields.lookup other = r.fields.lookup other

namespace Record.Fills

variable {α : Type} [Wire α] {name other : String} {t : Tree} {r r' : Record}

theorem required_of_ne (h : Fills name t r r') (hne : other ≠ name) :
    (r.required other : Option α) = r'.required other := by
  rw [Record.required, Record.required, h.others other hne, h.site_eq]

theorem withDefault_of_ne (h : Fills name t r r') (hne : other ≠ name) (absent : α) :
    r.withDefault other absent = r'.withDefault other absent := by
  rw [Record.withDefault, Record.withDefault, h.others other hne, h.site_eq]

/-- A field that has a default is read of the member that stands for it. -/
theorem withDefault [Faithful α] {absent : α} (h : Fills name (encode absent).tree r r') :
    r.withDefault name absent = r'.withDefault name absent := by
  rw [Record.withDefault, Record.withDefault, h.absent, h.present]
  exact (readsAs_self absent _ (.refl _) r'.site).symm

/-- A field that has to be present is not read of a member that stands for none of its values. -/
theorem required_of_none (h : Fills name t r r')
    (hread : ∀ site, (read? site t : Option α) = none) :
    (r.required name : Option α) = r'.required name := by
  rw [Record.required, Record.required, h.absent, h.present]
  exact (hread r'.site).symm

end Record.Fills

namespace Json.Tree

variable {α : Type} {name tag : String} {t : Tree} {site : Site} {names : FieldNames}
  {layout : Layout} {before after : List (Name × Tree)}

/-- Members of another name are chosen as they were. -/
theorem filter_fill {other : String} (hne : name ≠ other) :
    ((before ++ (Name.ofString name, t) :: after).filter fun m => m.1.text == other) =
      (before ++ after).filter fun m => m.1.text == other := by
  have hother : ((Name.ofString name).text == other) = false := beq_false_of_ne hne
  rw [List.filter_append, List.filter_append, List.filter_cons, hother, if_neg Bool.false_ne_true]

/-- No member has a name that is left out. -/
theorem filter_absent {members : List (Name × Tree)} (h : ∀ m ∈ members, m.1.text ≠ name) :
    (members.filter fun m => m.1.text == name) = [] :=
  List.filter_eq_nil_iff.mpr fun m hm => by simpa using h m hm

theorem lookup_absent {members : List (Name × Tree)} (h : ∀ m ∈ members, m.1.text ≠ name) :
    (members.map fun m => (m.1.text, m.2)).lookup name = none := by
  rw [List.lookup_eq_none_iff]
  intro m hm
  obtain ⟨member, hmember, rfl⟩ := List.mem_map.mp hm
  exact bne_iff_ne.mpr (h member hmember).symm

/-- A member more is a field more, and names are repeated as before. -/
theorem bind_record?_fill {k : Record → Option α}
    (habsent : ∀ m ∈ before ++ after, m.1.text ≠ name)
    (hk : ∀ r r', Record.Fills name t r r' → k r = k r') :
    ((Tree.obj (before ++ after)).record? site names).bind k =
      ((Tree.obj (before ++ (Name.ofString name, t) :: after)).record? site names).bind k := by
  have honce : ∀ other,
      (((before ++ (Name.ofString name, t) :: after).filter fun m => m.1.text == other).length ≤ 1 ↔
        ((before ++ after).filter fun m => m.1.text == other).length ≤ 1) := by
    intro other
    by_cases hother : name = other
    · subst hother
      have hbefore := filter_absent fun m hm => habsent m (List.mem_append_left _ hm)
      have hafter := filter_absent fun m hm => habsent m (List.mem_append_right _ hm)
      rw [filter_absent habsent, List.filter_append, List.filter_cons, hbefore, hafter]
      simp [Name.ofString]
    · rw [filter_fill hother]
  have hfills : Record.Fills name t
      ⟨site, (before ++ after).map fun m => (m.1.text, m.2)⟩
      ⟨site, (before ++ (Name.ofString name, t) :: after).map fun m => (m.1.text, m.2)⟩ := by
    refine ⟨rfl, lookup_absent habsent, ?_, fun other hne => ?_⟩
    · have hbefore := lookup_absent fun m hm => habsent m (List.mem_append_left _ hm)
      dsimp only
      rw [List.map_append, List.lookup_append, hbefore, Option.none_or]
      exact List.lookup_cons_self
    · have hother : (other == (Name.ofString name).text) = false := beq_false_of_ne hne
      dsimp only
      rw [List.map_append, List.map_append, List.lookup_append, List.lookup_append, List.map_cons,
        List.lookup_cons, hother]
  unfold record?
  simp only [honce]
  split
  · exact hk _ _ hfills
  · rfl

theorem isSome_memberValues? (members : List (Name × Tree)) :
    (memberValues? members).isSome = members.all fun m => m.2.value?.isSome := by
  induction members with
  | nil => rfl
  | cons m rest ih =>
    obtain ⟨name, value⟩ := m
    rw [List.all_cons, ← ih, memberValues?]
    cases value.value? <;> cases memberValues? rest <;> rfl

/-- An object with a value more is read as a whole if it was without. -/
theorem isSome_value?_fill (hvalue : t.value?.isSome = true) :
    (Tree.obj (before ++ after)).value?.isSome =
      (Tree.obj (before ++ (Name.ofString name, t) :: after)).value?.isSome := by
  simp only [value?, Option.isSome_map, isSome_memberValues?, List.all_append, List.all_cons,
    hvalue, Bool.true_and]

/-- The variant is named as before, and the member more is one of its record. -/
theorem bind_variant?_fill {k : String × Record → Option α}
    (habsent : ∀ m ∈ before ++ after, m.1.text ≠ name) (htag : name ≠ tag)
    (hvalue : t.value?.isSome = true)
    (hk : ∀ variant ∈ layout.map Prod.fst, ∀ r r', Record.Fills name t r r' →
      k (variant, r) = k (variant, r')) :
    ((Tree.obj (before ++ after)).variant? site tag layout).bind k =
      ((Tree.obj (before ++ (Name.ofString name, t) :: after)).variant? site tag layout).bind
        k := by
  have hbody : ((before ++ after).filter fun m => m.1.text != tag) =
      before.filter (fun m => m.1.text != tag) ++ after.filter fun m => m.1.text != tag :=
    List.filter_append before after
  have hrest : ∀ m ∈ before.filter (fun m => m.1.text != tag) ++
      after.filter (fun m => m.1.text != tag), m.1.text ≠ name := by
    rw [← hbody]
    exact fun m hm => habsent m (List.mem_filter.mp hm).1
  have hfilled : ((before ++ (Name.ofString name, t) :: after).filter fun m => m.1.text != tag) =
      before.filter (fun m => m.1.text != tag) ++
        (Name.ofString name, t) :: after.filter fun m => m.1.text != tag := by
    have hkept : ((Name.ofString name).text != tag) = true := bne_iff_ne.mpr htag
    rw [List.filter_append, List.filter_cons, hkept, if_pos rfl]
  unfold variant? tagged?
  rw [← isSome_value?_fill hvalue]
  dsimp only
  rw [filter_fill htag, hbody, hfilled]
  split
  · split
    · next label _ =>
      cases label? site (layout.map Prod.fst) label with
      | none => rfl
      | some variant =>
        cases hnames : layout.lookup variant with
        | none =>
          show ((layout.lookup variant).bind _).bind k = ((layout.lookup variant).bind _).bind k
          rw [hnames]
          rfl
        | some names =>
          show ((layout.lookup variant).bind fun names => _).bind k =
            ((layout.lookup variant).bind fun names => _).bind k
          rw [hnames, Option.bind_some, Option.bind_some]
          show (Option.bind _ fun r => some (variant, r)).bind k =
            (Option.bind _ fun r => some (variant, r)).bind k
          rw [Option.bind_assoc, Option.bind_assoc]
          obtain ⟨_, _, hlayout, -⟩ := List.lookup_eq_some_iff.mp hnames
          have hvariant : variant ∈ layout.map Prod.fst := by simp [hlayout]
          exact bind_record?_fill hrest (hk variant hvariant)
    · rfl
  · rfl

end Json.Tree

/-! ### What is assumed -/

variable {r r' : Record}

theorem Coupon.ofRecord?_fill (h : Record.Fills "rate_status" (encode RateStatus.fixed).tree r r') :
    Coupon.ofRecord? r = Coupon.ofRecord? r' := by
  simp [Coupon.ofRecord?, h.required_of_ne, h.withDefault]

theorem Dividend.ofRecord?_fill {t : Tree} (h : Record.Fills "rate_status" t r r') :
    Dividend.ofRecord? r = Dividend.ofRecord? r' := by
  simp [Dividend.ofRecord?, h.required_of_ne]

/-- The rate of a coupon is set unless the coupon says otherwise. -/
theorem Coupon.assumes_rateStatus : Assumes Coupon "rate_status" (encode RateStatus.fixed) :=
  fun _ _ _ habsent => Tree.bind_record?_fill habsent fun _ _ h => Coupon.ofRecord?_fill h

theorem ActionKind.assumes_rateStatus :
    Assumes ActionKind "rate_status" (encode RateStatus.fixed) := by
  intro site before after habsent
  refine Tree.bind_variant?_fill habsent (by decide) rfl fun variant hvariant r r' h => ?_
  obtain rfl | rfl : variant = "Coupon" ∨ variant = "Dividend" := by
    simpa [ActionKind.layout] using hvariant
  · simp [Coupon.ofRecord?_fill h]
  · simp [Dividend.ofRecord?_fill h]

/-- A hold whose units may go to anybody need not say so. -/
theorem Hold.assumes_to : Assumes Hold "to" (encode (none : Option Address)) := by
  intro site before after habsent
  refine Tree.bind_record?_fill habsent fun r r' h => ?_
  simp [Record.optional, h.required_of_ne, h.withDefault]

/-- Values and units are whole and there is one partition, unless a configuration says otherwise. -/
theorem Config.assumes :
    Assumes Config "nominal_value_decimals" (encode (0 : UInt8)) ∧
      Assumes Config "token_decimals" (encode (0 : UInt8)) ∧
      Assumes Config "is_multi_partition" (encode false) := by
  refine ⟨?_, ?_, ?_⟩ <;> intro site before after habsent <;>
    refine Tree.bind_record?_fill habsent fun r r' h => ?_ <;>
    simp [h.required_of_ne, h.withDefault_of_ne, h.withDefault]

/-- A command is about the default partition unless it names another. -/
theorem Command.assumes_partition : Assumes Command "partition" (encode Partition.default) := by
  intro site before after habsent
  refine Tree.bind_variant?_fill habsent (by decide) rfl fun kind _ r r' h => ?_
  show Command.ofRecord? kind r = Command.ofRecord? kind r'
  unfold Command.ofRecord?
  split <;> simp [Record.optional, h.required_of_ne, h.withDefault_of_ne, h.withDefault]

/-- Of the accounts that units go to, only the one of a hold may be left out. -/
theorem Command.assumes_to : Assumes Command "to" (encode (none : Option Address)) := by
  intro site before after habsent
  refine Tree.bind_variant?_fill habsent (by decide) rfl fun kind _ r r' h => ?_
  have hto : (r.required "to" : Option Address) = r'.required "to" :=
    h.required_of_none fun _ => rfl
  show Command.ofRecord? kind r = Command.ofRecord? kind r'
  unfold Command.ofRecord?
  split <;> simp [Record.optional, h.required_of_ne, h.withDefault_of_ne, h.withDefault, hto]

/-- A query is about the default partition unless it names another. -/
theorem Query.assumes_partition : Assumes Query "partition" (encode Partition.default) := by
  intro site before after habsent
  refine Tree.bind_variant?_fill habsent (by decide) rfl fun kind hkind r r' h => ?_
  simp only [Query.layout, List.map_cons, List.map_nil, List.mem_cons, List.not_mem_nil,
    or_false] at hkind
  obtain rfl | rfl | rfl | rfl | rfl | rfl | rfl | rfl | rfl | rfl | rfl | rfl := hkind <;>
    simp [h.required_of_ne, h.withDefault]

end CouponBond
