import CouponBond.Wire.Basic
import Mathlib.Data.List.Nodup

/-!
# The same value in another style

Two writers of one value need not agree on its JSON: members of an object may come in any order,
and a record may have members that its reader does not know.  A map may not, since every member of
it counts.  What a record is read of does not depend on the style, because its fields are looked up
by name.

## Main Definitions

* `Json.Restyled` — a value in another style
* `Json.Rearranged` — what is left of the members of an object in another style
* `Record.Holds` — a record has the given members in some style

## Main Results

* `Json.Restyled.refl` — a value is in its own style
* `Json.Restyled.bind_record?` — a record is read of its members in any style
* `Json.Restyled.bind_variant?` — so is a record that names its variant
-/

namespace CouponBond

open Json (Tree)

namespace Json

/-- Whether a value has no parts. -/
def isLeaf : Json → Bool
  | .arr _ | .obj _ => false
  | _ => true

/-- Whether a name is a word.  The members of a record are named by words, those of a map by
numbers. -/
def isWord (name : String) : Bool := name.toList.head?.any Char.isAlpha

mutual

/-- A value in another style.  The members of an object may come in another order, and an object
whose members are named by words may have more of them under other names. -/
inductive Restyled : Json → Json → Prop
  | leaf {j : Json} (isLeaf : j.isLeaf = true) : Restyled j j
  | arr {items items' : List Json} (items_restyled : RestyledItems items items') :
      Restyled (.arr items) (.arr items')
  | obj {members restyled extras members' : List (String × Json)}
      (members_restyled : RestyledMembers members restyled)
      (perm : members'.Perm (restyled ++ extras))
      (unknown : ∀ m ∈ extras, m.1 ∉ members.map Prod.fst)
      (isRecord : extras ≠ [] → ∃ m ∈ members, isWord m.1 = true) :
      Restyled (.obj members) (.obj members')

/-- Items in another style, in the same order. -/
inductive RestyledItems : List Json → List Json → Prop
  | nil : RestyledItems [] []
  | cons {item item' : Json} {rest rest' : List Json} (head : Restyled item item')
      (tail : RestyledItems rest rest') : RestyledItems (item :: rest) (item' :: rest')

/-- Members in another style, under the same names and in the same order. -/
inductive RestyledMembers : List (String × Json) → List (String × Json) → Prop
  | nil : RestyledMembers [] []
  | cons {name : String} {value value' : Json} {rest rest' : List (String × Json)}
      (head : Restyled value value') (tail : RestyledMembers rest rest') :
      RestyledMembers ((name, value) :: rest) ((name, value') :: rest')

end

mutual

/-- A value is in its own style. -/
theorem Restyled.refl : ∀ j : Json, j.Restyled j
  | .null | .bool _ | .int _ | .decimal _ | .str _ => .leaf rfl
  | .arr items => .arr (RestyledItems.refl items)
  | .obj members => .obj (RestyledMembers.refl members) (.of_eq (List.append_nil members).symm)
      (fun _ h => nomatch h) fun h => absurd rfl h

theorem RestyledItems.refl : ∀ items : List Json, RestyledItems items items
  | [] => .nil
  | item :: rest => .cons (Restyled.refl item) (RestyledItems.refl rest)

theorem RestyledMembers.refl : ∀ members : List (String × Json), RestyledMembers members members
  | [] => .nil
  | (_, value) :: rest => .cons (Restyled.refl value) (RestyledMembers.refl rest)

end

variable {j : Json} {name tag variant : String} {items : List Json}
  {members members' restyled : List (String × Json)}

/-- A value without parts has only one style. -/
theorem Restyled.eq_of_isLeaf {j' : Json} (h : j.Restyled j') (hleaf : j.isLeaf = true) :
    j' = j := by
  cases h with
  | leaf _ => rfl
  | arr _ => cases hleaf
  | obj _ _ _ _ => cases hleaf

theorem Restyled.exists_items (h : (Json.arr items).Restyled j) :
    ∃ items', j = .arr items' ∧ RestyledItems items items' := by
  cases h with
  | leaf hleaf => cases hleaf
  | arr h => exact ⟨_, rfl, h⟩

theorem RestyledMembers.map_fst (h : RestyledMembers members restyled) :
    restyled.map Prod.fst = members.map Prod.fst := by
  induction members generalizing restyled with
  | nil =>
    cases h
    rfl
  | cons m rest ih =>
    cases h with
    | cons _ htail => rw [List.map_cons, List.map_cons, ih htail]

theorem RestyledMembers.exists_of_mem (h : RestyledMembers members restyled)
    (hmem : (name, j) ∈ members) : ∃ j', j.Restyled j' ∧ (name, j') ∈ restyled := by
  induction members generalizing restyled with
  | nil => cases hmem
  | cons m rest ih =>
    cases h with
    | cons hhead htail =>
      rcases List.mem_cons.mp hmem with heq | hmem
      · cases heq
        exact ⟨_, hhead, List.mem_cons_self⟩
      · obtain ⟨j', hj', hmem'⟩ := ih htail hmem
        exact ⟨j', hj', List.mem_cons_of_mem _ hmem'⟩

/-- The members of an object whose names are no words come in another order, and that is all. -/
theorem Restyled.exists_perm (h : (Json.obj members).Restyled j)
    (hnames : ∀ m ∈ members, isWord m.1 = false) :
    ∃ restyled members', j = .obj members' ∧ RestyledMembers members restyled ∧
      restyled.Perm members' := by
  cases h with
  | leaf hleaf => cases hleaf
  | @obj _ restyled extras members' hrestyled hperm _ hrecord =>
    have hnone : extras = [] := by
      by_contra hsome
      obtain ⟨m, hm, hword⟩ := hrecord hsome
      rw [hnames m hm] at hword
      cases hword
    rw [hnone, List.append_nil] at hperm
    exact ⟨restyled, members', rfl, hrestyled, hperm.symm⟩

/-! ### Members by name -/

/-- Members among others: each of them is there in some style, and no name of theirs stands more
often than before. -/
structure Rearranged (members members' : List (String × Json)) : Prop where
  carried : ∀ name j, (name, j) ∈ members → ∃ j', j.Restyled j' ∧ (name, j') ∈ members'
  count_eq : ∀ name ∈ members.map Prod.fst,
    (members'.map Prod.fst).count name = (members.map Prod.fst).count name

theorem Restyled.exists_rearranged (h : (Json.obj members).Restyled j) :
    ∃ members', j = .obj members' ∧ Rearranged members members' := by
  cases h with
  | leaf hleaf => cases hleaf
  | @obj _ restyled extras members' hrestyled hperm hunknown _ =>
    refine ⟨members', rfl, fun name j hmem => ?_, fun name hname => ?_⟩
    · obtain ⟨j', hj', hmem'⟩ := hrestyled.exists_of_mem hmem
      exact ⟨j', hj', hperm.mem_iff.mpr (List.mem_append_left _ hmem')⟩
    · have hextras : (extras.map Prod.fst).count name = 0 := by
        refine List.count_eq_zero.mpr fun hextra => ?_
        obtain ⟨m, hm, rfl⟩ := List.mem_map.mp hextra
        exact hunknown m hm hname
      rw [(hperm.map Prod.fst).count_eq, List.map_append, List.count_append, hextras,
        Nat.add_zero, hrestyled.map_fst]

/-- A name that stands only once is looked up as it stands. -/
theorem lookup_of_mem {β : Type} {value : β} {l : List (String × β)} (hmem : (name, value) ∈ l)
    (hcount : (l.map Prod.fst).count name ≤ 1) : l.lookup name = some value := by
  induction l with
  | nil => cases hmem
  | cons m rest ih =>
    obtain ⟨first, other⟩ := m
    rw [List.map_cons, List.count_cons] at hcount
    by_cases hfirst : first = name
    · subst hfirst
      rw [if_pos (by simp)] at hcount
      rcases List.mem_cons.mp hmem with heq | hmem
      · cases heq
        exact List.lookup_cons_self
      · have hagain : first ∈ rest.map Prod.fst := List.mem_map_of_mem hmem
        have := List.count_pos_iff.mpr hagain
        omega
    · rcases List.mem_cons.mp hmem with heq | hmem
      · cases heq
        exact absurd rfl hfirst
      · rw [List.lookup_cons, beq_false_of_ne (Ne.symm hfirst)]
        exact ih hmem (Nat.le_trans (Nat.le_add_right _ _) hcount)

/-- The members behind a tag, when the tag is taken out. -/
theorem Rearranged.withoutTag (h : Rearranged ((tag, .str variant) :: members) members')
    (htag : tag ∉ members.map Prod.fst) :
    members'.filter (fun m => m.1 == tag) = [(tag, .str variant)] ∧
      Rearranged members (members'.filter fun m => m.1 != tag) := by
  have hcount (name : String) : (members'.map Prod.fst).count name =
      (members'.filter fun m => m.1 == name).length := by
    rw [List.count_eq_countP, List.countP_map, List.countP_eq_length_filter]
    rfl
  constructor
  · obtain ⟨j', hj', hmem⟩ := h.carried tag _ List.mem_cons_self
    obtain rfl := hj'.eq_of_isLeaf rfl
    have honce := h.count_eq tag List.mem_cons_self
    rw [List.map_cons, List.count_cons_self, List.count_eq_zero.mpr htag, hcount] at honce
    obtain ⟨only, honly⟩ := List.length_eq_one_iff.mp honce
    have hfound : (tag, Json.str variant) ∈ members'.filter fun m => m.1 == tag :=
      List.mem_filter.mpr ⟨hmem, by simp⟩
    rw [honly] at hfound ⊢
    rw [List.mem_singleton.mp hfound]
  · constructor
    · intro name j hmem
      obtain ⟨j', hj', hmem'⟩ := h.carried name j (List.mem_cons_of_mem _ hmem)
      have hname : name ∈ members.map Prod.fst := List.mem_map_of_mem hmem
      exact ⟨j', hj', List.mem_filter.mpr ⟨hmem', bne_iff_ne.mpr (ne_of_mem_of_not_mem hname htag)⟩⟩
    · intro name hname
      have hne : tag ≠ name := by
        rintro rfl
        exact htag hname
      have hsame := h.count_eq name (List.mem_cons_of_mem _ hname)
      rw [List.map_cons, List.count_cons_of_ne hne] at hsame
      rw [← hsame, List.count_eq_countP, List.count_eq_countP, List.countP_map, List.countP_map,
        List.countP_filter]
      refine List.countP_congr fun m _ => ?_
      simp only [Function.comp_apply, Bool.and_eq_true, beq_iff_eq, bne_iff_ne]
      exact ⟨And.left, fun h => ⟨h, h ▸ hne.symm⟩⟩

end Json

/-! ### Records -/

namespace Record

/-- A record has a member, in some style, under a name. -/
def Carries (r : Record) (name : String) (j : Json) : Prop :=
  ∃ j', j.Restyled j' ∧ r.fields.lookup name = some j'.tree

/-- A record has the given members, each in some style. -/
def Holds (r : Record) : List (String × Json) → Prop
  | [] => True
  | (name, j) :: rest => r.Carries name j ∧ r.Holds rest

theorem holds_iff {r : Record} {members : List (String × Json)} :
    r.Holds members ↔ ∀ m ∈ members, r.Carries m.1 m.2 := by
  induction members with
  | nil => simp [Holds]
  | cons m rest ih => rw [Holds, ih, List.forall_mem_cons]

end Record

namespace Json

variable {j : Json} {tag variant : String} {names : FieldNames}
  {members members' : List (String × Json)}

theorem treeMembers_eq_map (members : List (String × Json)) :
    treeMembers members = members.map fun m => (Name.ofString m.1, m.2.tree) := by
  induction members with
  | nil => rfl
  | cons m members ih => rw [treeMembers, ih, List.map_cons]

/-- Members are chosen by their names before or after they are read. -/
theorem filter_treeMembers (p : String → Bool) (members : List (String × Json)) :
    (treeMembers members).filter (fun m => p m.1.text) =
      treeMembers (members.filter fun m => p m.1) := by
  rw [treeMembers_eq_map, treeMembers_eq_map, List.filter_map]
  rfl

/-- A record is read of its members among others. -/
theorem Rearranged.record? (h : Rearranged members members') (site : Site)
    (hnames : members.map Prod.fst = names) (hnodup : names.Nodup) :
    ∃ r, Tree.record? site names (.obj (treeMembers members')) = some r ∧ r.Holds members := by
  have hcount : ∀ name ∈ names, (members'.map Prod.fst).count name ≤ 1 := by
    intro name hname
    rw [← hnames] at hname hnodup
    rw [h.count_eq name hname]
    exact List.nodup_iff_count.mp hnodup name
  have hall : (names.all fun name =>
      decide (((treeMembers members').filter fun m => m.1.text == name).length ≤ 1)) = true := by
    refine List.all_eq_true.mpr fun name hname => decide_eq_true ?_
    have honce := hcount name hname
    rw [List.count_eq_countP, List.countP_map, List.countP_eq_length_filter] at honce
    rwa [filter_treeMembers (fun other => other == name), treeMembers_eq_map, List.length_map]
  refine ⟨_, if_pos hall, Record.holds_iff.mpr fun m hm => ?_⟩
  obtain ⟨j', hj', hmem⟩ := h.carried m.1 m.2 hm
  refine ⟨j', hj', ?_⟩
  dsimp only
  rw [treeMembers_eq_map, List.map_map]
  refine lookup_of_mem (List.mem_map.mpr ⟨_, hmem, rfl⟩) ?_
  rw [List.map_map]
  exact hcount m.1 (hnames ▸ List.mem_map_of_mem hm)

/-- What is made of a record is made of its members in any style. -/
theorem Restyled.bind_record? {α : Type} {k : Record → Option α} {a : α} {site : Site}
    (h : (Json.obj members).Restyled j) (hnames : members.map Prod.fst = names)
    (hnodup : names.Nodup) (hk : ∀ r, r.Holds members → k r = some a) :
    (j.tree.record? site names).bind k = some a := by
  obtain ⟨members', rfl, hrearranged⟩ := h.exists_rearranged
  obtain ⟨r, hr, hholds⟩ := hrearranged.record? site hnames hnodup
  rw [Json.tree, hr]
  exact hk r hholds

/-- What is made of a record that names its variant is made of its members in any style. -/
theorem Restyled.bind_variant? {α : Type} {k : String × Record → Option α} {a : α} {site : Site}
    {layout : Layout} (h : (Json.obj ((tag, .str variant) :: members)).Restyled j)
    (hlayout : layout.lookup variant = some names) (hnames : members.map Prod.fst = names)
    (hnodup : names.Nodup) (htag : tag ∉ names)
    (hk : ∀ r, r.Holds members → k (variant, r) = some a) :
    (j.tree.variant? site tag layout).bind k = some a := by
  obtain ⟨members', rfl, hrearranged⟩ := h.exists_rearranged
  obtain ⟨hlabel, hrest⟩ := hrearranged.withoutTag (hnames ▸ htag)
  obtain ⟨r, hr, hholds⟩ := hrest.record? .variant hnames hnodup
  have htagged : (Json.obj members').tree.tagged? site tag (layout.map Prod.fst) =
      some (variant, .obj (treeMembers (members'.filter fun m => m.1 != tag))) := by
    rw [Json.tree, Tree.tagged?, filter_treeMembers (fun name => name == tag),
      filter_treeMembers (fun name => name != tag), hlabel]
    rfl
  have hvariant : (Json.obj members').tree.variant? site tag layout = some (variant, r) := by
    unfold Tree.variant?
    rw [value?_tree, htagged]
    show ((layout.lookup variant).bind fun names => _) = _
    rw [hlayout]
    show ((Tree.record? .variant names (.obj (treeMembers _))).bind fun r => _) = _
    rw [hr]
    rfl
  rw [hvariant]
  exact hk r hholds

end Json

end CouponBond
