import CouponBond.Bond.Checkpoint
import CouponBond.Proofs.WireLaws
import Mathlib.Data.List.Induction
import Mathlib.Data.List.Sort

/-!
# What a canonical text says

A value is digested as a text without blanks in which every object is sorted by name.  Two values
have the same canonical text exactly when they are equal up to the order of members: sorting forgets
the order and nothing else, and a text without blanks can be read back, however deep it is nested.

An object is compared as a map from names to values.  If it is written with a name twice, the later
member counts, as it does for whoever sorts the members.

## Main Definitions

* `Json.valueAt?` — an object as a map
* `Json.Same` — equality of values whose objects are maps
* `Json.FloatFree` — the values without fractions

## Main Results

* `Json.lookup_sortMembers` — sorted members are the map of the object
* `Json.canonical_eq_iff` — what sorting forgets
* `Json.FloatFree.eq_of_print_eq` — a text has one value, at any depth
* `Json.canonicalText_eq_iff` — canonical texts compare values
-/

namespace CouponBond.Json

variable {j j' : Json} {name other : String} {value : Json} {items items' : List Json}
  {members members' : List (String × Json)}

/-! ### Values up to the order of members -/

/-- The value of a name in an object; of two members with one name the later counts. -/
def valueAt? (members : List (String × Json)) (name : String) : Option Json :=
  members.reverse.lookup name

/-- Values that are equal when objects, at any depth, are compared as maps from names to values. -/
inductive Same : Json → Json → Prop
  | leaf {j : Json} (isLeaf : j.isLeaf = true) : Same j j
  | arr {items items' : List Json} (length_eq : items.length = items'.length)
      (each : ∀ (i : Nat) item item', items[i]? = some item → items'[i]? = some item' →
        Same item item') :
      Same (.arr items) (.arr items')
  | obj {members members' : List (String × Json)}
      (names : ∀ name, (valueAt? members name).isSome = (valueAt? members' name).isSome)
      (each : ∀ name value value', valueAt? members name = some value →
        valueAt? members' name = some value' → Same value value') :
      Same (.obj members) (.obj members')

/-- No part of a value is a number other than a whole one of 64 bits. -/
inductive FloatFree : Json → Prop
  | null : FloatFree .null
  | bool (b : Bool) : FloatFree (.bool b)
  | str (s : String) : FloatFree (.str s)
  | int {n : Int} (low : -(negativeLimit : Int) ≤ n) (high : n < UInt64.size) : FloatFree (.int n)
  | arr {items : List Json} (each : ∀ item ∈ items, FloatFree item) : FloatFree (.arr items)
  | obj {members : List (String × Json)} (each : ∀ m ∈ members, FloatFree m.2) :
      FloatFree (.obj members)

/-! ### Sorted members -/

theorem lookup_cons_eq (name : String) (value : Json) (members : List (String × Json))
    (other : String) : ((name, value) :: members).lookup other =
      if other = name then some value else members.lookup other := by
  rw [List.lookup_cons]
  split
  · next heq => rw [if_pos (beq_iff_eq.mp heq)]
  · next hne => rw [if_neg (beq_eq_false_iff_ne.mp hne)]

theorem lookup_insertMember (name : String) (value : Json) (members : List (String × Json))
    (other : String) : (insertMember name value members).lookup other =
      if other = name then some value else members.lookup other := by
  induction members with
  | nil => rw [insertMember, lookup_cons_eq]
  | cons m rest ih =>
    obtain ⟨n, v⟩ := m
    rw [insertMember]
    split
    · next heq =>
      rw [lookup_cons_eq, lookup_cons_eq, heq]
      split <;> rfl
    split
    · rw [lookup_cons_eq]
    · next hne _ =>
      rw [lookup_cons_eq, lookup_cons_eq, ih]
      by_cases h : other = n
      · rw [if_pos h, if_pos h, if_neg fun e => hne (e.symm.trans h)]
      · rw [if_neg h, if_neg h]

theorem mem_insertMember {m : String × Json} (h : m ∈ insertMember name value members) :
    m = (name, value) ∨ m ∈ members := by
  induction members with
  | nil => exact .inl (List.mem_singleton.mp h)
  | cons first rest ih =>
    rw [insertMember] at h
    grind

/-- Members with ascending names. -/
def Ascending (members : List (String × Json)) : Prop := members.Pairwise fun a b => a.1 < b.1

theorem ascending_insertMember (name : String) (value : Json) (h : Ascending members) :
    Ascending (insertMember name value members) := by
  induction members with
  | nil => exact List.pairwise_singleton _ _
  | cons first rest ih =>
    obtain ⟨hfirst, hrest⟩ := List.pairwise_cons.mp h
    rw [insertMember]
    split
    · next heq =>
      exact List.pairwise_cons.mpr ⟨hfirst, hrest⟩
    split
    · next hlt =>
      refine List.pairwise_cons.mpr ⟨fun m hm => ?_, h⟩
      rcases List.mem_cons.mp hm with rfl | hm
      · exact hlt
      · exact String.lt_trans hlt (hfirst m hm)
    · next hne hge =>
      refine List.pairwise_cons.mpr ⟨fun m hm => ?_, ih hrest⟩
      rcases mem_insertMember hm with rfl | hm
      · by_contra hle
        exact hne (String.le_antisymm (String.not_lt.mp hle) (String.not_lt.mp hge))
      · exact hfirst m hm

theorem sortMembers_append (members : List (String × Json)) (m : String × Json) :
    sortMembers (members ++ [m]) = insertMember m.1 m.2 (sortMembers members) := by
  rw [sortMembers, List.foldl_append]
  rfl

theorem ascending_sortMembers (members : List (String × Json)) :
    Ascending (sortMembers members) := by
  induction members using List.reverseRecOn with
  | nil => exact List.Pairwise.nil
  | append_singleton members m ih =>
    rw [sortMembers_append]
    exact ascending_insertMember _ _ ih

theorem mem_of_mem_sortMembers {m : String × Json} (h : m ∈ sortMembers members) :
    m ∈ members := by
  induction members using List.reverseRecOn with
  | nil => cases h
  | append_singleton members last ih =>
    rw [sortMembers_append] at h
    rcases mem_insertMember h with rfl | h
    · exact List.mem_append_right _ (List.mem_singleton_self _)
    · exact List.mem_append_left _ (ih h)

theorem valueAt?_append (members : List (String × Json)) (m : String × Json) (name : String) :
    valueAt? (members ++ [m]) name = if name = m.1 then some m.2 else valueAt? members name := by
  rw [valueAt?, List.reverse_append, List.reverse_singleton, List.singleton_append,
    lookup_cons_eq, valueAt?]

/-- Sorted members are the map of the object. -/
theorem lookup_sortMembers (members : List (String × Json)) (name : String) :
    (sortMembers members).lookup name = valueAt? members name := by
  induction members using List.reverseRecOn with
  | nil => rfl
  | append_singleton members m ih =>
    rw [sortMembers_append, lookup_insertMember, valueAt?_append, ih]

theorem mem_of_lookup {l : List (String × Json)} (h : l.lookup name = some value) :
    (name, value) ∈ l := by
  obtain ⟨front, back, rfl, -⟩ := List.lookup_eq_some_iff.mp h
  exact List.mem_append_right _ List.mem_cons_self

theorem Ascending.mem_iff (h : Ascending members) :
    (name, value) ∈ members ↔ members.lookup name = some value := by
  refine ⟨fun hmem => lookup_of_mem hmem ?_, mem_of_lookup⟩
  have hne : ∀ {a b : String × Json}, a.1 < b.1 → a.1 ≠ b.1 := fun hlt heq =>
    String.lt_irrefl _ (heq ▸ hlt)
  have hnodup : (members.map Prod.fst).Nodup := List.pairwise_map.mpr (h.imp hne)
  exact List.nodup_iff_count.mp hnodup name

/-- Members with ascending names are known by what is looked up in them. -/
theorem Ascending.eq_of_lookup (h : Ascending members) (h' : Ascending members')
    (hlookup : ∀ name, members.lookup name = members'.lookup name) : members = members' := by
  have hantisymm : Std.Antisymm fun a b : String × Json => a.1 < b.1 :=
    ⟨fun _ _ hab hba => absurd hba (String.lt_asymm hab)⟩
  have hirrefl : Std.Irrefl fun a b : String × Json => a.1 < b.1 :=
    ⟨fun a => String.lt_irrefl a.1⟩
  refine List.Pairwise.eq_of_mem_iff h h' fun m => ?_
  rw [h.mem_iff, h'.mem_iff, hlookup]

/-- Two objects have the same sorted members when they are the same map. -/
theorem sortMembers_eq_iff : sortMembers members = sortMembers members' ↔
    ∀ name, valueAt? members name = valueAt? members' name := by
  constructor
  · intro h name
    rw [← lookup_sortMembers, ← lookup_sortMembers, h]
  · intro h
    refine (ascending_sortMembers _).eq_of_lookup (ascending_sortMembers _) fun name => ?_
    rw [lookup_sortMembers, lookup_sortMembers, h]

/-! ### What sorting forgets -/

theorem canonicalItems_eq_map (items : List Json) :
    canonicalItems items = items.map canonical := by
  induction items with
  | nil => rfl
  | cons item items ih => rw [canonicalItems, ih, List.map_cons]

theorem canonicalMembers_eq_map (members : List (String × Json)) :
    canonicalMembers members = members.map fun m => (m.1, m.2.canonical) := by
  induction members with
  | nil => rfl
  | cons m members ih => rw [canonicalMembers, ih, List.map_cons]

theorem valueAt?_canonicalMembers (members : List (String × Json)) (name : String) :
    valueAt? (canonicalMembers members) name = (valueAt? members name).map canonical := by
  rw [canonicalMembers_eq_map]
  induction members using List.reverseRecOn with
  | nil => rfl
  | append_singleton members m ih =>
    rw [List.map_append, List.map_singleton, valueAt?_append, valueAt?_append, ih]
    split <;> rfl

theorem canonical_of_isLeaf (h : j.isLeaf = true) : j.canonical = j := by
  cases j <;> first | rfl | cases h

theorem isLeaf_canonical (j : Json) : j.canonical.isLeaf = j.isLeaf := by
  cases j <;> rfl

theorem canonical_obj_eq_iff : (Json.obj members).canonical = (Json.obj members').canonical ↔
    ∀ name, (valueAt? members name).map canonical = (valueAt? members' name).map canonical := by
  rw [canonical, canonical, Json.obj.injEq, sortMembers_eq_iff]
  simp only [valueAt?_canonicalMembers]

theorem isSome_eq_of_map_eq {a b : Option Json} (h : a.map canonical = b.map canonical) :
    a.isSome = b.isSome := by
  rw [← Option.isSome_map (f := canonical), h, Option.isSome_map]

/-- Values that are equal up to the order of members are sorted alike. -/
theorem Same.canonical_eq (h : j.Same j') : j.canonical = j'.canonical := by
  induction h with
  | leaf _ => rfl
  | @arr items items' hlength _ ih =>
    rw [canonical, canonical, canonicalItems_eq_map, canonicalItems_eq_map, Json.arr.injEq]
    refine List.ext_getElem (by rw [List.length_map, List.length_map, hlength]) fun i hi hi' => ?_
    rw [List.length_map] at hi hi'
    rw [List.getElem_map, List.getElem_map]
    exact ih i _ _ (List.getElem?_eq_getElem hi) (List.getElem?_eq_getElem hi')
  | @obj members members' hnames _ ih =>
    refine canonical_obj_eq_iff.mpr fun name => ?_
    have hname := hnames name
    cases hm : valueAt? members name with
    | none =>
      rw [hm, Option.isSome_none, eq_comm, Option.isSome_eq_false_iff,
        Option.isNone_iff_eq_none] at hname
      rw [hname]
    | some value =>
      rw [hm] at hname
      obtain ⟨value', hm'⟩ := Option.isSome_iff_exists.mp hname.symm
      rw [hm', Option.map_some, Option.map_some, ih name value value' hm hm']

/-! ### Values that are sorted alike -/

theorem eq_of_canonical_eq (hleaf : j.isLeaf = true) (h : j.canonical = j'.canonical) :
    j = j' := by
  have hleaf' : j'.isLeaf = true := by rw [← isLeaf_canonical, ← h, isLeaf_canonical, hleaf]
  rwa [canonical_of_isLeaf hleaf, canonical_of_isLeaf hleaf'] at h

theorem exists_items_of_canonical_eq (h : (Json.arr items).canonical = j.canonical) :
    ∃ items', j = .arr items' ∧ items.map canonical = items'.map canonical := by
  cases j with
  | arr items' =>
    rw [canonical, canonical, canonicalItems_eq_map, canonicalItems_eq_map, Json.arr.injEq] at h
    exact ⟨items', rfl, h⟩
  | _ => cases h

theorem exists_members_of_canonical_eq (h : (Json.obj members).canonical = j.canonical) :
    ∃ members', j = .obj members' ∧
      ∀ name, (valueAt? members name).map canonical = (valueAt? members' name).map canonical := by
  cases j with
  | obj members' => exact ⟨members', rfl, canonical_obj_eq_iff.mp h⟩
  | _ => cases h

theorem sizeOf_lt_of_getElem? {i : Nat} {item : Json} (h : items[i]? = some item) :
    sizeOf item < sizeOf (Json.arr items) := by
  have hmem := List.sizeOf_lt_of_mem (List.mem_of_getElem? h)
  rw [Json.arr.sizeOf_spec]
  omega

theorem sizeOf_lt_of_valueAt? (h : valueAt? members name = some value) :
    sizeOf value < sizeOf (Json.obj members) := by
  have hmem : (name, value) ∈ members := List.mem_reverse.mp (mem_of_lookup h)
  have hsize := List.sizeOf_lt_of_mem hmem
  rw [Prod.mk.sizeOf_spec] at hsize
  rw [Json.obj.sizeOf_spec]
  omega

/-- Values that are sorted alike are equal up to the order of members. -/
theorem same_of_canonical_eq : ∀ {j j' : Json}, j.canonical = j'.canonical → j.Same j'
  | .null, _, h | .bool _, _, h | .int _, _, h | .decimal _, _, h | .str _, _, h =>
    eq_of_canonical_eq rfl h ▸ .leaf rfl
  | .arr items, _, h => by
    obtain ⟨items', rfl, hitems⟩ := exists_items_of_canonical_eq h
    have hlength := congrArg List.length hitems
    rw [List.length_map, List.length_map] at hlength
    refine .arr hlength fun i item item' hi hi' => same_of_canonical_eq ?_
    have hat := congrArg (fun l : List Json => l[i]?) hitems
    simpa only [List.getElem?_map, hi, hi', Option.map_some, Option.some.injEq] using hat
  | .obj members, _, h => by
    obtain ⟨members', rfl, hvalues⟩ := exists_members_of_canonical_eq h
    refine .obj (fun name => isSome_eq_of_map_eq (hvalues name))
      fun name value value' hm hm' => same_of_canonical_eq ?_
    have hat := hvalues name
    rwa [hm, hm', Option.map_some, Option.map_some, Option.some.injEq] at hat
termination_by j => sizeOf j
decreasing_by
  · exact sizeOf_lt_of_getElem? hi
  · exact sizeOf_lt_of_valueAt? hm

/-- Sorting forgets the order of members and nothing else. -/
theorem canonical_eq_iff : j.canonical = j'.canonical ↔ j.Same j' :=
  ⟨same_of_canonical_eq, Same.canonical_eq⟩

/-! ### Texts -/

/-- A list of values, each of which may lie at some level, may lie at one level. -/
theorem exists_level {α : Type} {l : List α} (pick : α → Json)
    (h : ∀ a ∈ l, ∃ levels, (pick a).Fits levels) : ∃ levels, ∀ a ∈ l, (pick a).Fits levels := by
  induction l with
  | nil => exact ⟨0, fun _ ha => nomatch ha⟩
  | cons a l ih =>
    rw [List.forall_mem_cons] at h
    obtain ⟨first, hfirst⟩ := h.1
    obtain ⟨rest, hrest⟩ := ih h.2
    exact ⟨max first rest, List.forall_mem_cons.mpr ⟨hfirst.mono (Nat.le_max_left _ _),
      fun b hb => (hrest b hb).mono (Nat.le_max_right _ _)⟩⟩

/-- However deep a value is nested, it could be read back if so many levels were allowed. -/
theorem FloatFree.exists_fits (h : j.FloatFree) : ∃ levels, j.Fits levels := by
  induction h with
  | null | bool _ | str _ => exact ⟨0, trivial⟩
  | int hlow hhigh => exact ⟨0, hlow, hhigh⟩
  | arr _ ih =>
    obtain ⟨levels, hlevels⟩ := exists_level id ih
    exact ⟨levels + 1, Nat.succ_pos _, fitsItems_iff.mpr hlevels⟩
  | obj _ ih =>
    obtain ⟨levels, hlevels⟩ := exists_level Prod.snd ih
    exact ⟨levels + 1, Nat.succ_pos _, fitsMembers_iff.mpr hlevels⟩

/-- A text has one value, because the text says where each part of it ends. -/
theorem FloatFree.eq_of_print_eq (h : j.FloatFree) (h' : j'.FloatFree)
    (hprint : j.print = j'.print) : j = j' := by
  obtain ⟨levels, hfits⟩ := h.exists_fits
  obtain ⟨levels', hfits'⟩ := h'.exists_fits
  have hrender : j.render = j'.render := String.ofList_injective hprint
  have hread := readValue_render j (max levels levels') j.render.length []
    (hfits.mono (Nat.le_max_left _ _)) endsNumber_nil (Nat.le_refl _)
  have hread' := readValue_render j' (max levels levels') j.render.length []
    (hfits'.mono (Nat.le_max_right _ _)) endsNumber_nil (Nat.le_of_eq (congrArg _ hrender.symm))
  rw [← hrender, hread] at hread'
  have htree : j.tree = j'.tree := congrArg Prod.fst (Option.some.inj hread')
  have hvalue := value?_tree j
  rw [htree, value?_tree] at hvalue
  exact (Option.some.inj hvalue).symm

theorem FloatFree.canonical (h : j.FloatFree) : j.canonical.FloatFree := by
  induction h with
  | null => exact .null
  | bool b => exact .bool b
  | str s => exact .str s
  | int hlow hhigh => exact .int hlow hhigh
  | arr _ ih =>
    rw [Json.canonical, canonicalItems_eq_map]
    refine .arr fun item hitem => ?_
    obtain ⟨original, horiginal, rfl⟩ := List.mem_map.mp hitem
    exact ih original horiginal
  | obj _ ih =>
    rw [Json.canonical, canonicalMembers_eq_map]
    refine .obj fun m hm => ?_
    obtain ⟨original, horiginal, rfl⟩ := List.mem_map.mp (mem_of_mem_sortMembers hm)
    exact ih original horiginal

/-- Two values have one canonical text exactly when they are equal up to the order of members. -/
theorem canonicalText_eq_iff (h : j.FloatFree) (h' : j'.FloatFree) :
    j.canonicalText = j'.canonicalText ↔ j.Same j' := by
  rw [← canonical_eq_iff]
  exact ⟨h.canonical.eq_of_print_eq h'.canonical, congrArg print⟩

/-- Neither object has its members in order, at either level. -/
example :
    (obj [("b", obj [("d", .int 3), ("c", .int 2)]), ("a", .int 1)]).canonicalText =
      (obj [("a", .int 1), ("b", obj [("c", .int 2), ("d", .int 3)])]).canonicalText := rfl

end CouponBond.Json
