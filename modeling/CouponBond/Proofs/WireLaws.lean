import CouponBond.Proofs.Restyling
import CouponBond.Proofs.WireText
import Mathlib.Data.List.Nodup

/-!
# Reading undoes writing: containers and records

What makes a written form faithful, and the rules by which the forms of containers and records
inherit it from their parts.  Whoever writes a value may have another style, so reading has to
undo all of them.  The value that is read need not be the one that was written, so the rules relate
the two.

## Main Definitions

* `Wire.ReadsAs` — what is read of a written value, in any style
* `Wire.Faithful` — a type whose values are read as they were written
* `Wire.Bounded` — a type whose written forms are nested only so deep

## Main Results

* `Record.Carries.required`, `Record.Carries.withDefault` — a field is read of its member
* `SortedMap.readsAs` — a map is read value by value, in any order
-/

namespace CouponBond

open Json (Tree)

namespace Wire

variable {α β : Type} [Wire α] [Wire β]

/-- What is read of the first value, once it is written in any style, is the second. -/
def ReadsAs (a b : α) : Prop :=
  ∀ j, (encode a).Restyled j → ∀ site, read? site j.tree = some b

/-- A value without parts is read of the one style that it has. -/
theorem readsAs_of_isLeaf {a b : α} (hleaf : (encode a).isLeaf = true)
    (h : ∀ site, read? site (encode a).tree = some b) : ReadsAs a b := by
  intro j hj site
  rw [hj.eq_of_isLeaf hleaf]
  exact h site

/-- A type whose values are read as they were written. -/
class Faithful (α : Type) [Wire α] : Prop where
  readsAs_self : ∀ a : α, ReadsAs a a

export Faithful (readsAs_self)

/-- A type whose written forms can be printed and are nested only so deep. -/
class Bounded (α : Type) [Wire α] where
  depth : Nat
  fits_depth : ∀ a : α, (encode a).Fits depth

end Wire

open Wire

/-! ### Nesting -/

namespace Json

mutual

/-- A value that may lie at a level may lie at a higher one. -/
theorem Fits.mono : ∀ {j : Json} {m n : Nat}, j.Fits m → m ≤ n → j.Fits n
  | .null, _, _, _, _ | .bool _, _, _, _, _ | .str _, _, _, _, _ => trivial
  | .int _, _, _, h, _ => h
  | .decimal _, _, _, h, _ => h
  | .arr _, _, _, h, hle =>
    ⟨Nat.lt_of_lt_of_le h.1 hle, FitsItems.mono h.2 (Nat.sub_le_sub_right hle 1)⟩
  | .obj _, _, _, h, hle =>
    ⟨Nat.lt_of_lt_of_le h.1 hle, FitsMembers.mono h.2 (Nat.sub_le_sub_right hle 1)⟩

theorem FitsItems.mono : ∀ {items : List Json} {m n : Nat}, FitsItems m items → m ≤ n →
    FitsItems n items
  | [], _, _, _, _ => trivial
  | _ :: _, _, _, h, hle => ⟨Fits.mono h.1 hle, FitsItems.mono h.2 hle⟩

theorem FitsMembers.mono : ∀ {members : List (String × Json)} {m n : Nat},
    FitsMembers m members → m ≤ n → FitsMembers n members
  | [], _, _, _, _ => trivial
  | (_, _) :: _, _, _, h, hle => ⟨Fits.mono h.1 hle, FitsMembers.mono h.2 hle⟩

end

theorem fitsItems_iff {levels : Nat} {items : List Json} :
    FitsItems levels items ↔ ∀ j ∈ items, j.Fits levels := by
  induction items with
  | nil => simp [FitsItems]
  | cons item items ih => simp [FitsItems, ih]

theorem fitsMembers_iff {levels : Nat} {members : List (String × Json)} :
    FitsMembers levels members ↔ ∀ m ∈ members, m.2.Fits levels := by
  induction members with
  | nil => simp [FitsMembers]
  | cons m members ih => simp [FitsMembers, ih]

theorem treeItems_eq_map (items : List Json) : treeItems items = items.map Json.tree := by
  induction items with
  | nil => rfl
  | cons item items ih => rw [treeItems, ih, List.map_cons]

end Json

theorem Wire.Bounded.fits {α : Type} [Wire α] [Bounded α] {levels : Nat}
    (h : Bounded.depth α ≤ levels) (a : α) : (encode a).Fits levels := (fits_depth a).mono h

/-! ### Scalars -/

instance : Faithful Bool := ⟨fun _ => readsAs_of_isLeaf rfl fun _ => rfl⟩
instance : Bounded Bool := ⟨0, fun _ => trivial⟩

instance : Faithful String := ⟨fun _ => readsAs_of_isLeaf rfl fun _ => rfl⟩
instance : Bounded String := ⟨0, fun _ => trivial⟩

instance : Faithful UInt64 where
  readsAs_self n := readsAs_of_isLeaf rfl fun _ => by
    show (if n.toNat < UInt64.size then some (UInt64.ofNat n.toNat) else none) = some n
    rw [if_pos n.toNat_lt, UInt64.ofNat_toNat]

instance : Bounded UInt64 where
  depth := 0
  fits_depth n := by
    refine ⟨?_, Int.ofNat_lt.mpr n.toNat_lt⟩
    exact Int.le_trans (by decide) (Int.natCast_nonneg n.toNat)

instance : Faithful UInt8 where
  readsAs_self n := readsAs_of_isLeaf rfl fun _ => by
    show (if n.toNat < UInt8.size then some (UInt8.ofNat n.toNat) else none) = some n
    rw [if_pos n.toNat_lt, UInt8.ofNat_toNat]

instance : Bounded UInt8 where
  depth := 0
  fits_depth n := by
    refine ⟨Int.le_trans (by decide) (Int.natCast_nonneg n.toNat), ?_⟩
    exact Int.ofNat_lt.mpr (Nat.lt_trans n.toNat_lt (by decide))

instance : Faithful Address where
  readsAs_self a := readsAs_of_isLeaf rfl fun _ => by
    show readText? (fun s => (Address.parse s).toOption) (.str a.text) = some a
    rw [readText?, Address.parse_text]
    rfl

instance : Bounded Address := ⟨0, fun _ => trivial⟩

instance : Faithful Partition where
  readsAs_self p := readsAs_of_isLeaf rfl fun _ => by
    show readText? (fun s => (Partition.parse s).toOption) (.str p.text) = some p
    rw [readText?, Partition.parse_text]
    rfl

instance : Bounded Partition := ⟨0, fun _ => trivial⟩

instance : Faithful Word256 where
  readsAs_self w := readsAs_of_isLeaf rfl fun _ => by
    show readText? Word256.parse? (.str w.text) = some w
    rw [readText?, Word256.parse?_text]

instance : Faithful BondId where
  readsAs_self id := readsAs_of_isLeaf rfl fun _ => by
    show readText? BondId.parse? (.str id.text) = some id
    rw [readText?, BondId.parse?_text]
instance : Bounded BondId := ⟨0, fun _ => trivial⟩

/-! ### Containers -/

/-- An account is not written as nothing is. -/
instance : Faithful (Option Address) where
  readsAs_self
    | none => readsAs_of_isLeaf rfl fun _ => rfl
    | some a => readsAs_of_isLeaf rfl fun site => by
      show (read? site (encode a).tree).map some = some (some a)
      rw [readsAs_self a _ (.refl _) site]
      rfl

instance {α : Type} [Wire α] [Bounded α] : Bounded (Option α) where
  depth := Bounded.depth α
  fits_depth
    | none => trivial
    | some a => Bounded.fits_depth a

theorem List.readsAs {α : Type} [Wire α] {f : α → α} (h : ∀ a, ReadsAs a (f a)) (l : List α) :
    ReadsAs l (l.map f) := by
  intro j hj site
  obtain ⟨items, rfl, hitems⟩ := hj.exists_items
  show (Json.treeItems items).mapM (read? site) = some (l.map f)
  rw [Json.treeItems_eq_map]
  clear hj
  induction l generalizing items with
  | nil =>
    cases hitems
    rfl
  | cons a l ih =>
    cases hitems with
    | cons hhead htail =>
      rw [List.map_cons, List.map_cons, List.mapM_cons, h a _ hhead site,
        ih _ htail]
      rfl

instance {α : Type} [Wire α] [Faithful α] : Faithful (List α) where
  readsAs_self l := by
    have h := List.readsAs (f := id) readsAs_self l
    rwa [List.map_id] at h

/-- A pair is read of its two items. -/
instance {α β : Type} [Wire α] [Wire β] [Faithful α] [Faithful β] : Faithful (α × β) where
  readsAs_self p j hj site := by
    obtain ⟨items, rfl, hitems⟩ := Json.Restyled.exists_items hj
    cases hitems with
    | cons hfirst hrest =>
      cases hrest with
      | cons hsecond hnil =>
        cases hnil
        show ((read? site _).bind fun a => (read? site _).bind fun b => some (a, b)) = some p
        rw [readsAs_self p.1 _ hfirst site, Option.bind_some, readsAs_self p.2 _ hsecond site]
        rfl

instance {α : Type} [Wire α] [Bounded α] : Bounded (List α) where
  depth := Bounded.depth α + 1
  fits_depth l := by
    refine ⟨Nat.succ_pos _, Json.fitsItems_iff.mpr ?_⟩
    intro j hj
    obtain ⟨a, -, rfl⟩ := List.mem_map.mp hj
    exact Bounded.fits_depth a

/-! ### Maps -/

/-- A type whose values are read back from the names that they are written as, which are no
words. -/
class FaithfulKey (K : Type) [KeyText K] : Prop where
  readKey?_keyText : ∀ k : K, KeyText.readKey? (Json.Name.ofString (KeyText.keyText k)) = some k
  isWord_keyText : ∀ k : K, Json.isWord (KeyText.keyText k) = false

/-- The text of an identifier starts with a zero. -/
theorem Identifier.isWord_write {size : Nat} (bits : BitVec (8 * size)) :
    Json.isWord (Identifier.write bits) = false := by
  unfold Json.isWord Identifier.write
  rw [String.toList_ofList]
  rfl

instance : FaithfulKey Address where
  readKey?_keyText a := by
    show (Address.parse a.text).toOption = some a
    rw [Address.parse_text]
    rfl
  isWord_keyText a := Identifier.isWord_write a.bits

instance : FaithfulKey Partition where
  readKey?_keyText p := by
    show (Partition.parse p.text).toOption = some p
    rw [Partition.parse_text]
    rfl
  isWord_keyText p := Identifier.isWord_write p.bits

instance : FaithfulKey UInt64 where
  readKey?_keyText n := by
    have hplain : (String.ofList (Json.renderNat n.toNat)).toList.all Json.isPlain = true := by
      rw [String.toList_ofList]
      exact List.all_eq_true.mpr fun c hc => isPlain_of_isDigit (Json.isDigit_of_mem_renderNat c hc)
    show (if (String.ofList (Json.renderNat n.toNat)).toList.all Json.isPlain then
      readNumberKey? (String.ofList (Json.renderNat n.toNat)) else none) = some n
    rw [if_pos hplain, readNumberKey?_renderNat]
  isWord_keyText n := by
    show Json.isWord (String.ofList (Json.renderNat n.toNat)) = false
    unfold Json.isWord
    rw [String.toList_ofList]
    cases hdigits : Json.renderNat n.toNat with
    | nil => rfl
    | cons c cs =>
      have hdigit := Json.isDigit_of_mem_renderNat c (hdigits ▸ List.mem_cons_self)
      exact isAlpha_of_isDigit hdigit

/-- Lists that are read one by one are read in any order. -/
theorem exists_mapM_of_perm {α β : Type} {f : α → Option β} {l l' : List α} (hperm : l.Perm l')
    {read : List β} (h : l.mapM f = some read) :
    ∃ read', l'.mapM f = some read' ∧ read.Perm read' := by
  induction hperm generalizing read with
  | nil => exact ⟨read, h, .refl read⟩
  | cons a _ ih =>
    rw [List.mapM_cons] at h
    obtain ⟨b, hb, h⟩ := Option.bind_eq_some_iff.mp h
    obtain ⟨bs, hbs, h⟩ := Option.bind_eq_some_iff.mp h
    obtain ⟨bs', hbs', hsame⟩ := ih hbs
    cases h
    refine ⟨b :: bs', ?_, hsame.cons b⟩
    rw [List.mapM_cons, hb, hbs']
    rfl
  | swap a a' l =>
    rw [List.mapM_cons] at h
    obtain ⟨b, hb, h⟩ := Option.bind_eq_some_iff.mp h
    obtain ⟨bs, hbs, h⟩ := Option.bind_eq_some_iff.mp h
    rw [List.mapM_cons] at hbs
    obtain ⟨b', hb', hbs⟩ := Option.bind_eq_some_iff.mp hbs
    obtain ⟨rest, hrest, hbs⟩ := Option.bind_eq_some_iff.mp hbs
    cases hbs
    cases h
    refine ⟨b' :: b :: rest, ?_, .swap b' b rest⟩
    rw [List.mapM_cons, List.mapM_cons, hb, hb', hrest]
    rfl
  | trans _ _ ih ih' =>
    obtain ⟨read₁, h₁, hsame⟩ := ih h
    obtain ⟨read₂, h₂, hsame'⟩ := ih' h₁
    exact ⟨read₂, h₂, hsame.trans hsame'⟩

/-- Entries with different keys make the same map in any order. -/
theorem SortedMap.ofList_of_perm {K V : Type} [Ranked K] {l l' : List (K × V)} (hperm : l.Perm l')
    (hnodup : (l.map Prod.fst).Nodup) : SortedMap.ofList l = SortedMap.ofList l' := by
  refine hperm.foldl_eq' (fun e he e' he' m => ?_) SortedMap.empty
  by_cases hsame : rank e.1 = rank e'.1
  · rw [List.inj_on_of_nodup_map hnodup he he' (rank_injective hsame)]
  · refine SortedMap.ext_get? fun k => ?_
    simp only [SortedMap.get?_insert]
    split <;> split <;> simp_all

section

variable {K V : Type} [Ranked K] [KeyText K] [Wire V]

/-- The entry of a map that a member stands for. -/
def entryOf? (site : Site) (m : String × Json) : Option (K × V) := do
  return (← KeyText.readKey? (Json.Name.ofString m.1), ← read? site m.2.tree)

theorem SortedMap.readsAs [FaithfulKey K] {f : V → V} (h : ∀ v, ReadsAs v (f v))
    (m : SortedMap K V) : ReadsAs m (m.mapValues f) := by
  intro j hj site
  obtain ⟨restyled, members, rfl, hrestyled, hperm⟩ := Json.Restyled.exists_perm hj fun e he => by
    obtain ⟨entry, -, rfl⟩ := List.mem_map.mp he
    exact FaithfulKey.isWord_keyText entry.1
  have hentries : ∀ (l : List (K × V)) (restyled : List (String × Json)),
      Json.RestyledMembers (l.map fun e => (KeyText.keyText e.1, encode e.2)) restyled →
      restyled.mapM (entryOf? site) = some (l.map fun e => (e.1, f e.2)) := by
    intro l
    induction l with
    | nil =>
      intro restyled hrestyled
      cases hrestyled
      rfl
    | cons e l ih =>
      intro restyled hrestyled
      cases hrestyled with
      | cons hhead htail =>
        rw [List.mapM_cons, ih _ htail, entryOf?, FaithfulKey.readKey?_keyText e.1,
          h e.2 _ hhead site]
        rfl
  obtain ⟨read, hread, hsame⟩ := exists_mapM_of_perm hperm (hentries _ _ hrestyled)
  have hnodup : ((m.entries.map fun e => (e.1, f e.2)).map Prod.fst).Nodup := by
    rw [List.map_map]
    exact m.nodup_keys
  show ((Json.treeMembers members).mapM
    (fun (e : Json.Name × Tree) => do return (← KeyText.readKey? e.1, ← read? site e.2))).bind
      (fun entries => some (SortedMap.ofList entries)) = some (m.mapValues f)
  rw [Json.treeMembers_eq_map, List.mapM_map]
  show (members.mapM (entryOf? site)).bind _ = _
  rw [hread, Option.bind_some, ← SortedMap.ofList_of_perm hsame hnodup]
  exact congrArg some (SortedMap.ofList_entries (m.mapValues f))

instance [FaithfulKey K] [Faithful V] : Faithful (SortedMap K V) where
  readsAs_self m := by
    have h := SortedMap.readsAs (f := id) readsAs_self m
    rwa [SortedMap.mapValues_id] at h

instance [Bounded V] : Bounded (SortedMap K V) where
  depth := Bounded.depth V + 1
  fits_depth m := by
    refine ⟨Nat.succ_pos _, Json.fitsMembers_iff.mpr ?_⟩
    intro j hj
    obtain ⟨e, -, rfl⟩ := List.mem_map.mp hj
    exact Bounded.fits_depth e.2

end

/-! ### Records -/

namespace Record.Carries

variable {α : Type} [Wire α] {r : Record} {name : String} {a b : α}

theorem required_of_readsAs (h : r.Carries name (encode a)) (hab : ReadsAs a b) :
    r.required name = some b := by
  obtain ⟨j, hj, hlookup⟩ := h
  rw [Record.required, hlookup]
  exact hab j hj r.site

@[simp] theorem required [Faithful α] (h : r.Carries name (encode a)) :
    r.required name = some a := h.required_of_readsAs (readsAs_self a)

@[simp] theorem withDefault [Faithful α] (h : r.Carries name (encode a)) (absent : α) :
    r.withDefault name absent = some a := by
  obtain ⟨j, hj, hlookup⟩ := h
  rw [Record.withDefault, hlookup]
  exact readsAs_self a j hj r.site

end Record.Carries

end CouponBond
