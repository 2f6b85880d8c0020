/-!
# Sorted maps

A finite map kept as a list of entries in strictly ascending key order.  The
order is part of the type, so two maps with the same answers are equal
(`SortedMap.ext_get?`), and enumerating a map is reading its list.

## Main Definitions

* `Ranked` — a key type ordered by an injective numbering
* `SortedMap` — the map, with `get?`, `insert`, `erase`, `keys`, `values`
* `SortedMap.mapValues` — the map with another value under each key
* `SortedSet` — a map that holds nothing beside its keys

## Design Notes

`get?` is the view: `get?_insert` and `get?_erase` say what each change does to
it, and no later proof looks at the entries while searching.  A sum over the values
follows changes by `sumOf_insert` and `sumOf_erase`.
-/

namespace CouponBond

/-- A key type whose order is given by numbering the keys. -/
class Ranked (K : Type) where
  /-- The place of a key. -/
  rank : K → Nat
  /-- Different keys have different places. -/
  rank_injective : ∀ {a b : K}, rank a = rank b → a = b

export Ranked (rank rank_injective)

theorem rank_inj {K : Type} [Ranked K] {a b : K} : rank a = rank b ↔ a = b :=
  ⟨rank_injective, congrArg rank⟩

instance : Ranked UInt64 where
  rank := UInt64.toNat
  rank_injective := UInt64.toNat_inj.mp

instance : Ranked Nat where
  rank := id
  rank_injective := id

/-- Entries in strictly ascending key order. -/
structure SortedMap (K V : Type) [Ranked K] where
  /-- The entries, smallest key first. -/
  entries : List (K × V)
  /-- Every key comes before the later ones. -/
  ascending : entries.Pairwise fun a b => rank a.1 < rank b.1

namespace SortedMap

variable {K V : Type} [Ranked K]

/-! ### Entry lists -/

/-- The value stored under a key. -/
def lookupEntry (k : K) : List (K × V) → Option V
  | [] => none
  | (k', v) :: rest => if rank k = rank k' then some v else lookupEntry k rest

/-- Put an entry in its place, replacing one of the same key. -/
def insertEntry (k : K) (v : V) : List (K × V) → List (K × V)
  | [] => [(k, v)]
  | (k', v') :: rest =>
    if rank k < rank k' then (k, v) :: (k', v') :: rest
    else if rank k = rank k' then (k, v) :: rest
    else (k', v') :: insertEntry k v rest

theorem mem_insertEntry {k : K} {v : V} {e : K × V} {l : List (K × V)}
    (h : e ∈ insertEntry k v l) : e = (k, v) ∨ e ∈ l := by
  induction l with
  | nil => simpa [insertEntry] using h
  | cons hd tl ih =>
    rw [insertEntry] at h
    grind

theorem ascending_insertEntry (k : K) (v : V) {l : List (K × V)}
    (h : l.Pairwise fun a b => rank a.1 < rank b.1) :
    (insertEntry k v l).Pairwise fun a b => rank a.1 < rank b.1 := by
  induction l with
  | nil => simp [insertEntry]
  | cons hd tl ih =>
    rw [List.pairwise_cons] at h
    rw [insertEntry]
    split
    · next hlt =>
      refine List.pairwise_cons.mpr ⟨fun e he => ?_, List.pairwise_cons.mpr h⟩
      rcases List.mem_cons.mp he with rfl | he
      · exact hlt
      · exact Nat.lt_trans hlt (h.1 e he)
    · next hge =>
      split
      · next heq =>
        exact List.pairwise_cons.mpr ⟨fun e he => heq ▸ h.1 e he, h.2⟩
      · next hne =>
        refine List.pairwise_cons.mpr ⟨fun e he => ?_, ih h.2⟩
        rcases mem_insertEntry he with rfl | he
        · show rank hd.1 < rank k
          omega
        · exact h.1 e he

/-! ### Maps -/

/-- The map without entries. -/
def empty : SortedMap K V := ⟨[], .nil⟩

instance : EmptyCollection (SortedMap K V) := ⟨empty⟩
instance : Inhabited (SortedMap K V) := ⟨empty⟩

instance [DecidableEq K] [DecidableEq V] : DecidableEq (SortedMap K V) := fun a b =>
  if h : a.entries = b.entries then
    isTrue (by cases a; cases b; cases h; rfl)
  else
    isFalse (fun e => h (e ▸ rfl))

/-- The value stored under a key. -/
def get? (m : SortedMap K V) (k : K) : Option V := lookupEntry k m.entries

/-- Whether a key is present. -/
def contains (m : SortedMap K V) (k : K) : Bool := (m.get? k).isSome

/-- Store a value under a key, replacing what was there. -/
def insert (m : SortedMap K V) (k : K) (v : V) : SortedMap K V :=
  ⟨insertEntry k v m.entries, ascending_insertEntry k v m.ascending⟩

/-- Remove a key. -/
def erase (m : SortedMap K V) (k : K) : SortedMap K V :=
  ⟨m.entries.filter fun e => rank e.1 != rank k, m.ascending.filter _⟩

/-- The entries with the keys that pass a test. -/
def filter (m : SortedMap K V) (p : K → V → Bool) : SortedMap K V :=
  ⟨m.entries.filter fun e => p e.1 e.2, m.ascending.filter _⟩

/-- The keys in ascending order. -/
def keys (m : SortedMap K V) : List K := m.entries.map (·.1)

/-- The values in key order. -/
def values (m : SortedMap K V) : List V := m.entries.map (·.2)

/-- The sum of a figure over the values of entries. -/
def sumEntries (figure : V → Nat) : List (K × V) → Nat
  | [] => 0
  | (_, v) :: rest => figure v + sumEntries figure rest

/-- The sum of a figure over the values. -/
def sumOf (m : SortedMap K V) (figure : V → Nat) : Nat := sumEntries figure m.entries

/-- Number of entries. -/
def size (m : SortedMap K V) : Nat := m.entries.length

/-- The map of a list of entries; of two with one key the later counts. -/
def ofList (l : List (K × V)) : SortedMap K V :=
  l.foldl (fun m e => m.insert e.1 e.2) empty

theorem lookupEntry_insertEntry (k k' : K) (v : V) (l : List (K × V)) :
    lookupEntry k' (insertEntry k v l) =
      if rank k' = rank k then some v else lookupEntry k' l := by
  induction l with
  | nil => simp [insertEntry, lookupEntry]
  | cons hd tl ih =>
    rw [insertEntry]
    split
    · simp [lookupEntry]
    · split
      · next heq => simp only [lookupEntry, heq]; split <;> rfl
      · next hne =>
        simp only [lookupEntry, ih]
        split
        · next h => rw [if_neg (fun e => hne (e.symm.trans h))]
        · rfl

theorem lookupEntry_filter_rank (k k' : K) (l : List (K × V)) :
    lookupEntry k' (l.filter fun e => rank e.1 != rank k) =
      if rank k' = rank k then none else lookupEntry k' l := by
  induction l with
  | nil => simp [lookupEntry]
  | cons hd tl ih =>
    by_cases h : rank hd.1 = rank k
    · simp only [List.filter_cons, bne_iff_ne, ne_eq, h, not_true_eq_false, if_false, ih,
        lookupEntry]
      split <;> rfl
    · simp only [List.filter_cons, bne_iff_ne, ne_eq, h, not_false_eq_true, if_true, ih,
        lookupEntry]
      by_cases h' : rank k' = rank hd.1
      · rw [if_pos h', if_pos h', if_neg (fun e => h (h'.symm.trans e))]
      · simp only [if_neg h']

@[simp] theorem get?_empty (k : K) : (empty : SortedMap K V).get? k = none := rfl

/-- An inserted key answers the new value; every other key answers as before. -/
theorem get?_insert (m : SortedMap K V) (k k' : K) (v : V) :
    (m.insert k v).get? k' = if rank k' = rank k then some v else m.get? k' :=
  lookupEntry_insertEntry k k' v m.entries

/-- A removed key answers nothing; every other key answers as before. -/
theorem get?_erase (m : SortedMap K V) (k k' : K) :
    (m.erase k).get? k' = if rank k' = rank k then none else m.get? k' :=
  lookupEntry_filter_rank k k' m.entries

theorem lookupEntry_eq_some_iff {k : K} {v : V} {l : List (K × V)}
    (h : l.Pairwise fun a b => rank a.1 < rank b.1) :
    lookupEntry k l = some v ↔ (k, v) ∈ l := by
  induction l with
  | nil => simp [lookupEntry]
  | cons hd tl ih =>
    obtain ⟨k', v'⟩ := hd
    rw [List.pairwise_cons] at h
    rw [lookupEntry, List.mem_cons]
    split
    · next heq =>
      obtain rfl := rank_injective heq
      constructor
      · intro e; cases e; exact .inl rfl
      · rintro (e | hmem)
        · cases e; rfl
        · exact absurd (h.1 _ hmem) (Nat.lt_irrefl _)
    · next hne =>
      rw [ih h.2]
      constructor
      · exact .inr
      · rintro (e | hmem)
        · cases e; exact absurd rfl hne
        · exact hmem

/-- A key answers a value exactly when the pair is an entry. -/
theorem get?_eq_some_iff {m : SortedMap K V} {k : K} {v : V} :
    m.get? k = some v ↔ (k, v) ∈ m.entries :=
  lookupEntry_eq_some_iff m.ascending

/-- What holds of every entry is asked key by key. -/
theorem forall_mem_entries_iff {m : SortedMap K V} {Q : K → V → Prop} :
    (∀ e ∈ m.entries, Q e.1 e.2) ↔ ∀ k v, m.get? k = some v → Q k v :=
  ⟨fun h k v hv => h (k, v) (get?_eq_some_iff.mp hv),
    fun h e he => h e.1 e.2 (get?_eq_some_iff.mpr he)⟩

/-- What holds of a default too is asked of the answers with that default. -/
theorem forall_mem_entries_iff_getD {m : SortedMap K V} {Q : K → V → Prop} {default : V}
    (hdefault : ∀ k, Q k default) :
    (∀ e ∈ m.entries, Q e.1 e.2) ↔ ∀ k, Q k ((m.get? k).getD default) := by
  rw [forall_mem_entries_iff]
  refine forall_congr' fun k => ?_
  cases m.get? k with
  | none => exact ⟨fun _ => hdefault k, fun _ _ h => (nomatch h)⟩
  | some v => exact ⟨fun h => h v rfl, fun h _ hv => Option.some.inj hv ▸ h⟩

theorem lookupEntry_eq_none {k : K} {l : List (K × V)} (h : ∀ e ∈ l, rank k ≠ rank e.1) :
    lookupEntry k l = none := by
  induction l with
  | nil => rfl
  | cons hd tl ih =>
    rw [lookupEntry, if_neg (h hd (.head _))]
    exact ih fun e he => h e (.tail _ he)

theorem sumEntries_insertEntry (figure : V → Nat) (k : K) (v : V) {l : List (K × V)}
    (h : l.Pairwise fun a b => rank a.1 < rank b.1) :
    sumEntries figure (insertEntry k v l) + (lookupEntry k l).elim 0 figure =
      sumEntries figure l + figure v := by
  induction l with
  | nil => simp [insertEntry, sumEntries, lookupEntry]
  | cons hd tl ih =>
    obtain ⟨k', v'⟩ := hd
    rw [List.pairwise_cons] at h
    rw [insertEntry]
    split
    · next hlt =>
      have hnone : lookupEntry k ((k', v') :: tl) = none :=
        lookupEntry_eq_none fun e he => by
          rcases List.mem_cons.mp he with rfl | he
          · exact Nat.ne_of_lt hlt
          · exact Nat.ne_of_lt (Nat.lt_trans hlt (h.1 e he))
      rw [hnone]
      simp only [sumEntries, Option.elim_none]
      omega
    · split
      · next heq =>
        simp only [sumEntries, lookupEntry, if_pos heq, Option.elim_some]
        omega
      · next hne =>
        have := ih h.2
        simp only [sumEntries, lookupEntry, if_neg hne]
        omega

theorem sumEntries_filter_rank (figure : V → Nat) (k : K) {l : List (K × V)}
    (h : l.Pairwise fun a b => rank a.1 < rank b.1) :
    sumEntries figure (l.filter fun e => rank e.1 != rank k) +
      (lookupEntry k l).elim 0 figure = sumEntries figure l := by
  induction l with
  | nil => rfl
  | cons hd tl ih =>
    obtain ⟨k', v'⟩ := hd
    rw [List.pairwise_cons] at h
    have htail := ih h.2
    by_cases heq : rank k = rank k'
    · have hnone : lookupEntry k tl = none :=
        lookupEntry_eq_none fun e he => heq ▸ Nat.ne_of_lt (h.1 e he)
      rw [hnone] at htail
      simp only [List.filter_cons, bne_iff_ne, ne_eq, heq.symm, not_true_eq_false, if_false,
        lookupEntry, if_true, Option.elim_some, Option.elim_none, sumEntries] at htail ⊢
      omega
    · have hne : rank k' ≠ rank k := fun e => heq e.symm
      simp only [List.filter_cons, bne_iff_ne, ne_eq, hne, not_false_eq_true, if_true,
        lookupEntry, if_neg heq, sumEntries]
      omega

/-- An insertion exchanges the figure of the replaced value for that of the new one. -/
theorem sumOf_insert (m : SortedMap K V) (figure : V → Nat) (k : K) (v : V) :
    (m.insert k v).sumOf figure + (m.get? k).elim 0 figure = m.sumOf figure + figure v :=
  sumEntries_insertEntry figure k v m.ascending

/-- A removal takes the figure of the removed value away. -/
theorem sumOf_erase (m : SortedMap K V) (figure : V → Nat) (k : K) :
    (m.erase k).sumOf figure + (m.get? k).elim 0 figure = m.sumOf figure :=
  sumEntries_filter_rank figure k m.ascending

/-- The figure of one value is part of the sum over all of them. -/
theorem le_sumOf_of_get? {m : SortedMap K V} (figure : V → Nat) {k : K} {v : V}
    (h : m.get? k = some v) : figure v ≤ m.sumOf figure := by
  have herase := m.sumOf_erase figure k
  rw [h, Option.elim_some] at herase
  omega

/-- A figure that is no larger under any key has no larger a sum. -/
theorem sumOf_le_sumOf {m : SortedMap K V} {figure other : V → Nat}
    (h : ∀ k v, m.get? k = some v → figure v ≤ other v) : m.sumOf figure ≤ m.sumOf other := by
  have hentries : ∀ l : List (K × V), (∀ e ∈ l, figure e.2 ≤ other e.2) →
      sumEntries figure l ≤ sumEntries other l := by
    intro l hl
    induction l with
    | nil => exact Nat.le_refl _
    | cons hd tl ih =>
      rw [List.forall_mem_cons] at hl
      exact Nat.add_le_add hl.1 (ih hl.2)
  exact hentries _ fun e he => h e.1 e.2 (get?_eq_some_iff.mpr he)

/-- Figures that are the same under every key have one sum. -/
theorem sumOf_congr {m : SortedMap K V} {figure other : V → Nat}
    (h : ∀ k v, m.get? k = some v → figure v = other v) : m.sumOf figure = m.sumOf other :=
  Nat.le_antisymm (sumOf_le_sumOf fun k v hv => Nat.le_of_eq (h k v hv))
    (sumOf_le_sumOf fun k v hv => Nat.le_of_eq (h k v hv).symm)

@[simp] theorem sumOf_zero (m : SortedMap K V) : m.sumOf (fun _ => 0) = 0 := by
  have hentries : ∀ l : List (K × V), sumEntries (fun _ => 0) l = 0 := by
    intro l
    induction l with
    | nil => rfl
    | cons hd tl ih => simp [sumEntries, ih]
  exact hentries _

/-- The sum of two figures is taken in one pass or in two. -/
theorem sumOf_add (m : SortedMap K V) (figure other : V → Nat) :
    (m.sumOf fun v => figure v + other v) = m.sumOf figure + m.sumOf other := by
  have hentries : ∀ l : List (K × V), sumEntries (fun v => figure v + other v) l =
      sumEntries figure l + sumEntries other l := by
    intro l
    induction l with
    | nil => rfl
    | cons hd tl ih =>
      simp only [sumEntries, ih]
      omega
  exact hentries _

theorem eq_of_lookupEntry_eq {l₁ l₂ : List (K × V)}
    (h₁ : l₁.Pairwise fun a b => rank a.1 < rank b.1)
    (h₂ : l₂.Pairwise fun a b => rank a.1 < rank b.1)
    (h : ∀ k, lookupEntry k l₁ = lookupEntry k l₂) : l₁ = l₂ := by
  induction l₁ generalizing l₂ with
  | nil =>
    cases l₂ with
    | nil => rfl
    | cons hd tl => simpa [lookupEntry] using h hd.1
  | cons a as ih =>
    cases l₂ with
    | nil => simpa [lookupEntry] using h a.1
    | cons b bs =>
      rw [List.pairwise_cons] at h₁ h₂
      have hab : rank a.1 = rank b.1 := by
        rcases Nat.lt_trichotomy (rank a.1) (rank b.1) with hlt | heq | hgt
        · have hnone : lookupEntry a.1 (b :: bs) = none :=
            lookupEntry_eq_none fun e he => by
              rcases List.mem_cons.mp he with rfl | he
              · omega
              · have := h₂.1 e he
                omega
          have := h a.1
          rw [hnone, lookupEntry, if_pos rfl] at this
          cases this
        · exact heq
        · have hnone : lookupEntry b.1 (a :: as) = none :=
            lookupEntry_eq_none fun e he => by
              rcases List.mem_cons.mp he with rfl | he
              · omega
              · have := h₁.1 e he
                omega
          have := h b.1
          rw [hnone, lookupEntry, if_pos rfl] at this
          cases this
      have hkey : a.1 = b.1 := rank_injective hab
      have hval : a.2 = b.2 := by
        have := h a.1
        rw [lookupEntry, if_pos rfl, lookupEntry, if_pos hab] at this
        exact Option.some.inj this
      have htail : as = bs := by
        refine ih h₁.2 h₂.2 fun k => ?_
        by_cases hk : rank k = rank a.1
        · rw [lookupEntry_eq_none fun e he => hk ▸ Nat.ne_of_lt (h₁.1 e he),
            lookupEntry_eq_none fun e he => (hk.trans hab) ▸ Nat.ne_of_lt (h₂.1 e he)]
        · have := h k
          rwa [lookupEntry, if_neg hk, lookupEntry, if_neg (fun e => hk (e.trans hab.symm))] at this
      rw [htail, Prod.ext hkey hval]

/-- Maps with the same answers are equal. -/
theorem ext_get? {a b : SortedMap K V} (h : ∀ k, a.get? k = b.get? k) : a = b := by
  have he : a.entries = b.entries := eq_of_lookupEntry_eq a.ascending b.ascending h
  cases a
  cases b
  cases he
  rfl

/-! ### Enumerating a map -/

theorem insertEntry_of_greatest {k : K} {v : V} {l : List (K × V)}
    (h : ∀ e ∈ l, rank e.1 < rank k) : insertEntry k v l = l ++ [(k, v)] := by
  induction l with
  | nil => rfl
  | cons hd tl ih =>
    have hhd : rank hd.1 < rank k := h hd (.head _)
    rw [insertEntry, if_neg (Nat.not_lt_of_gt hhd), if_neg (Nat.ne_of_gt hhd),
      ih fun e he => h e (.tail _ he)]
    rfl

/-- A key behind all others is added at the end. -/
theorem entries_insert_of_greatest {m : SortedMap K V} {k : K} {v : V}
    (h : ∀ e ∈ m.entries, rank e.1 < rank k) : (m.insert k v).entries = m.entries ++ [(k, v)] :=
  insertEntry_of_greatest h

theorem entries_foldl_insert {m : SortedMap K V} {l : List (K × V)}
    (h : (m.entries ++ l).Pairwise fun a b => rank a.1 < rank b.1) :
    (l.foldl (fun m e => m.insert e.1 e.2) m).entries = m.entries ++ l := by
  induction l generalizing m with
  | nil => simp
  | cons hd tl ih =>
    have hhd : ∀ e ∈ m.entries, rank e.1 < rank hd.1 := fun e he =>
      (List.pairwise_append.mp h).2.2 e he hd (.head _)
    have hentries : (m.insert hd.1 hd.2).entries = m.entries ++ [hd] :=
      entries_insert_of_greatest hhd
    rw [List.foldl_cons, ih (by rw [hentries]; simpa using h), hentries]
    simp

/-- A map is the map of its entries. -/
theorem ofList_entries (m : SortedMap K V) : ofList m.entries = m := by
  have h : (ofList m.entries).entries = m.entries :=
    entries_foldl_insert (m := (empty : SortedMap K V)) m.ascending
  exact ext_get? fun k => by rw [get?, get?, h]

theorem mem_keys_iff {m : SortedMap K V} {k : K} : k ∈ m.keys ↔ ∃ v, m.get? k = some v := by
  simp only [keys, List.mem_map, get?_eq_some_iff]
  exact ⟨fun ⟨e, he, hk⟩ => ⟨e.2, hk ▸ he⟩, fun ⟨v, hv⟩ => ⟨(k, v), hv, rfl⟩⟩

theorem mem_values_iff {m : SortedMap K V} {v : V} : v ∈ m.values ↔ ∃ k, m.get? k = some v := by
  simp only [values, List.mem_map, get?_eq_some_iff]
  exact ⟨fun ⟨e, he, hv⟩ => ⟨e.1, hv ▸ he⟩, fun ⟨k, hk⟩ => ⟨(k, v), hk, rfl⟩⟩

theorem mem_keys_filter_iff {m : SortedMap K V} {p : K → V → Bool} {k : K} :
    k ∈ (m.filter p).keys ↔ ∃ v, m.get? k = some v ∧ p k v = true := by
  simp only [mem_keys_iff, get?_eq_some_iff, filter, List.mem_filter]

theorem mem_keys_insert_iff {m : SortedMap K V} {k k' : K} {v : V} :
    k' ∈ (m.insert k v).keys ↔ k' = k ∨ k' ∈ m.keys := by
  simp only [mem_keys_iff, get?_insert]
  split
  · next h => exact ⟨fun _ => .inl (rank_injective h), fun _ => ⟨v, rfl⟩⟩
  · next h => exact ⟨.inr, fun hk => hk.resolve_left fun e => h (congrArg rank e)⟩

theorem mem_keys_erase_iff {m : SortedMap K V} {k k' : K} :
    k' ∈ (m.erase k).keys ↔ k' ≠ k ∧ k' ∈ m.keys := by
  simp only [mem_keys_iff, get?_erase]
  split
  · next h => simp [rank_injective h]
  · next h => exact ⟨fun hk => ⟨fun e => h (congrArg rank e), hk⟩, fun hk => hk.2⟩

/-- Two sets with the same members are equal. -/
theorem ext_mem_keys {a b : SortedMap K Unit} (h : ∀ k, k ∈ a.keys ↔ k ∈ b.keys) : a = b := by
  refine ext_get? fun k => ?_
  have hk := h k
  simp only [mem_keys_iff] at hk
  cases ha : a.get? k with
  | some u =>
    obtain ⟨v, hv⟩ := hk.mp ⟨u, ha⟩
    rw [hv]
  | none =>
    cases hb : b.get? k with
    | some v =>
      obtain ⟨u, hu⟩ := hk.mpr ⟨v, hb⟩
      rw [ha] at hu
      cases hu
    | none => rfl

/-- Keys that are entered one after the other are added to those that were there. -/
theorem mem_keys_foldl_insert_iff {m : SortedMap K Unit} {l : List K} {k : K} :
    k ∈ (l.foldl (fun m a => m.insert a ()) m).keys ↔ k ∈ l ∨ k ∈ m.keys := by
  induction l generalizing m with
  | nil => simp
  | cons hd tl ih =>
    rw [List.foldl_cons, ih, mem_keys_insert_iff, List.mem_cons]
    constructor
    · rintro (h | h | h)
      · exact .inl (.inr h)
      · exact .inl (.inl h)
      · exact .inr h
    · rintro ((h | h) | h)
      · exact .inr (.inl h)
      · exact .inl h
      · exact .inr (.inr h)

/-- No key is enumerated twice. -/
theorem nodup_keys (m : SortedMap K V) : m.keys.Nodup :=
  List.pairwise_map.mpr (m.ascending.imp fun h e => Nat.ne_of_lt h (congrArg rank e))

/-- A table of a function over a list of keys answers the keys of the list. -/
theorem get?_ofList_map [DecidableEq K] (f : K → V) (l : List K) (k : K) :
    (ofList (l.map fun a => (a, f a))).get? k = if k ∈ l then some (f k) else none := by
  have general : ∀ (m : SortedMap K V),
      ((l.map fun a => (a, f a)).foldl (fun m e => m.insert e.1 e.2) m).get? k =
        if k ∈ l then some (f k) else m.get? k := by
    induction l with
    | nil => simp
    | cons hd tl ih =>
      intro m
      rw [List.map_cons, List.foldl_cons, ih, get?_insert]
      by_cases htl : k ∈ tl
      · simp [htl]
      · by_cases hhd : rank k = rank hd
        · obtain rfl := rank_injective hhd
          simp
        · have hne : k ≠ hd := fun e => hhd (congrArg rank e)
          simp [htl, hhd, hne]
  exact general empty

/-! ### Values under other values -/

/-- The map with another value under each key. -/
def mapValues {W : Type} (f : V → W) (m : SortedMap K V) : SortedMap K W :=
  ⟨m.entries.map fun e => (e.1, f e.2), List.pairwise_map.mpr m.ascending⟩

theorem get?_mapValues {W : Type} (f : V → W) (m : SortedMap K V) (k : K) :
    (m.mapValues f).get? k = (m.get? k).map f := by
  have hentries : ∀ l : List (K × V),
      lookupEntry k (l.map fun e => (e.1, f e.2)) = (lookupEntry k l).map f := by
    intro l
    induction l with
    | nil => rfl
    | cons e l ih =>
      obtain ⟨k', v⟩ := e
      rw [List.map_cons, lookupEntry, lookupEntry, ih]
      split <;> rfl
  exact hentries m.entries

theorem mapValues_insert {W : Type} (f : V → W) (m : SortedMap K V) (k : K) (v : V) :
    (m.insert k v).mapValues f = (m.mapValues f).insert k (f v) := by
  refine ext_get? fun k' => ?_
  rw [get?_mapValues, get?_insert, get?_insert, get?_mapValues]
  split <;> rfl

theorem mapValues_erase {W : Type} (f : V → W) (m : SortedMap K V) (k : K) :
    (m.erase k).mapValues f = (m.mapValues f).erase k := by
  refine ext_get? fun k' => ?_
  rw [get?_mapValues, get?_erase, get?_erase, get?_mapValues]
  split <;> rfl

theorem keys_mapValues {W : Type} (f : V → W) (m : SortedMap K V) :
    (m.mapValues f).keys = m.keys := by
  simp [keys, mapValues]

theorem mapValues_id (m : SortedMap K V) : m.mapValues id = m :=
  ext_get? fun k => by rw [get?_mapValues, Option.map_id, id]

end SortedMap

/-- A finite set, enumerated in ascending order. -/
abbrev SortedSet (K : Type) [Ranked K] := SortedMap K Unit

end CouponBond
