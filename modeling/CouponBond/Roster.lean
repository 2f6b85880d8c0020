import CouponBond.Identifier

/-!
# Rosters

Accounts in the order of their arrival.  An account stands on a roster at most once;
one that leaves and comes back stands at the end.

## Main Definitions

* `Placement` — accounts on numbered places, with the place of each account
* `Roster` — a placement whose two maps are inverse to each other
* `Roster.members` — the view: the accounts by place
* `Roster.insert`, `Roster.erase` — arrival and departure
* `Roster.slice` — a page of the enumeration

## Design Notes

A place is given out once, so a roster remembers more than its view: two rosters with the
same members may hold them on different places.  Nothing that is read from a roster depends
on the places, and later proofs look at `members` alone.

The next place is a natural number, where a running system counts with 64 bits.  There are no
more places than arrivals, so the two agree for fewer than `2 ^ 64` arrivals.
-/

namespace CouponBond

/-- A page of a list: the elements from `start` on, before `stop`. -/
def pageOf {α : Type} (l : List α) (start stop : Nat) : List α :=
  (l.drop start).take (stop - start)

/-- What stands at a place of a list with one more entry. -/
theorem getElem?_concat_eq_some {α : Type} {l : List α} {last a : α} {place : Nat}
    (hat : (l ++ [last])[place]? = some a) : l[place]? = some a ∨ place = l.length ∧ a = last := by
  rw [List.getElem?_append] at hat
  split at hat
  · exact .inl hat
  · next hge =>
    cases hrest : place - l.length with
    | zero =>
      rw [hrest] at hat
      exact .inr ⟨by omega, (Option.some.inj hat).symm⟩
    | succ n =>
      rw [hrest] at hat
      cases hat

/-! ### Places -/

/-- Accounts on numbered places. -/
structure Placement where
  /-- The place that the next arrival gets. -/
  next : Nat
  /-- The account on each place. -/
  byPlace : SortedMap Nat Address
  /-- The place of each account. -/
  placeOf : SortedMap Address Nat
deriving DecidableEq

namespace Placement

/-- No account, and every place still free. -/
def empty : Placement := ⟨0, .empty, .empty⟩

/-- Give an account the next place unless it has one. -/
def insert (r : Placement) (a : Address) : Placement :=
  if r.placeOf.contains a then r
  else ⟨r.next + 1, r.byPlace.insert r.next a, r.placeOf.insert a r.next⟩

/-- Take an account off its place; the place is not given out again. -/
def erase (r : Placement) (a : Address) : Placement :=
  match r.placeOf.get? a with
  | some place => { r with byPlace := r.byPlace.erase place, placeOf := r.placeOf.erase a }
  | none => r

/-- The two maps are inverse to each other, and every place lies before the next one. -/
structure Sound (r : Placement) : Prop where
  get?_byPlace_iff : ∀ place a, r.byPlace.get? place = some a ↔ r.placeOf.get? a = some place
  lt_next : ∀ place a, r.byPlace.get? place = some a → place < r.next

theorem sound_empty : empty.Sound :=
  ⟨fun _ _ => by simp [empty], fun _ _ h => by simp [empty] at h⟩

/-- An arrival keeps the maps inverse: its place is fresh because it lies behind all others. -/
theorem Sound.insert {r : Placement} (h : r.Sound) (a : Address) : (r.insert a).Sound := by
  unfold Placement.insert
  split
  · exact h
  · next hout =>
    have hnone : r.placeOf.get? a = none := by simpa [SortedMap.contains] using hout
    refine ⟨fun place b => ?_, fun place b hb => ?_⟩
    · simp only [SortedMap.get?_insert]
      by_cases hp : rank place = rank r.next <;> by_cases hb : rank b = rank a
      · simp [rank_injective hp, rank_injective hb]
      · have hfree : r.placeOf.get? b ≠ some place := fun e =>
          absurd (h.lt_next _ _ ((h.get?_byPlace_iff _ _).mpr e))
            (by rw [rank_injective hp]; exact Nat.lt_irrefl _)
        rw [if_pos hp, if_neg hb]
        exact ⟨fun e => absurd (congrArg rank (Option.some.inj e)).symm hb, fun e => absurd e hfree⟩
      · rw [if_neg hp, if_pos hb, rank_injective hb]
        constructor
        · intro e
          rw [(h.get?_byPlace_iff _ _).mp e] at hnone
          cases hnone
        · intro e
          exact absurd (congrArg rank (Option.some.inj e)).symm hp
      · rw [if_neg hp, if_neg hb]
        exact h.get?_byPlace_iff place b
    · rw [SortedMap.get?_insert] at hb
      split at hb
      · next hp =>
        rw [rank_injective hp]
        exact Nat.lt_succ_self _
      · exact Nat.lt_succ_of_lt (h.lt_next _ _ hb)

/-- A departure keeps the maps inverse: it removes one pair from both of them. -/
theorem Sound.erase {r : Placement} (h : r.Sound) (a : Address) : (r.erase a).Sound := by
  unfold Placement.erase
  split
  · next place hplace =>
    have hat : r.byPlace.get? place = some a := (h.get?_byPlace_iff _ _).mpr hplace
    refine ⟨fun p b => ?_, fun p b hb => ?_⟩
    · simp only [SortedMap.get?_erase]
      by_cases hp : rank p = rank place <;> by_cases hb : rank b = rank a
      · simp [hp, hb]
      · rw [if_pos hp, if_neg hb, rank_injective hp]
        refine ⟨fun e => (nomatch e), fun e => ?_⟩
        rw [(h.get?_byPlace_iff _ _).mpr e] at hat
        exact absurd (congrArg rank (Option.some.inj hat)) hb
      · rw [if_neg hp, if_pos hb, rank_injective hb]
        refine ⟨fun e => ?_, fun e => (nomatch e)⟩
        rw [(h.get?_byPlace_iff _ _).mp e] at hplace
        exact absurd (congrArg rank (Option.some.inj hplace)) hp
      · rw [if_neg hp, if_neg hb]
        exact h.get?_byPlace_iff p b
    · rw [SortedMap.get?_erase] at hb
      split at hb
      · cases hb
      · exact h.lt_next _ _ hb
  · exact h

end Placement

/-! ### Rosters -/

/-- Accounts without repetition, the earliest arrival first. -/
structure Roster extends Placement where
  sound : toPlacement.Sound

namespace Roster

/-- The roster without accounts. -/
def empty : Roster := ⟨.empty, Placement.sound_empty⟩

instance : Inhabited Roster := ⟨empty⟩

instance : DecidableEq Roster := fun a b =>
  if h : a.toPlacement = b.toPlacement then
    isTrue (by cases a; cases b; cases h; rfl)
  else
    isFalse (fun e => h (e ▸ rfl))

/-- The accounts by place. -/
def members (r : Roster) : List Address := r.byPlace.values

/-- Whether an account stands on the roster. -/
def contains (r : Roster) (a : Address) : Bool := r.placeOf.contains a

/-- Number of accounts. -/
def size (r : Roster) : Nat := r.placeOf.size

/-- Add an account at the end unless it is there. -/
def insert (r : Roster) (a : Address) : Roster := ⟨r.toPlacement.insert a, r.sound.insert a⟩

/-- Remove an account. -/
def erase (r : Roster) (a : Address) : Roster := ⟨r.toPlacement.erase a, r.sound.erase a⟩

/-- A page of the enumeration. -/
def slice (r : Roster) (start stop : Nat) : List Address :=
  if stop ≤ start then [] else (r.members.drop start).take (stop - start)

/-- The roster of a list of arrivals; a repeated account keeps its first place. -/
def ofList (arrivals : List Address) : Roster := arrivals.foldl insert empty

/-! ### The view -/

@[simp] theorem members_empty : empty.members = [] := rfl

theorem mem_members_iff {r : Roster} {a : Address} :
    a ∈ r.members ↔ ∃ place, r.placeOf.get? a = some place := by
  simp only [members, SortedMap.mem_values_iff, r.sound.get?_byPlace_iff]

theorem contains_iff {r : Roster} {a : Address} : r.contains a = true ↔ a ∈ r.members := by
  rw [mem_members_iff, contains, SortedMap.contains, Option.isSome_iff_exists]

/-- Nobody stands on a roster twice. -/
theorem nodup_members (r : Roster) : r.members.Nodup := by
  refine List.pairwise_map.mpr (r.byPlace.ascending.imp_of_mem fun {e f} he hf hlt heq => ?_)
  have hplace : ∀ g ∈ r.byPlace.entries, r.placeOf.get? g.2 = some g.1 := fun g hg =>
    (r.sound.get?_byPlace_iff _ _).mp (SortedMap.get?_eq_some_iff.mpr hg)
  have hsame : some e.1 = some f.1 := (hplace e he).symm.trans (heq ▸ hplace f hf)
  exact Nat.ne_of_lt hlt (congrArg rank (Option.some.inj hsame))

theorem members_insert (r : Roster) (a : Address) :
    (r.insert a).members = if a ∈ r.members then r.members else r.members ++ [a] := by
  by_cases h : r.placeOf.contains a
  · rw [if_pos (contains_iff.mp h)]
    simp only [members, insert, Placement.insert, if_pos h]
  · rw [if_neg (fun hmem => h (contains_iff.mpr hmem))]
    have hbehind : ∀ e ∈ r.byPlace.entries, rank e.1 < rank r.next := fun e he =>
      r.sound.lt_next _ _ (SortedMap.get?_eq_some_iff.mpr he)
    simp only [members, insert, Placement.insert, if_neg h, SortedMap.values,
      SortedMap.entries_insert_of_greatest hbehind, List.map_append, List.map_cons, List.map_nil]

theorem members_erase (r : Roster) (a : Address) : (r.erase a).members = r.members.erase a := by
  rw [r.nodup_members.erase_eq_filter]
  cases hplace : r.placeOf.get? a with
  | none =>
    have hout : ∀ b ∈ r.members, b ≠ a := fun b hb e => by
      obtain ⟨place, h⟩ := mem_members_iff.mp hb
      rw [e, hplace] at h
      cases h
    rw [List.filter_eq_self.mpr fun b hb => bne_iff_ne.mpr (hout b hb)]
    simp only [members, erase, Placement.erase, hplace]
  | some place =>
    -- the entry on the account's place is the only one that shows the account
    have hsame : ∀ e ∈ r.byPlace.entries, (rank e.1 != rank place) = (e.2 != a) := fun e he => by
      have hat : r.placeOf.get? e.2 = some e.1 :=
        (r.sound.get?_byPlace_iff _ _).mp (SortedMap.get?_eq_some_iff.mpr he)
      rw [Bool.eq_iff_iff, bne_iff_ne, bne_iff_ne]
      refine not_congr ⟨?_, ?_⟩
      · intro h
        have hto := (r.sound.get?_byPlace_iff _ _).mpr hplace
        rw [← rank_injective h, SortedMap.get?_eq_some_iff.mpr he] at hto
        exact Option.some.inj hto
      · intro h
        rw [h, hplace] at hat
        exact congrArg rank (Option.some.inj hat).symm
    simp only [members, erase, Placement.erase, hplace, SortedMap.values, SortedMap.erase,
      List.filter_map]
    exact congrArg _ (List.filter_congr hsame)

/-- A roster has as many places in use as members. -/
theorem size_eq_length (r : Roster) : r.size = r.members.length := by
  have hperm : (r.placeOf.entries.map Prod.fst).Perm r.members := by
    refine (List.perm_ext_iff_of_nodup r.placeOf.nodup_keys r.nodup_members).mpr fun a => ?_
    exact SortedMap.mem_keys_iff.trans mem_members_iff.symm
  simpa [size, SortedMap.size] using hperm.length_eq

theorem slice_eq_pageOf (r : Roster) (start stop : Nat) :
    r.slice start stop = pageOf r.members start stop := by
  unfold slice pageOf
  split
  · next h => rw [Nat.sub_eq_zero_of_le h, List.take_zero]
  · rfl

theorem members_foldl_insert {r : Roster} {arrivals : List Address}
    (h : (r.members ++ arrivals).Nodup) :
    (arrivals.foldl insert r).members = r.members ++ arrivals := by
  induction arrivals generalizing r with
  | nil => simp
  | cons hd tl ih =>
    have hnew : hd ∉ r.members := fun hmem =>
      (List.nodup_append.mp h).2.2 hd hmem hd (.head _) rfl
    have hstep : (r.insert hd).members = r.members ++ [hd] := by
      rw [members_insert, if_neg hnew]
    rw [List.foldl_cons, ih (by rw [hstep]; simpa using h), hstep]
    simp

/-- Arrivals without repetition are enumerated as they came. -/
theorem members_ofList {arrivals : List Address} (h : arrivals.Nodup) :
    (ofList arrivals).members = arrivals :=
  members_foldl_insert (r := empty) h

end Roster

end CouponBond
