import CouponBond.Ledger.Basic
import Mathlib.Data.List.Nodup

/-!
# Dockets

A docket keeps the open records of one kind under their numbers, and the number of the last one
that was opened.  Records are opened under the numbers 1, 2, 3, ….  A lock or a clearing goes as
a whole and at most once.  A hold goes in parts, and what was taken from it and what is left of it
make up the hold that was opened.

Each of these invariants ties a docket to what was opened and taken so far, and each is kept by
every step of the docket.

## Main Definitions

* `Docket`, `Docket.WholeStep`, `Docket.PartStep` — the records of one kind and their steps
* `Docket.Issued` — records were opened under successive numbers
* `Docket.Whole`, `Docket.Parts` — how a docket comes from what was opened and what was taken

## Main Results

* `Docket.Issued.eq_of_id_eq` — no two records have one number
* `Docket.Whole.step`, `Docket.Parts.step` — what one step of a docket preserves
-/

namespace CouponBond

/-- The open records of one kind, and the number of the last one that was opened. -/
structure Docket (R : Type) where
  records : SortedMap UInt64 R
  last : UInt64

namespace Docket

/-- A record is opened under the next number, or one goes as a whole, or nothing happens. -/
inductive WholeStep {R : Type} (idOf : R → UInt64) (s : Docket R) :
    Option R → Option UInt64 → Docket R → Prop where
  | idle : WholeStep idOf s none none s
  | opened {r : R} : Unsigned.add? s.last 1 = some (idOf r) →
      WholeStep idOf s (some r) none ⟨s.records.insert (idOf r) r, idOf r⟩
  | ended {id : UInt64} {r : R} : s.records.get? id = some r →
      WholeStep idOf s none (some id) ⟨s.records.erase id, s.last⟩

/-- A hold is opened under the next number, or units are taken from one, or nothing happens.
The units that are taken are given for every number. -/
inductive PartStep (s : Docket Hold) : Option Hold → (HoldId → Nat) → Docket Hold → Prop where
  | idle {taken : HoldId → Nat} : (∀ n, taken n = 0) → PartStep s none taken s
  | opened {r : Hold} {taken : HoldId → Nat} : (∀ n, taken n = 0) →
      Unsigned.add? s.last 1 = some r.id → r.amount ≠ 0 →
      PartStep s (some r) taken ⟨s.records.insert r.id r, r.id⟩
  | drawn {id : HoldId} {r : Hold} {units rest : Amount} {taken : HoldId → Nat} :
      (∀ n, taken n = if n = id then units.toNat else 0) → s.records.get? id = some r →
      Unsigned.sub? r.amount units = some rest →
      PartStep s none taken
        ⟨if rest = 0 then s.records.erase id
          else s.records.insert id { r with amount := rest }, s.last⟩

/-! ### Reads -/

section Reads

variable {R : Type} (s : Docket R) (id last n : UInt64)

theorem get?_opened (r : R) : (Docket.mk (s.records.insert id r) last).records.get? n =
    if n = id then some r else s.records.get? n := by
  rw [SortedMap.get?_insert]
  simp only [rank_inj]

theorem get?_ended : (Docket.mk (s.records.erase id) last).records.get? n =
    if n = id then none else s.records.get? n := by
  rw [SortedMap.get?_erase]
  simp only [rank_inj]

theorem get?_drawn (s : Docket Hold) (r : Hold) (rest : Amount) :
    (Docket.mk (if rest = 0 then s.records.erase id
      else s.records.insert id { r with amount := rest }) last).records.get? n =
      if n = id then (if rest = 0 then none else some { r with amount := rest })
      else s.records.get? n := by
  split
  · exact s.get?_ended id last n
  · exact s.get?_opened id last n _

end Reads

/-! ### Numbers -/

section Numbers

variable {R : Type} {idOf : R → UInt64} {opened : List R} {last : UInt64} {r r' : R}

/-- Records were opened under the numbers 1, 2, 3, … up to the last one. -/
def Issued (idOf : R → UInt64) (opened : List R) (last : UInt64) : Prop :=
  opened.map (fun r => (idOf r).toNat) = List.range' 1 last.toNat

theorem issued_nil : Issued idOf [] 0 := rfl

theorem Issued.concat (h : Issued idOf opened last)
    (hid : Unsigned.add? last 1 = some (idOf r)) : Issued idOf (opened ++ [r]) (idOf r) := by
  have hnext : (idOf r).toNat = last.toNat + 1 := Unsigned.toNat_of_add? hid
  unfold Issued
  rw [List.map_append, h, List.map_singleton, hnext, List.range'_concat, Nat.one_mul,
    Nat.add_comm]

theorem Issued.toNat_le (h : Issued idOf opened last) (hr : r ∈ opened) :
    (idOf r).toNat ≤ last.toNat := by
  have hmem := List.mem_map_of_mem (f := fun r => (idOf r).toNat) hr
  rw [h, List.mem_range'_1] at hmem
  omega

/-- The next number was given to no record. -/
theorem Issued.id_ne (h : Issued idOf opened last) {id : UInt64}
    (hid : Unsigned.add? last 1 = some id) (hr : r ∈ opened) : idOf r ≠ id := by
  rintro rfl
  have hnext : (idOf r).toNat = last.toNat + 1 := Unsigned.toNat_of_add? hid
  have hle := h.toNat_le hr
  omega

/-- No two records have one number. -/
theorem Issued.eq_of_id_eq (h : Issued idOf opened last) (hr : r ∈ opened) (hr' : r' ∈ opened)
    (hid : idOf r = idOf r') : r = r' := by
  have hnodup : (opened.map fun r => (idOf r).toNat).Nodup := by
    rw [h]
    exact List.nodup_range'
  exact List.inj_on_of_nodup_map hnodup hr hr' (congrArg UInt64.toNat hid)

theorem Issued.map_eq_range' (h : Issued idOf opened last) :
    opened.map (fun r => (idOf r).toNat) = List.range' 1 opened.length := by
  have hlength := congrArg List.length h
  rw [List.length_map, List.length_range'] at hlength
  rw [h, hlength]

end Numbers

/-! ### Records that go as a whole -/

/-- A docket holds the records that were opened and did not end.  None ends twice, or without
having been opened. -/
structure Whole {R : Type} (idOf : R → UInt64) (opened : List R) (ended : List UInt64)
    (s : Docket R) : Prop where
  issued : Issued idOf opened s.last
  get?_iff : ∀ id r, s.records.get? id = some r ↔ r ∈ opened ∧ idOf r = id ∧ id ∉ ended
  ended_nodup : ended.Nodup
  ended_opened : ∀ id ∈ ended, ∃ r ∈ opened, idOf r = id

section Whole

variable {R : Type} {idOf : R → UInt64} {opened : List R} {ended : List UInt64}
  {s s' : Docket R} {r? : Option R} {id? : Option UInt64}

theorem whole_nil : Whole idOf [] [] ⟨.empty, 0⟩ where
  issued := issued_nil
  get?_iff _ _ := ⟨fun h => (nomatch h), fun h => (nomatch h.1)⟩
  ended_nodup := .nil
  ended_opened _ h := nomatch h

theorem Whole.step (h : Whole idOf opened ended s) (hstep : s.WholeStep idOf r? id? s') :
    Whole idOf (opened ++ r?.toList) (ended ++ id?.toList) s' := by
  cases hstep with
  | idle =>
    simp only [Option.toList_none, List.append_nil]
    exact h
  | @opened r hid =>
    have hnew : idOf r ∉ ended := fun hended => by
      obtain ⟨r', hr', heq⟩ := h.ended_opened _ hended
      exact h.issued.id_ne hid hr' heq
    rw [Option.toList_none, List.append_nil, Option.toList_some]
    refine ⟨h.issued.concat hid, fun id r' => ?_, h.ended_nodup, fun id hended => ?_⟩
    · rw [get?_opened, List.mem_append, List.mem_singleton]
      split
      · next heq =>
        subst heq
        constructor
        · intro hr'
          cases hr'
          exact ⟨.inr rfl, rfl, hnew⟩
        · rintro ⟨hr' | rfl, heq, -⟩
          · exact absurd heq (h.issued.id_ne hid hr')
          · rfl
      · next hne =>
        rw [h.get?_iff]
        constructor
        · rintro ⟨hr', hrest⟩
          exact ⟨.inl hr', hrest⟩
        · rintro ⟨hr' | rfl, heq, hopen⟩
          · exact ⟨hr', heq, hopen⟩
          · exact absurd heq.symm hne
    · obtain ⟨r', hr', heq⟩ := h.ended_opened id hended
      exact ⟨r', List.mem_append_left _ hr', heq⟩
  | @ended id r hget =>
    obtain ⟨hr, hid, hopen⟩ := (h.get?_iff id r).mp hget
    rw [Option.toList_none, List.append_nil, Option.toList_some]
    refine ⟨h.issued, fun n r' => ?_, ?_, fun n hended => ?_⟩
    · rw [get?_ended, List.mem_append, List.mem_singleton]
      split
      · next heq => exact ⟨fun hnone => (nomatch hnone), fun hr' => absurd (.inr heq) hr'.2.2⟩
      · next hne =>
        rw [h.get?_iff]
        simp only [hne, or_false]
    · rw [List.nodup_append]
      refine ⟨h.ended_nodup, List.nodup_singleton id, fun n hn m hm heq => ?_⟩
      rw [heq, List.mem_singleton.mp hm] at hn
      exact hopen hn
    · rcases List.mem_append.mp hended with hended | hnow
      · exact h.ended_opened n hended
      · rw [List.mem_singleton.mp hnow]
        exact ⟨r, hr, hid⟩

theorem Whole.get?_eq_none (h : Whole idOf opened ended s) {id : UInt64} (hid : id ∈ ended) :
    s.records.get? id = none :=
  Option.eq_none_iff_forall_not_mem.mpr fun r hr => ((h.get?_iff id r).mp hr).2.2 hid

/-- What is kept of a record that was opened by then or later is the record. -/
theorem Whole.eq_of_get? (h : Whole idOf opened ended s) {all : List R} {last : UInt64}
    (hall : Issued idOf all last) (hsub : opened ⊆ all) {r r' : R} (hr : r ∈ all)
    (hget : s.records.get? (idOf r) = some r') : r' = r := by
  obtain ⟨hr', hid, -⟩ := (h.get?_iff _ _).mp hget
  exact hall.eq_of_id_eq (hsub hr') hr hid

end Whole

/-! ### Holds, which go in parts -/

/-- Units that are left of the hold under a number. -/
def unitsLeft (s : Docket Hold) (id : HoldId) : Nat :=
  (s.records.get? id).elim 0 fun rest => rest.amount.toNat

/-- A docket holds what is left of the holds that were opened. -/
structure Parts (opened : List Hold) (taken : HoldId → Nat) (s : Docket Hold) : Prop where
  issued : Issued Hold.id opened s.last
  /-- What was taken and what is left make up the hold. -/
  accounted : ∀ r ∈ opened, taken r.id + s.unitsLeft r.id = r.amount.toNat
  /-- What is left of a hold differs from it in the units alone. -/
  rest : ∀ id rest, s.records.get? id = some rest →
    rest.amount ≠ 0 ∧ ∃ r ∈ opened, r.id = id ∧ rest = { r with amount := rest.amount }
  taken_opened : ∀ id, taken id ≠ 0 → ∃ r ∈ opened, r.id = id

section Parts

variable {opened : List Hold} {taken more : HoldId → Nat} {s s' : Docket Hold} {r? : Option Hold}

theorem parts_nil : Parts [] (fun _ => 0) ⟨.empty, 0⟩ where
  issued := issued_nil
  accounted _ h := nomatch h
  rest _ _ h := nomatch h
  taken_opened _ h := absurd rfl h

theorem unitsLeft_opened (s : Docket Hold) (r : Hold) (id last n : HoldId) :
    (Docket.mk (s.records.insert id r) last).unitsLeft n =
      if n = id then r.amount.toNat else s.unitsLeft n := by
  rw [unitsLeft, get?_opened]
  split <;> rfl

/-- A hold that is dropped because nothing is left counts as one of which nothing is left. -/
theorem unitsLeft_drawn (s : Docket Hold) (r : Hold) (rest : Amount) (id last n : HoldId) :
    (Docket.mk (if rest = 0 then s.records.erase id
      else s.records.insert id { r with amount := rest }) last).unitsLeft n =
      if n = id then rest.toNat else s.unitsLeft n := by
  rw [unitsLeft, get?_drawn]
  by_cases hn : n = id
  · rw [if_pos hn, if_pos hn]
    split
    · next hzero =>
      rw [hzero]
      rfl
    · rfl
  · rw [if_neg hn, if_neg hn]
    rfl

theorem Parts.step (h : Parts opened taken s) (hstep : s.PartStep r? more s') :
    Parts (opened ++ r?.toList) (fun id => taken id + more id) s' := by
  cases hstep with
  | idle hmore =>
    simp only [hmore, Nat.add_zero, Option.toList_none, List.append_nil]
    exact h
  | @opened r _ hmore hid hpos =>
    have hnone : taken r.id = 0 := Classical.byContradiction fun htaken => by
      obtain ⟨r', hr', heq⟩ := h.taken_opened _ htaken
      exact h.issued.id_ne hid hr' heq
    simp only [hmore, Nat.add_zero]
    refine ⟨h.issued.concat hid, fun r' hr' => ?_, fun id rest hget => ?_, fun id htaken => ?_⟩
    · rw [unitsLeft_opened]
      rcases List.mem_append.mp hr' with hr' | hr'
      · rw [if_neg (h.issued.id_ne hid hr')]
        exact h.accounted r' hr'
      · rw [List.mem_singleton.mp hr', if_pos rfl, hnone, Nat.zero_add]
    · rw [get?_opened] at hget
      split at hget
      · next heq =>
        cases hget
        exact ⟨hpos, r, List.mem_append_right _ (List.mem_singleton.mpr rfl), heq.symm, rfl⟩
      · obtain ⟨hrest, r', hr', heq⟩ := h.rest id rest hget
        exact ⟨hrest, r', List.mem_append_left _ hr', heq⟩
    · obtain ⟨r', hr', heq⟩ := h.taken_opened id htaken
      exact ⟨r', List.mem_append_left _ hr', heq⟩
  | @drawn id kept units rest _ hmore hget hrest =>
    obtain ⟨hle, hsub⟩ := Unsigned.toNat_of_sub? hrest
    obtain ⟨-, r, hr, hid, hkept⟩ := h.rest id kept hget
    have hleft : s.unitsLeft id = kept.amount.toNat := by
      rw [unitsLeft, hget, Option.elim_some]
    simp only [Option.toList_none, List.append_nil]
    refine ⟨h.issued, fun r' hr' => ?_, fun n rest' hget' => ?_, fun n htaken => ?_⟩
    · have hbefore := h.accounted r' hr'
      rw [hmore, unitsLeft_drawn]
      split
      · next heq =>
        rw [heq, hleft] at hbefore
        rw [heq]
        omega
      · exact hbefore
    · rw [get?_drawn] at hget'
      split at hget'
      · next heq =>
        split at hget'
        · cases hget'
        · next hpos =>
          cases hget'
          refine ⟨hpos, r, hr, hid.trans heq.symm, ?_⟩
          rw [hkept]
      · exact h.rest n rest' hget'
    · rw [hmore] at htaken
      split at htaken
      · next heq => exact ⟨r, hr, hid.trans heq.symm⟩
      · exact h.taken_opened n htaken

/-- A hold of which nothing is left is not kept. -/
theorem Parts.get?_eq_none (h : Parts opened taken s) {id : HoldId} (hnone : s.unitsLeft id = 0) :
    s.records.get? id = none := by
  refine Option.eq_none_iff_forall_not_mem.mpr fun rest hrest => ?_
  have hget : s.records.get? id = some rest := hrest
  rw [unitsLeft, hget, Option.elim_some] at hnone
  exact (h.rest id rest hget).1 (UInt64.toNat_inj.mp hnone)

/-- What is kept of a hold that was opened by then or later is the rest of it. -/
theorem Parts.eq_of_get? (h : Parts opened taken s) {all : List Hold} {last : HoldId}
    (hall : Issued Hold.id all last) (hsub : opened ⊆ all) {r rest : Hold} (hr : r ∈ all)
    (hget : s.records.get? r.id = some rest) : rest = { r with amount := rest.amount } := by
  obtain ⟨-, r', hr', hid, hrest⟩ := h.rest r.id rest hget
  rwa [hall.eq_of_id_eq (hsub hr') hr hid] at hrest

end Parts

end Docket

end CouponBond
