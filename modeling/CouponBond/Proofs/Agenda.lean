import CouponBond.Proofs.BondReachable

/-!
# Actions, snapshots and the agenda

The actions are numbered by their places, every action that names a snapshot names the one that
was taken for it, and the agenda lists the record dates of the actions that name none.  Opening
a bond, accepting an action and keeping captures preserve this, and so does every command.

## Main Definitions

* `ActionStore.Numbered` — the actions are numbered by their places, within the 64-bit range
* `SnapshotBook.Agrees` — snapshots and agenda agree with the actions
* `SnapshotBook.kept` — what was kept for an action
* `SnapshotBook.Follows` — what keeping captures changes

## Main Results

* `SnapshotBook.Agrees.agendaOf_eq` — the agenda is the one that the actions determine
* `SnapshotBook.Agrees.commit` — keeping captures preserves the agreement and loses nothing
-/

namespace CouponBond

theorem nth?_eq_some_iff {α : Type} {l : List α} {number : UInt64} {a : α} :
    nth? l number = some a ↔ number ≠ 0 ∧ l[number.toNat - 1]? = some a := by
  unfold nth?
  split
  · next h => simp [h]
  · next h => simp [h]

/-- Places are counted from 1 by words that are not 0. -/
theorem toNat_eq_succ_iff {number : UInt64} {place : Nat} :
    number.toNat = place + 1 ↔ number ≠ 0 ∧ number.toNat - 1 = place := by
  have hzero : number = 0 ↔ number.toNat = 0 := by
    rw [← UInt64.toNat_inj]
    rfl
  rw [Ne, hzero]
  omega

/-! ### The actions -/

theorem Action.hasSnapshot_eq_false_iff {a : Action} :
    a.hasSnapshot = false ↔ a.snapshotId = 0 := by
  simp [hasSnapshot]

namespace ActionStore

/-- The actions are numbered by their places, within the 64-bit range, and the numbers of the
coupons are numbers of coupons. -/
structure Numbered (s : ActionStore) : Prop where
  length_lt : s.actions.length < UInt64.size
  toNat_id : ∀ (place : Nat) (a : Action), s.actions[place]? = some a → a.id.toNat = place + 1
  coupon_of_mem : ∀ id ∈ s.couponIds, ∃ a ∈ s.actions, a.id = id ∧ ∃ c, a.kind = .coupon c

variable {s : ActionStore} {id : ActionId} {a : Action}

theorem Numbered.placed (h : s.Numbered) : s.Placed := ⟨h.toNat_id⟩

/-- There are no more actions than numbers. -/
theorem Placed.length_lt (h : s.Placed) : s.actions.length < UInt64.size := by
  refine Nat.lt_of_not_le fun hle => ?_
  have hlast : UInt64.size - 1 < s.actions.length := Nat.lt_of_lt_of_le (by decide) hle
  have hid := h.toNat_id _ _ (List.getElem?_eq_getElem hlast)
  have hrange := (s.actions[UInt64.size - 1]).id.toNat_lt_size
  omega

theorem numbered_empty : empty.Numbered where
  length_lt := by decide
  toNat_id place a h := by cases h
  coupon_of_mem id h := by cases h

/-- An action is found under its number and nowhere else. -/
theorem Placed.get?_eq_ok_iff (h : s.Placed) :
    s.get? id = .ok a ↔ a ∈ s.actions ∧ a.id = id := by
  have hnth : s.get? id = .ok a ↔ nth? s.actions id = some a := by
    unfold get?
    split
    · next b hb => rw [hb, Except.ok.injEq, Option.some.injEq]
    · next hnone => simp [hnone]
  rw [hnth, nth?_eq_some_iff]
  constructor
  · rintro ⟨hne, hat⟩
    have hid := h.toNat_id _ _ hat
    refine ⟨List.mem_of_getElem? hat, UInt64.toNat_inj.mp ?_⟩
    rw [hid]
    exact (toNat_eq_succ_iff.mpr ⟨hne, rfl⟩).symm
  · rintro ⟨hmem, rfl⟩
    obtain ⟨place, hplace⟩ := List.mem_iff_getElem?.mp hmem
    obtain ⟨hne, hat⟩ := toNat_eq_succ_iff.mp (h.toNat_id place a hplace)
    exact ⟨hne, by rw [hat, hplace]⟩

theorem eq_of_get?_eq_error {e : ActionError} (h : s.get? id = .error e) : e = ⟨id⟩ := by
  unfold get? at h
  split at h
  · cases h
  · exact (Except.error.inj h).symm

theorem Placed.get?_of_mem (h : s.Placed) (hmem : a ∈ s.actions) : s.get? a.id = .ok a :=
  h.get?_eq_ok_iff.mpr ⟨hmem, rfl⟩

/-- Two actions with one number are one. -/
theorem Placed.eq_of_id_eq (h : s.Placed) {b : Action} (ha : a ∈ s.actions)
    (hb : b ∈ s.actions) (hid : a.id = b.id) : a = b := by
  have hsame := h.get?_of_mem ha
  rw [hid, h.get?_of_mem hb] at hsame
  exact (Except.ok.inj hsame).symm

/-- Two stores with the same action under a number find the same. -/
theorem Placed.get?_congr (h : s.Placed) {s' : ActionStore} (h' : s'.Placed)
    (hsame : ∀ a : Action, a.id = id → (a ∈ s'.actions ↔ a ∈ s.actions)) :
    s'.get? id = s.get? id := by
  cases hget : s.get? id with
  | ok a =>
    obtain ⟨ha, hid⟩ := h.get?_eq_ok_iff.mp hget
    exact h'.get?_eq_ok_iff.mpr ⟨(hsame a hid).mpr ha, hid⟩
  | error e =>
    rw [eq_of_get?_eq_error hget]
    cases hget' : s'.get? id with
    | error e' => rw [eq_of_get?_eq_error hget']
    | ok a =>
      obtain ⟨ha, hid⟩ := h'.get?_eq_ok_iff.mp hget'
      rw [h.get?_eq_ok_iff.mpr ⟨(hsame a hid).mp ha, hid⟩] at hget
      cases hget

theorem mem_couponIds_push_iff {next couponId : ActionId} {kind : ActionKind} :
    couponId ∈ (s.push next kind).couponIds ↔
      couponId ∈ s.couponIds ∨ couponId = next ∧ ∃ c, kind = .coupon c := by
  unfold ActionStore.push
  cases kind with
  | coupon c => simp [ActionKind.type]
  | dividend d => simp [ActionKind.type]

theorem actions_push (s : ActionStore) (id : ActionId) (kind : ActionKind) :
    (s.push id kind).actions = s.actions ++ [⟨id, kind, 0⟩] := by
  unfold ActionStore.push
  split <;> rfl

theorem mem_push_iff {id : ActionId} {kind : ActionKind} :
    a ∈ (s.push id kind).actions ↔ a ∈ s.actions ∨ a = ⟨id, kind, 0⟩ := by
  rw [actions_push]
  simp

/-- The next action gets the number behind the others. -/
theorem toNat_nextId {next : ActionId} (hnext : s.nextId? = some next) :
    next.toNat = s.actions.length + 1 := by
  unfold nextId? count at hnext
  split at hnext
  · next hlt =>
    cases hnext
    exact UInt64.toNat_ofNat_of_lt' hlt
  · cases hnext

theorem Placed.push (h : s.Placed) {next : ActionId} (hnext : s.nextId? = some next)
    (kind : ActionKind) : (s.push next kind).Placed := by
  refine ⟨fun place a hat => ?_⟩
  rw [actions_push] at hat
  rcases getElem?_concat_eq_some hat with hat | ⟨rfl, rfl⟩
  · exact h.toNat_id place a hat
  · exact toNat_nextId hnext

/-- An action that is added gets a number that no action has. -/
theorem Numbered.push (h : s.Numbered) {id : ActionId} (hid : s.nextId? = some id)
    (kind : ActionKind) : (s.push id kind).Numbered ∧ id.toNat = s.actions.length + 1 := by
  have hplaced := h.placed.push hid kind
  refine ⟨⟨hplaced.length_lt, hplaced.toNat_id, ?_⟩, toNat_nextId hid⟩
  intro couponId hmem
  rcases mem_couponIds_push_iff.mp hmem with hmem | ⟨rfl, hcoupon⟩
  · obtain ⟨a, ha, hfound⟩ := h.coupon_of_mem couponId hmem
    exact ⟨a, mem_push_iff.mpr (.inl ha), hfound⟩
  · exact ⟨_, mem_push_iff.mpr (.inr rfl), rfl, hcoupon⟩

/-- No action has the number that the next one gets. -/
theorem Placed.id_ne_of_mem (h : s.Placed) {next : ActionId} (hnext : s.nextId? = some next)
    (hmem : a ∈ s.actions) : a.id ≠ next := by
  obtain ⟨place, hplace⟩ := List.mem_iff_getElem?.mp hmem
  have hid := h.toNat_id place a hplace
  have hlt := (List.getElem?_eq_some_iff.mp hplace).1
  have hbehind := toNat_nextId hnext
  intro heq
  rw [heq] at hid
  omega

theorem Placed.get?_push (h : s.Placed) {next : ActionId} (hnext : s.nextId? = some next)
    (kind : ActionKind) (id : ActionId) :
    (s.push next kind).get? id = if id = next then .ok ⟨next, kind, 0⟩ else s.get? id := by
  have hpush := h.push hnext kind
  split
  · next hid =>
    subst hid
    exact hpush.get?_eq_ok_iff.mpr ⟨mem_push_iff.mpr (.inr rfl), rfl⟩
  · next hid =>
    refine h.get?_congr hpush ?_
    rintro e rfl
    rw [mem_push_iff]
    constructor
    · rintro (he | rfl)
      · exact he
      · exact absurd rfl hid
    · exact .inl

/-- The payment of the action with a number. -/
def kindOf? (s : ActionStore) (id : ActionId) : Option ActionKind :=
  match s.get? id with
  | .ok a => some a.kind
  | .error _ => none

theorem Placed.kindOf?_eq_some_iff (h : s.Placed) {kind : ActionKind} :
    s.kindOf? id = some kind ↔ ∃ a ∈ s.actions, a.id = id ∧ a.kind = kind := by
  unfold kindOf?
  cases hget : s.get? id with
  | ok a =>
    have ha := h.get?_eq_ok_iff.mp hget
    constructor
    · intro hkind
      exact ⟨a, ha.1, ha.2, Option.some.inj hkind⟩
    · rintro ⟨b, hb, hid, rfl⟩
      rw [h.eq_of_id_eq ha.1 hb (ha.2.trans hid.symm)]
  | error e =>
    constructor
    · intro hkind
      cases hkind
    · rintro ⟨b, hb, rfl, -⟩
      rw [h.get?_of_mem hb] at hget
      cases hget

@[simp] theorem kindOf?_empty (id : ActionId) : empty.kindOf? id = none := by
  refine Option.eq_none_iff_forall_ne_some.mpr fun kind hkind => ?_
  obtain ⟨a, ha, -⟩ := numbered_empty.placed.kindOf?_eq_some_iff.mp hkind
  cases ha

theorem Placed.kindOf?_next (h : s.Placed) {next : ActionId} (hnext : s.nextId? = some next) :
    s.kindOf? next = none := by
  refine Option.eq_none_iff_forall_ne_some.mpr fun kind hkind => ?_
  obtain ⟨a, ha, hid, -⟩ := h.kindOf?_eq_some_iff.mp hkind
  exact h.id_ne_of_mem hnext ha hid

/-- The store in which an action names a snapshot. -/
def named (s : ActionStore) (a : Action) (snapshotId : SnapshotId) : ActionStore :=
  { s with actions := s.actions.set (a.id.toNat - 1) { a with snapshotId } }

/-- Linking writes the snapshot of an action that has none. -/
theorem Placed.linkSnapshot?_of_mem (h : s.Placed) (hmem : a ∈ s.actions)
    (snapshotId : SnapshotId) :
    s.linkSnapshot? a.id snapshotId =
      .ok (if a.hasSnapshot then (false, s) else (true, s.named a snapshotId)) := by
  have hget := h.get?_of_mem hmem
  unfold linkSnapshot?
  rw [hget]
  show (s.get? a.id >>= fun target => _) = _
  rw [hget]
  show (if a.hasSnapshot then _ else _) = _
  split <;> rfl

theorem Placed.mem_named_iff (h : s.Placed) (hmem : a ∈ s.actions) (snapshotId : SnapshotId)
    {b : Action} :
    b ∈ (s.named a snapshotId).actions ↔
      b = { a with snapshotId } ∨ b ∈ s.actions ∧ b.id ≠ a.id := by
  obtain ⟨place, hplace⟩ := List.mem_iff_getElem?.mp hmem
  have hid := h.toNat_id place a hplace
  have hat : a.id.toNat - 1 = place := by omega
  have hlt : place < s.actions.length := (List.getElem?_eq_some_iff.mp hplace).1
  simp only [named, hat, List.mem_iff_getElem?, List.getElem?_set]
  constructor
  · rintro ⟨i, hi⟩
    split at hi
    · exact .inl (Option.some.inj hi).symm
    · next hne =>
      refine .inr ⟨⟨i, hi⟩, fun e => hne ?_⟩
      have := h.toNat_id i b hi
      rw [e] at this
      omega
  · rintro (rfl | ⟨⟨i, hi⟩, hne⟩)
    · exact ⟨place, by simp [hlt]⟩
    · refine ⟨i, ?_⟩
      rw [if_neg]
      · exact hi
      · rintro rfl
        rw [hplace] at hi
        exact hne (by rw [← Option.some.inj hi])

theorem Placed.named (h : s.Placed) (hmem : a ∈ s.actions) (snapshotId : SnapshotId) :
    (s.named a snapshotId).Placed := by
  obtain ⟨place, hplace⟩ := List.mem_iff_getElem?.mp hmem
  have hid := h.toNat_id place a hplace
  refine ⟨fun i b hi => ?_⟩
  rw [ActionStore.named, List.getElem?_set] at hi
  split at hi
  · next heq =>
    split at hi
    · cases hi
      show a.id.toNat = i + 1
      omega
    · cases hi
  · exact h.toNat_id i b hi

theorem Numbered.named (h : s.Numbered) (hmem : a ∈ s.actions) (snapshotId : SnapshotId) :
    (s.named a snapshotId).Numbered := by
  have hplaced := h.placed.named hmem snapshotId
  refine ⟨hplaced.length_lt, hplaced.toNat_id, ?_⟩
  intro id hid
  obtain ⟨e, he, rfl, hcoupon⟩ := h.coupon_of_mem id hid
  have hmem' := fun {e : Action} => h.placed.mem_named_iff hmem snapshotId (b := e)
  by_cases hsame : e.id = a.id
  · have := h.placed.eq_of_id_eq he hmem hsame
    subst this
    exact ⟨_, hmem'.mpr (.inl rfl), rfl, hcoupon⟩
  · exact ⟨e, hmem'.mpr (.inr ⟨he, hsame⟩), rfl, hcoupon⟩

theorem Placed.get?_named (h : s.Placed) (hmem : a ∈ s.actions) (snapshotId : SnapshotId)
    (id : ActionId) :
    (s.named a snapshotId).get? id =
      if id = a.id then .ok { a with snapshotId } else s.get? id := by
  have hnamed := h.named hmem snapshotId
  split
  · next hid =>
    subst hid
    exact hnamed.get?_eq_ok_iff.mpr ⟨(h.mem_named_iff hmem snapshotId).mpr (.inl rfl), rfl⟩
  · next hid =>
    refine h.get?_congr hnamed ?_
    rintro e rfl
    rw [h.mem_named_iff hmem]
    constructor
    · rintro (rfl | ⟨he, -⟩)
      · exact absurd rfl hid
      · exact he
    · intro he
      exact .inr ⟨he, hid⟩

/-- Naming a snapshot changes no payment. -/
theorem Placed.kindOf?_named (h : s.Placed) (hmem : a ∈ s.actions)
    (snapshotId : SnapshotId) (id : ActionId) :
    (s.named a snapshotId).kindOf? id = s.kindOf? id := by
  unfold kindOf?
  rw [h.get?_named hmem]
  by_cases hid : id = a.id
  · rw [if_pos hid, hid, h.get?_of_mem hmem]
  · rw [if_neg hid]

end ActionStore

/-! ### Snapshots and agenda -/

namespace SnapshotBook

/-- Snapshots and agenda agree with the actions: there is one snapshot for every action that
names one, each of the two names the other, and the agenda lists the record dates of the actions
that name none. -/
structure Agrees (b : SnapshotBook) (s : ActionStore) : Prop where
  numbered : s.Numbered
  length_eq : b.snapshots.length = s.actions.countP Action.hasSnapshot
  owner : ∀ a ∈ s.actions, a.hasSnapshot = true →
    ∃ snapshot, b.get? a.snapshotId = some snapshot ∧ snapshot.actionId = a.id
  named : ∀ (place : Nat) (snapshot : Snapshot), b.snapshots[place]? = some snapshot →
    ∃ a ∈ s.actions, a.id = snapshot.actionId ∧ a.snapshotId.toNat = place + 1
  mem_pending_iff : ∀ t, t ∈ b.pending.keys ↔
    ∃ a ∈ s.actions, a.hasSnapshot = false ∧ t = ⟨a.kind.recordDate, a.id⟩

/-- What was kept for an action, if anything was. -/
def kept (b : SnapshotBook) (s : ActionStore) (id : ActionId) : Option Holdings :=
  match s.get? id with
  | .ok a => (b.get? a.snapshotId).map Snapshot.holdings
  | .error _ => none

variable {b : SnapshotBook} {s : ActionStore} {id : ActionId} {a : Action}

theorem agrees_empty : empty.Agrees .empty where
  numbered := ActionStore.numbered_empty
  length_eq := rfl
  owner a ha := by cases ha
  named place snapshot h := by cases h
  mem_pending_iff t := by
    constructor
    · intro ht
      cases ht
    · rintro ⟨a, ha, -⟩
      cases ha

theorem kept_of_mem (h : s.Numbered) (ha : a ∈ s.actions) :
    b.kept s a.id = (b.get? a.snapshotId).map Snapshot.holdings := by
  rw [kept, h.placed.get?_of_mem ha]

/-- Something was kept for just the actions that name a snapshot. -/
theorem Agrees.isSome_kept (h : b.Agrees s) (ha : a ∈ s.actions) :
    (b.kept s a.id).isSome = a.hasSnapshot := by
  rw [kept_of_mem h.numbered ha]
  cases hnamed : a.hasSnapshot with
  | true =>
    obtain ⟨snapshot, hsnapshot, -⟩ := h.owner a ha hnamed
    rw [hsnapshot]
    rfl
  | false =>
    rw [Action.hasSnapshot_eq_false_iff.mp hnamed]
    rfl

/-- The agenda is the one that the actions determine. -/
theorem Agrees.agendaOf_eq (h : b.Agrees s) : agendaOf s = b.pending := by
  refine SortedMap.ext_mem_keys fun t => ?_
  rw [h.mem_pending_iff, agendaOf, SortedMap.ofList]
  have hfold : ∀ (l : List Action) (m : SortedSet Trigger),
      (l.map fun a => ((⟨a.kind.recordDate, a.id⟩, ()) : Trigger × Unit)).foldl
        (fun m e => m.insert e.1 e.2) m =
      (l.map fun a => (⟨a.kind.recordDate, a.id⟩ : Trigger)).foldl
        (fun m t => m.insert t ()) m := by
    intro l
    induction l with
    | nil => exact fun _ => rfl
    | cons hd tl ih => exact fun m => ih _
  rw [hfold, SortedMap.mem_keys_foldl_insert_iff]
  simp only [List.mem_map, List.mem_filter, Bool.not_eq_true']
  constructor
  · rintro (⟨a, ⟨ha, hnone⟩, rfl⟩ | hempty)
    · exact ⟨a, ha, hnone, rfl⟩
    · cases hempty
  · rintro ⟨a, ha, hnone, rfl⟩
    exact .inl ⟨a, ⟨ha, hnone⟩, rfl⟩

/-- An action that is added waits for its record date. -/
theorem Agrees.schedule (h : b.Agrees s) (hid : s.nextId? = some id) (kind : ActionKind) :
    (b.schedule id kind.recordDate).Agrees (s.push id kind) where
  numbered := (h.numbered.push hid kind).1
  length_eq := by
    rw [ActionStore.actions_push, List.countP_append]
    exact h.length_eq
  owner a ha hnamed := by
    rcases ActionStore.mem_push_iff.mp ha with ha | rfl
    · exact h.owner a ha hnamed
    · cases hnamed
  named place snapshot hat := by
    obtain ⟨a, ha, howner⟩ := h.named place snapshot hat
    exact ⟨a, ActionStore.mem_push_iff.mpr (.inl ha), howner⟩
  mem_pending_iff t := by
    show t ∈ (b.pending.insert _ ()).keys ↔ _
    rw [SortedMap.mem_keys_insert_iff, h.mem_pending_iff]
    constructor
    · rintro (rfl | ⟨a, ha, hnone, rfl⟩)
      · exact ⟨_, ActionStore.mem_push_iff.mpr (.inr rfl), rfl, rfl⟩
      · exact ⟨a, ActionStore.mem_push_iff.mpr (.inl ha), hnone, rfl⟩
    · rintro ⟨a, ha, hnone, rfl⟩
      rcases ActionStore.mem_push_iff.mp ha with ha | rfl
      · exact .inr ⟨a, ha, hnone, rfl⟩
      · exact .inl rfl

/-! ### Keeping captures -/

/-- A record date that is not on the agenda leaves no trace when it is taken off. -/
theorem Agrees.erase_of_named (h : b.Agrees s) (ha : a ∈ s.actions)
    (hnamed : a.hasSnapshot = true) (date : Timestamp) :
    b.pending.erase ⟨date, a.id⟩ = b.pending := by
  refine SortedMap.ext_mem_keys fun t => ?_
  rw [SortedMap.mem_keys_erase_iff]
  refine ⟨And.right, fun ht => ⟨?_, ht⟩⟩
  rintro rfl
  obtain ⟨a', ha', hnone, heq⟩ := (h.mem_pending_iff _).mp ht
  have hsame : a = a' := h.numbered.placed.eq_of_id_eq ha ha' (congrArg Trigger.actionId heq)
  rw [← hsame, hnamed] at hnone
  cases hnone

/-- The number of the next snapshot. -/
def nextId (b : SnapshotBook) : SnapshotId := UInt64.ofNat (b.snapshots.length + 1)

/-- As long as an action names no snapshot, and there are no more snapshots than actions that name
one, the next snapshot gets a number. -/
theorem toNat_nextId_of_le (h : s.Placed)
    (hle : b.snapshots.length ≤ s.actions.countP Action.hasSnapshot) (ha : a ∈ s.actions)
    (hnone : a.hasSnapshot = false) : b.nextId.toNat = b.snapshots.length + 1 := by
  -- there are fewer snapshots than actions, so the range of numbers is not used up
  have hlt : s.actions.countP Action.hasSnapshot < s.actions.length := by
    refine Nat.lt_of_le_of_ne List.countP_le_length fun hall => ?_
    rw [List.countP_eq_length.mp hall a ha] at hnone
    cases hnone
  refine UInt64.toNat_ofNat_of_lt' ?_
  have := h.length_lt
  omega

theorem Agrees.toNat_nextId (h : b.Agrees s) (ha : a ∈ s.actions)
    (hnone : a.hasSnapshot = false) : b.nextId.toNat = b.snapshots.length + 1 :=
  toNat_nextId_of_le h.numbered.placed (Nat.le_of_eq h.length_eq) ha hnone

/-- The book in which a capture was kept for an action. -/
def keep (b : SnapshotBook) (a : Action) (c : Capture) : SnapshotBook :=
  ⟨b.snapshots ++ [⟨b.nextId, a.id, c.takenAt, c.holdings⟩],
    b.pending.erase ⟨a.kind.recordDate, a.id⟩⟩

/-- The snapshots that were there keep their numbers. -/
theorem get?_keep_of_eq_some {number : SnapshotId} {snapshot : Snapshot}
    (hsnapshot : b.get? number = some snapshot) (a : Action) (c : Capture) :
    (b.keep a c).get? number = some snapshot := by
  obtain ⟨hne, hat⟩ := nth?_eq_some_iff.mp hsnapshot
  refine nth?_eq_some_iff.mpr ⟨hne, ?_⟩
  rw [SnapshotBook.keep, List.getElem?_append_left (List.getElem?_eq_some_iff.mp hat).1]
  exact hat

/-- The snapshot that is made of a capture gets the next number. -/
theorem Agrees.get?_keep_nextId (h : b.Agrees s) (ha : a ∈ s.actions)
    (hnone : a.hasSnapshot = false) (c : Capture) :
    (b.keep a c).get? b.nextId = some ⟨b.nextId, a.id, c.takenAt, c.holdings⟩ := by
  have hnext := h.toNat_nextId ha hnone
  refine nth?_eq_some_iff.mpr ⟨(toNat_eq_succ_iff.mp hnext).1, ?_⟩
  rw [hnext, Nat.add_sub_cancel]
  exact List.getElem?_concat_length

/-- A capture is kept for an action that names no snapshot and forgotten otherwise. -/
theorem Agrees.commitOne_eq (h : b.Agrees s) (ha : a ∈ s.actions) {c : Capture}
    (hid : c.actionId = a.id) (hdate : c.recordDate = a.kind.recordDate) :
    b.commitOne s c =
      if a.hasSnapshot then (none, b, s)
      else (some ⟨b.nextId, a.id, UInt64.ofNat c.holdings.holders.length⟩, b.keep a c,
        s.named a b.nextId) := by
  have hlink := h.numbered.placed.linkSnapshot?_of_mem ha b.nextId
  unfold commitOne
  dsimp only
  rw [hid, hdate, show UInt64.ofNat (b.snapshots.length + 1) = b.nextId from rfl, hlink]
  cases hnamed : a.hasSnapshot with
  | true =>
    rw [h.erase_of_named ha hnamed]
    rfl
  | false => rfl

/-- Keeping a capture preserves the agreement. -/
theorem Agrees.keep (h : b.Agrees s) (ha : a ∈ s.actions) (hnone : a.hasSnapshot = false)
    (c : Capture) : (b.keep a c).Agrees (s.named a b.nextId) := by
  have hnext := h.toNat_nextId ha hnone
  have hmem := fun {e : Action} => h.numbered.placed.mem_named_iff ha b.nextId (b := e)
  have hwith : Action.hasSnapshot { a with snapshotId := b.nextId } = true := by
    simpa [Action.hasSnapshot] using (toNat_eq_succ_iff.mp hnext).1
  refine ⟨h.numbered.named ha _, ?_, ?_, ?_, ?_⟩
  · obtain ⟨place, hplace⟩ := List.mem_iff_getElem?.mp ha
    obtain ⟨hlt, hat⟩ := List.getElem?_eq_some_iff.mp hplace
    have hid := h.numbered.toNat_id place a hplace
    have hindex : a.id.toNat - 1 = place := by omega
    simp only [SnapshotBook.keep, ActionStore.named, hindex, List.countP_set hlt, hat, hnone,
      hwith, List.length_append, List.length_singleton, h.length_eq, Bool.false_eq_true, if_false,
      if_true, Nat.sub_zero]
  · intro e he hnamed
    rcases hmem.mp he with rfl | ⟨he, hne⟩
    · exact ⟨_, h.get?_keep_nextId ha hnone c, rfl⟩
    · obtain ⟨snapshot, hsnapshot, howner⟩ := h.owner e he hnamed
      exact ⟨snapshot, get?_keep_of_eq_some hsnapshot a c, howner⟩
  · intro place snapshot hat
    rcases getElem?_concat_eq_some hat with hat | ⟨rfl, rfl⟩
    · obtain ⟨e, he, howner, hplace⟩ := h.named place snapshot hat
      refine ⟨e, hmem.mpr (.inr ⟨he, fun hsame => ?_⟩), howner, hplace⟩
      rw [h.numbered.placed.eq_of_id_eq he ha hsame,
        Action.hasSnapshot_eq_false_iff.mp hnone] at hplace
      cases hplace
    · exact ⟨_, hmem.mpr (.inl rfl), rfl, hnext⟩
  · intro t
    rw [SnapshotBook.keep, SortedMap.mem_keys_erase_iff, h.mem_pending_iff]
    constructor
    · rintro ⟨hne, e, he, hwaits, rfl⟩
      refine ⟨e, hmem.mpr (.inr ⟨he, fun hsame => hne ?_⟩), hwaits, rfl⟩
      rw [h.numbered.placed.eq_of_id_eq he ha hsame]
    · rintro ⟨e, he, hwaits, rfl⟩
      rcases hmem.mp he with rfl | ⟨he, hne⟩
      · rw [hwith] at hwaits
        cases hwaits
      · exact ⟨fun heq => hne (congrArg Trigger.actionId heq), e, he, hwaits, rfl⟩

/-- A capture that was kept is what was kept for its action. -/
theorem Agrees.kept_keep (h : b.Agrees s) (ha : a ∈ s.actions) (hnone : a.hasSnapshot = false)
    (c : Capture) (id : ActionId) :
    (b.keep a c).kept (s.named a b.nextId) id =
      if id = a.id then some c.holdings else b.kept s id := by
  unfold kept
  rw [h.numbered.placed.get?_named ha]
  by_cases hid : id = a.id
  · rw [if_pos hid, if_pos hid]
    show ((b.keep a c).get? b.nextId).map Snapshot.holdings = _
    rw [h.get?_keep_nextId ha hnone]
    rfl
  · rw [if_neg hid, if_neg hid]
    cases hget : s.get? id with
    | error e => rfl
    | ok e =>
      obtain ⟨he, -⟩ := h.numbered.placed.get?_eq_ok_iff.mp hget
      show ((b.keep a c).get? e.snapshotId).map _ = (b.get? e.snapshotId).map _
      -- An action names no snapshot or one of those that were there before.
      cases hnamed : e.hasSnapshot with
      | false =>
        rw [Action.hasSnapshot_eq_false_iff.mp hnamed]
        rfl
      | true =>
        obtain ⟨snapshot, hsnapshot, -⟩ := h.owner e he hnamed
        rw [get?_keep_of_eq_some hsnapshot, hsnapshot]

/-- Captures that can be kept: each was taken for an action of the store. -/
def Fitting (s : ActionStore) (captures : List Capture) : Prop :=
  ∀ c ∈ captures, ∃ kind, s.kindOf? c.actionId = some kind ∧ c.recordDate = kind.recordDate

/-- A book and a store that follow others: they agree, payments and numbers of coupons are the
same, and nothing that was kept is lost; `added` says what else is kept. -/
structure Follows (b : SnapshotBook) (s : ActionStore) (added : ActionId → Option Holdings)
    (b' : SnapshotBook) (s' : ActionStore) : Prop where
  agrees : b'.Agrees s'
  kindOf?_eq : ∀ id, s'.kindOf? id = s.kindOf? id
  couponIds_eq : s'.couponIds = s.couponIds
  kept_eq : ∀ id, b'.kept s' id = (b.kept s id).or (added id)

theorem Agrees.commitOne (h : b.Agrees s) {c : Capture} {kind : ActionKind}
    (hkind : s.kindOf? c.actionId = some kind) (hdate : c.recordDate = kind.recordDate) :
    b.Follows s (fun id => if id = c.actionId then some c.holdings else none)
      (b.commitOne s c).2.1 (b.commitOne s c).2.2 := by
  obtain ⟨a, ha, hid, rfl⟩ := h.numbered.placed.kindOf?_eq_some_iff.mp hkind
  rw [h.commitOne_eq ha hid.symm hdate, ← hid]
  cases hnamed : a.hasSnapshot with
  | true =>
    refine ⟨h, fun _ => rfl, rfl, fun id => ?_⟩
    show b.kept s id = _
    split
    · next heq =>
      have hsome := h.isSome_kept ha
      rw [hnamed, ← heq] at hsome
      obtain ⟨holdings, hkept⟩ := Option.isSome_iff_exists.mp hsome
      rw [hkept, Option.some_or]
    · rw [Option.or_none]
  | false =>
    refine ⟨h.keep ha hnamed c, h.numbered.placed.kindOf?_named ha _, rfl, fun id => ?_⟩
    show (b.keep a c).kept (s.named a b.nextId) id = _
    rw [h.kept_keep ha hnamed]
    split
    · next heq =>
      have hnone := h.isSome_kept ha
      rw [hnamed, Option.isSome_eq_false_iff, Option.isNone_iff_eq_none] at hnone
      rw [heq, hnone, Option.none_or]
    · rw [Option.or_none]

/-- Keeping captures of one moment keeps its balances for the actions of the captures, unless
something was kept for them before. -/
theorem Agrees.commit {captures : List Capture} {holdings : Holdings} (h : b.Agrees s)
    (hfitting : Fitting s captures) (hmoment : ∀ c ∈ captures, c.holdings = holdings) :
    b.Follows s (fun id => if id ∈ captures.map Capture.actionId then some holdings else none)
      (b.commit s captures).2.1 (b.commit s captures).2.2 := by
  induction captures generalizing b s with
  | nil => exact ⟨h, fun _ => rfl, rfl, fun id => (Option.or_none).symm⟩
  | cons c rest ih =>
    obtain ⟨⟨kind, hkind, hdate⟩, hrest⟩ := List.forall_mem_cons.mp hfitting
    obtain ⟨rfl, hsame⟩ := List.forall_mem_cons.mp hmoment
    have hone := h.commitOne hkind hdate
    have hmore := ih hone.agrees (fun d hd => by rw [hone.kindOf?_eq]; exact hrest d hd) hsame
    refine ⟨hmore.agrees, fun id => ?_, ?_, fun id => ?_⟩
    · exact (hmore.kindOf?_eq id).trans (hone.kindOf?_eq id)
    · exact hmore.couponIds_eq.trans hone.couponIds_eq
    · refine (hmore.kept_eq id).trans ?_
      rw [hone.kept_eq, List.map_cons]
      by_cases hc : id = c.actionId
      · simp [hc]
      · simp [hc, List.mem_cons]

end SnapshotBook

end CouponBond
