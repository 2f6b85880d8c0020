import CouponBond.Proofs.AppendOnly

/-!
# Numbers among all actions and among those of a kind

An action has two numbers: one among all actions, and one among the actions of its kind.  The
store keeps the second numbering in lists of its own, beside the actions.  Whatever is added and
linked, in any order, these lists are what picking the actions of a kind out of all actions would
give, so the two numberings never disagree about which action comes at a place.

## Main Definitions

* `ActionStore.Call`, `ActionStore.Receipt` — what changes a store, and what it gives back
* `ActionStore.callAll`, `ActionStore.receipts` — a history of calls
* `ActionStore.Indexed` — the numbers of a kind are those of its actions
* `ActionStore.firstLink` — the snapshot that the calls of a history write for an action
* `ActionStore.Links` — the change of one record that names a snapshot

## Main Results

* `ActionStore.Indexed.callAll` — every history keeps the two numberings in step
* `ActionStore.Indexed.get?_callAll` — what becomes of an action in a history
* `ActionStore.numbers_by_kind` — both numberings, throughout a history
-/

namespace CouponBond

namespace ActionStore

/-! ### Calls -/

/-- What changes a store. -/
inductive Call where
  | append (kind : ActionKind)
  | linkSnapshot (id : ActionId) (snapshotId : SnapshotId)
deriving DecidableEq, Repr

/-- What a call gives back. -/
inductive Receipt where
  /-- The number of the action that was added, unless the store was full. -/
  | appended (id? : Option ActionId)
  /-- Whether the number of the snapshot was written, or that no action was addressed. -/
  | linked (written : Except ActionError Bool)

/-- The payment that a call adds. -/
def Call.kind? : Call → Option ActionKind
  | .append kind => some kind
  | .linkSnapshot .. => none

/-- The number that a call gave out. -/
def Receipt.number? : Receipt → Option ActionId
  | .appended id? => id?
  | .linked _ => none

/-- One call. -/
def call (s : ActionStore) : Call → Receipt × ActionStore
  | .append kind =>
    match s.append? kind with
    | some (id, s') => (.appended (some id), s')
    | none => (.appended none, s)
  | .linkSnapshot id snapshotId =>
    match s.linkSnapshot? id snapshotId with
    | .ok (written, s') => (.linked (.ok written), s')
    | .error e => (.linked (.error e), s)

/-- The store at the end of a history of calls. -/
def callAll (s : ActionStore) : List Call → ActionStore
  | [] => s
  | c :: rest => callAll (s.call c).2 rest

/-- What the calls of a history give back. -/
def receipts (s : ActionStore) : List Call → List Receipt
  | [] => []
  | c :: rest => (s.call c).1 :: receipts (s.call c).2 rest

/-- The payments that the calls of a history add, in their order. -/
def payments (calls : List Call) : List ActionKind := calls.filterMap Call.kind?

/-- The number of the snapshot that the calls of a history write for an action that names none.
Number 0 stands for no snapshot, so that the first other one counts. -/
def firstLink (id : ActionId) : List Call → SnapshotId
  | [] => 0
  | .append _ :: rest => firstLink id rest
  | .linkSnapshot target snapshotId :: rest =>
    if target = id ∧ snapshotId ≠ 0 then snapshotId else firstLink id rest

/-- What a call does to a store. -/
inductive Called (s : ActionStore) : Call → Receipt → ActionStore → Prop
  | added {kind : ActionKind} {next : ActionId} (hnext : s.nextId? = some next) :
      Called s (.append kind) (.appended (some next)) (s.push next kind)
  | full {kind : ActionKind} (hfull : s.nextId? = none) :
      Called s (.append kind) (.appended none) s
  | unknown {id : ActionId} {snapshotId : SnapshotId} (hget : s.get? id = .error ⟨id⟩) :
      Called s (.linkSnapshot id snapshotId) (.linked (.error ⟨id⟩)) s
  | settled {a : Action} {snapshotId : SnapshotId} (ha : a ∈ s.actions)
      (hnamed : a.hasSnapshot = true) :
      Called s (.linkSnapshot a.id snapshotId) (.linked (.ok false)) s
  | linked {a : Action} {snapshotId : SnapshotId} (ha : a ∈ s.actions)
      (hnone : a.hasSnapshot = false) :
      Called s (.linkSnapshot a.id snapshotId) (.linked (.ok true)) (s.named a snapshotId)

variable {s s' : ActionStore} {c : Call} {receipt : Receipt} {id : ActionId} {a : Action}
  {type : ActionType}

theorem linkSnapshot?_of_error {e : ActionError} (hget : s.get? id = .error e)
    (snapshotId : SnapshotId) : s.linkSnapshot? id snapshotId = .error e := by
  unfold linkSnapshot?
  rw [hget]
  rfl

theorem Placed.called (h : s.Placed) (c : Call) : s.Called c (s.call c).1 (s.call c).2 := by
  cases c with
  | append kind =>
    unfold call append?
    cases hnext : s.nextId? with
    | none => exact .full hnext
    | some next => exact .added hnext
  | linkSnapshot id snapshotId =>
    unfold call
    cases hget : s.get? id with
    | error e =>
      obtain rfl := eq_of_get?_eq_error hget
      dsimp only
      rw [linkSnapshot?_of_error hget]
      exact .unknown hget
    | ok a =>
      obtain ⟨ha, rfl⟩ := h.get?_eq_ok_iff.mp hget
      dsimp only
      rw [h.linkSnapshot?_of_mem ha]
      cases hnamed : a.hasSnapshot with
      | true => exact .settled ha hnamed
      | false => exact .linked ha hnamed

/-! ### The numbers of a kind -/

/-- The actions are numbered by their places, and the numbers of a kind are those of its
actions. -/
structure Indexed (s : ActionStore) : Prop where
  placed : s.Placed
  idsOf_eq : ∀ type, s.idsOf type =
    (s.actions.filter fun a => decide (a.kind.type = type)).map Action.id

theorem indexed_empty : empty.Indexed :=
  ⟨numbered_empty.placed, fun type => by cases type <;> rfl⟩

theorem idsOf_push (s : ActionStore) (id : ActionId) (kind : ActionKind) (type : ActionType) :
    (s.push id kind).idsOf type = s.idsOf type ++ if kind.type = type then [id] else [] := by
  cases kind <;> cases type <;> simp [ActionStore.push, idsOf, ActionKind.type]

theorem idsOf_named (s : ActionStore) (a : Action) (snapshotId : SnapshotId)
    (type : ActionType) : (s.named a snapshotId).idsOf type = s.idsOf type := by
  cases type <;> rfl

theorem Indexed.push (h : s.Indexed) {next : ActionId} (hnext : s.nextId? = some next)
    (kind : ActionKind) : (s.push next kind).Indexed := by
  refine ⟨h.placed.push hnext kind, fun type => ?_⟩
  rw [idsOf_push, h.idsOf_eq, actions_push, List.filter_append, List.map_append]
  by_cases htype : kind.type = type <;> simp [htype]

/-- Naming a snapshot changes neither the number nor the payment of an action. -/
theorem Indexed.named (h : s.Indexed) (ha : a ∈ s.actions) (snapshotId : SnapshotId) :
    (s.named a snapshotId).Indexed := by
  refine ⟨h.placed.named ha snapshotId, fun type => ?_⟩
  have hsame := h.placed.map_named ha snapshotId (fun a => (a.id, a.kind)) rfl
  have hpicked (actions : List Action) :
      (actions.filter fun a => decide (a.kind.type = type)).map Action.id =
        ((actions.map fun a => (a.id, a.kind)).filter fun e => decide (e.2.type = type)).map
          Prod.fst := by
    rw [List.filter_map, List.map_map]
    rfl
  rw [idsOf_named, h.idsOf_eq, hpicked, hpicked, hsame]

theorem Called.indexed (h : s.Indexed) (hcalled : s.Called c receipt s') : s'.Indexed := by
  cases hcalled with
  | added hnext => exact h.push hnext _
  | full => exact h
  | unknown => exact h
  | settled => exact h
  | linked ha => exact h.named ha _

/-- Every history keeps the two numberings in step. -/
theorem Indexed.callAll (h : s.Indexed) (calls : List Call) : (s.callAll calls).Indexed := by
  induction calls generalizing s with
  | nil => exact h
  | cons c rest ih => exact ih ((h.placed.called c).indexed h)

/-! ### Actions in a history -/

/-- What a call makes of an action: the snapshot is written if it names none. -/
def Call.rewrite (a : Action) : Call → Action
  | .append _ => a
  | .linkSnapshot id snapshotId =>
    if id = a.id ∧ a.hasSnapshot = false then { a with snapshotId } else a

theorem foldl_rewrite_of_hasSnapshot (hnamed : a.hasSnapshot = true) (calls : List Call) :
    calls.foldl Call.rewrite a = a := by
  induction calls with
  | nil => rfl
  | cons c rest ih =>
    have hkept : c.rewrite a = a := by
      cases c <;> simp [Call.rewrite, hnamed]
    rw [List.foldl_cons, hkept, ih]

/-- For an action that names no snapshot a history writes the first one that it links. -/
theorem foldl_rewrite (hnone : a.hasSnapshot = false) (calls : List Call) :
    calls.foldl Call.rewrite a = { a with snapshotId := firstLink a.id calls } := by
  induction calls with
  | nil => rw [List.foldl_nil, firstLink, ← Action.hasSnapshot_eq_false_iff.mp hnone]
  | cons c rest ih =>
    rw [List.foldl_cons]
    cases c with
    | append kind => exact ih
    | linkSnapshot target snapshotId =>
      rw [Call.rewrite, firstLink]
      by_cases htarget : target = a.id
      · rw [if_pos ⟨htarget, hnone⟩]
        by_cases hzero : snapshotId = 0
        · -- number 0 names no snapshot, so that the action is as open as before
          have hkept : { a with snapshotId } = a := by
            rw [hzero, ← Action.hasSnapshot_eq_false_iff.mp hnone]
          rw [hkept, if_neg (fun hlinks => hlinks.2 hzero), ih]
        · have hnamed : Action.hasSnapshot { a with snapshotId } = true := by
            simpa [Action.hasSnapshot] using hzero
          rw [if_pos ⟨htarget, hzero⟩, foldl_rewrite_of_hasSnapshot hnamed]
      · rw [if_neg (fun hlinks => htarget hlinks.1), if_neg (fun hlinks => htarget hlinks.1), ih]

/-- What becomes of an action in a call. -/
theorem Called.get? (h : s.Placed) (hcalled : s.Called c receipt s') (hget : s.get? id = .ok a) :
    s'.get? id = .ok (c.rewrite a) := by
  obtain ⟨ha, rfl⟩ := h.get?_eq_ok_iff.mp hget
  cases hcalled with
  | added hnext => rw [h.get?_push hnext, if_neg (h.id_ne_of_mem hnext ha), hget, Call.rewrite]
  | full => exact hget
  | unknown hnone =>
    rw [hget, Call.rewrite, if_neg]
    rintro ⟨rfl, -⟩
    rw [hget] at hnone
    cases hnone
  | settled htarget hnamed =>
    rw [hget, Call.rewrite, if_neg]
    rintro ⟨hid, hnone⟩
    rw [h.eq_of_id_eq htarget ha hid, hnone] at hnamed
    cases hnamed
  | @linked target snapshotId htarget hnone =>
    rw [h.get?_named htarget, Call.rewrite]
    by_cases hid : a.id = target.id
    · obtain rfl := h.eq_of_id_eq ha htarget hid
      rw [if_pos rfl, if_pos ⟨rfl, hnone⟩]
    · rw [if_neg hid, if_neg (fun hsame => hid hsame.1.symm), hget]

/-- What becomes of an action in a history. -/
theorem Indexed.get?_callAll (h : s.Indexed) (hget : s.get? id = .ok a) (calls : List Call) :
    (s.callAll calls).get? id = .ok (calls.foldl Call.rewrite a) := by
  induction calls generalizing s a with
  | nil => exact hget
  | cons c rest ih =>
    have hcalled := h.placed.called c
    exact ih (hcalled.indexed h) (hcalled.get? h.placed hget)

/-! ### Numbers in a history -/

theorem payments_cons (c : Call) (rest : List Call) :
    payments (c :: rest) = payments [c] ++ payments rest := by
  cases c <;> rfl

theorem callAll_append (s : ActionStore) (before after : List Call) :
    s.callAll (before ++ after) = (s.callAll before).callAll after := by
  induction before generalizing s with
  | nil => rfl
  | cons c rest ih => exact ih _

theorem Placed.count_le (h : s.Placed) : s.count ≤ UInt64.size - 1 :=
  Nat.le_sub_one_of_lt h.length_lt

/-- A call adds its payment behind the others as long as there are numbers. -/
theorem Called.map_kind (h : s.Placed) (hcalled : s.Called c receipt s') :
    s'.actions.map Action.kind =
      (s.actions.map Action.kind ++ payments [c]).take (UInt64.size - 1) := by
  have hidle : s.actions.map Action.kind =
      (s.actions.map Action.kind ++ []).take (UInt64.size - 1) := by
    rw [List.append_nil, List.take_of_length_le]
    rw [List.length_map]
    exact h.count_le
  cases hcalled with
  | @added kind next hnext =>
    have hnumber := toNat_nextId hnext
    have hrange := next.toNat_lt_size
    rw [actions_push, List.map_append, List.take_of_length_le]
    · rfl
    · rw [List.length_append, List.length_map]
      exact Nat.le_sub_one_of_lt (hnumber ▸ hrange)
  | full hfull =>
    have hcount : s.count = UInt64.size - 1 := by
      unfold nextId? at hfull
      split at hfull
      · cases hfull
      · next hout =>
        have := h.count_le
        omega
    rw [List.take_left' (by rwa [List.length_map])]
  | unknown => exact hidle
  | settled => exact hidle
  | @linked target snapshotId ha => exact (h.map_named ha snapshotId Action.kind rfl).trans hidle

theorem take_take_append {α : Type} (l m : List α) (n : Nat) :
    (l.take n ++ m).take n = (l ++ m).take n := by
  rw [List.take_append, List.take_append, List.take_take, List.length_take, Nat.min_self]
  congr 2
  omega

/-- The payments of a history are added one behind the other as long as there are numbers. -/
theorem Indexed.map_kind_callAll (h : s.Indexed) (calls : List Call) :
    (s.callAll calls).actions.map Action.kind =
      (s.actions.map Action.kind ++ payments calls).take (UInt64.size - 1) := by
  induction calls generalizing s with
  | nil =>
    rw [show payments [] = [] from rfl, List.append_nil, List.take_of_length_le]
    · rfl
    · rw [List.length_map]
      exact h.placed.count_le
  | cons c rest ih =>
    have hcalled := h.placed.called c
    rw [ActionStore.callAll, ih (hcalled.indexed h), hcalled.map_kind h.placed, take_take_append,
      List.append_assoc, ← payments_cons]

/-- The numbers of a kind stay in their places. -/
theorem Called.idsOf_prefix (hcalled : s.Called c receipt s') (type : ActionType) :
    s.idsOf type <+: s'.idsOf type := by
  cases hcalled with
  | added =>
    rw [idsOf_push]
    exact List.prefix_append _ _
  | full => exact List.prefix_refl _
  | unknown => exact List.prefix_refl _
  | settled => exact List.prefix_refl _
  | linked => simp only [idsOf_named, List.prefix_rfl]

theorem Indexed.idsOf_prefix_callAll (h : s.Indexed) (calls : List Call) (type : ActionType) :
    s.idsOf type <+: (s.callAll calls).idsOf type := by
  induction calls generalizing s with
  | nil => exact List.prefix_refl _
  | cons c rest ih =>
    have hcalled := h.placed.called c
    exact (hcalled.idsOf_prefix type).trans (ih (hcalled.indexed h))

/-- A call gives out the number behind the last one, or none. -/
theorem Called.number (hcalled : s.Called c receipt s') :
    List.range' 1 s.count ++ receipt.number?.toList.map UInt64.toNat =
      List.range' 1 s'.count := by
  cases hcalled with
  | @added kind next hnext =>
    have hcount : (s.push next kind).count = s.count + 1 := by
      rw [count, actions_push, List.length_append]
      rfl
    rw [hcount, List.range'_1_concat, Nat.add_comm 1, ← show next.toNat = s.count + 1 from
      toNat_nextId hnext]
    rfl
  | full => exact List.append_nil _
  | unknown => exact List.append_nil _
  | settled => exact List.append_nil _
  | linked =>
    rw [count, count, ActionStore.named, List.length_set]
    exact List.append_nil _

/-- The numbers that a history gives out follow one another without a gap. -/
theorem Indexed.numbers_receipts (h : s.Indexed) (calls : List Call) :
    List.range' 1 s.count ++ ((s.receipts calls).filterMap Receipt.number?).map UInt64.toNat =
      List.range' 1 (s.callAll calls).count := by
  induction calls generalizing s with
  | nil => exact List.append_nil _
  | cons c rest ih =>
    have hcalled := h.placed.called c
    rw [receipts, ActionStore.callAll, ← ih (hcalled.indexed h), ← hcalled.number,
      List.filterMap_cons]
    cases (s.call c).1.number? with
    | none => simp
    | some next => simp

/-! ### Both numberings -/

/-- The numbers from 1 to the length of a list have an element. -/
theorem exists_nth?_iff {α : Type} {l : List α} {number : UInt64} :
    (∃ a, nth? l number = some a) ↔ 1 ≤ number.toNat ∧ number.toNat ≤ l.length := by
  have hzero : number = 0 ↔ number.toNat = 0 := by
    rw [← UInt64.toNat_inj]
    rfl
  simp only [nth?_eq_some_iff]
  constructor
  · rintro ⟨a, hne, hat⟩
    have hlt := (List.getElem?_eq_some_iff.mp hat).1
    rw [Ne, hzero] at hne
    omega
  · rintro ⟨hone, hle⟩
    have hlt : number.toNat - 1 < l.length := by omega
    refine ⟨l[number.toNat - 1], fun h => ?_, List.getElem?_eq_getElem hlt⟩
    rw [hzero.mp h] at hone
    exact absurd hone (by decide)

theorem exists_get?_iff : (∃ a, s.get? id = .ok a) ↔ 1 ≤ id.toNat ∧ id.toNat ≤ s.count := by
  refine Iff.trans ?_ exists_nth?_iff
  unfold ActionStore.get?
  cases nth? s.actions id with
  | none => simp
  | some a => simp

theorem idOfIndex?_eq_ok_iff {index : UInt64} :
    s.idOfIndex? type index = .ok id ↔ nth? (s.idsOf type) index = some id := by
  unfold idOfIndex?
  cases nth? (s.idsOf type) index with
  | none => simp
  | some found => simp

theorem exists_idOfIndex?_iff {index : UInt64} : (∃ id, s.idOfIndex? type index = .ok id) ↔
    1 ≤ index.toNat ∧ index.toNat ≤ s.countOf type := by
  simp only [idOfIndex?_eq_ok_iff]
  exact exists_nth?_iff

theorem Placed.pairwise_id (h : s.Placed) : s.actions.Pairwise fun a b => a.id < b.id := by
  refine List.pairwise_iff_getElem.mpr fun i j hi hj hij => ?_
  rw [UInt64.lt_iff_toNat_lt, h.toNat_id i _ (List.getElem?_eq_getElem hi),
    h.toNat_id j _ (List.getElem?_eq_getElem hj)]
  exact Nat.succ_lt_succ hij

theorem Indexed.mem_idsOf_iff (h : s.Indexed) :
    id ∈ s.idsOf type ↔ ∃ a, s.get? id = .ok a ∧ a.kind.type = type := by
  simp only [h.idsOf_eq, List.mem_map, List.mem_filter, decide_eq_true_eq,
    h.placed.get?_eq_ok_iff]
  constructor
  · rintro ⟨a, ⟨ha, htype⟩, hid⟩
    exact ⟨a, ⟨ha, hid⟩, htype⟩
  · rintro ⟨a, ⟨ha, hid⟩, htype⟩
    exact ⟨a, ⟨ha, htype⟩, hid⟩

/-- The numbers of a kind go up. -/
theorem Indexed.pairwise_idsOf (h : s.Indexed) (type : ActionType) :
    (s.idsOf type).Pairwise (· < ·) := by
  rw [h.idsOf_eq, List.pairwise_map]
  exact h.placed.pairwise_id.sublist List.filter_sublist

/-- No action is of two kinds. -/
theorem Indexed.disjoint_idsOf (h : s.Indexed) :
    (s.idsOf .coupon).Disjoint (s.idsOf .dividend) := by
  intro id hcoupon hdividend
  obtain ⟨a, hget, ha⟩ := h.mem_idsOf_iff.mp hcoupon
  obtain ⟨b, hget', hb⟩ := h.mem_idsOf_iff.mp hdividend
  rw [hget] at hget'
  rw [Except.ok.inj hget', hb] at ha
  cases ha

/-- Every action is of one of the kinds. -/
theorem Indexed.mem_idsOf_or_iff (h : s.Indexed) :
    id ∈ s.idsOf .coupon ∨ id ∈ s.idsOf .dividend ↔ 1 ≤ id.toNat ∧ id.toNat ≤ s.count := by
  rw [← exists_get?_iff, h.mem_idsOf_iff, h.mem_idsOf_iff]
  constructor
  · rintro (⟨a, hget, -⟩ | ⟨a, hget, -⟩) <;> exact ⟨a, hget⟩
  · rintro ⟨a, hget⟩
    cases htype : a.kind.type with
    | coupon => exact .inl ⟨a, hget, htype⟩
    | dividend => exact .inr ⟨a, hget, htype⟩

/-- The action that a call adds is found ever after, under its number and under its place among
the actions of its kind, with the first snapshot that is linked to it. -/
theorem Indexed.found_callAll (h : s.Indexed) (hid : id.toNat = s.count + 1) (kind : ActionKind)
    (after : List Call) :
    (s.callAll (.append kind :: after)).get? id = .ok ⟨id, kind, firstLink id after⟩ ∧
      ∀ index : UInt64, index.toNat = s.countOf kind.type + 1 →
        (s.callAll (.append kind :: after)).idOfIndex? kind.type index = .ok id := by
  have hnext : s.nextId? = some id := by
    rw [nextId?, if_pos (hid ▸ id.toNat_lt_size), ← hid, UInt64.ofNat_toNat]
  have hpush : (s.push id kind).Indexed := h.push hnext kind
  have hstep : s.callAll (.append kind :: after) = (s.push id kind).callAll after := by
    rw [ActionStore.callAll, call, append?, hnext]
    rfl
  rw [hstep]
  constructor
  · have hget : (s.push id kind).get? id = .ok ⟨id, kind, 0⟩ := by
      rw [h.placed.get?_push hnext, if_pos rfl]
    rw [hpush.get?_callAll hget, foldl_rewrite rfl]
  · intro index hindex
    obtain ⟨hne, hplace⟩ := toNat_eq_succ_iff.mp hindex
    have hat : (s.push id kind).idsOf kind.type = s.idsOf kind.type ++ [id] := by
      rw [idsOf_push, if_pos rfl]
    obtain ⟨added, hadded⟩ := hpush.idsOf_prefix_callAll after kind.type
    rw [idOfIndex?_eq_ok_iff, nth?_eq_some_iff, ← hadded, hat, hplace, List.append_assoc]
    exact ⟨hne, (List.getElem?_append_right (Nat.le_refl _)).trans (by simp)⟩

theorem Indexed.countOf_eq (h : s.Indexed) (type : ActionType) :
    s.countOf type = (s.actions.map Action.kind).countP fun k => decide (k.type = type) := by
  rw [countOf, h.idsOf_eq, List.length_map, List.countP_map, List.countP_eq_length_filter]
  rfl

/-- The record of an action names a snapshot if it named none, and nothing else changes. -/
structure Links (s : ActionStore) (a : Action) (snapshotId : SnapshotId) (s' : ActionStore) :
    Prop where
  get?_id : s'.get? a.id = .ok (if a.snapshotId = 0 then { a with snapshotId } else a)
  get?_of_ne : ∀ id, id ≠ a.id → s'.get? id = s.get? id
  idsOf_eq : ∀ type, s'.idsOf type = s.idsOf type
  count_eq : s'.count = s.count

/-- Linking a snapshot changes at most the record of the action. -/
theorem Placed.exists_links (h : s.Placed) (hget : s.get? id = .ok a) (snapshotId : SnapshotId) :
    ∃ s', s.linkSnapshot? id snapshotId = .ok (!a.hasSnapshot, s') ∧ s.Links a snapshotId s' := by
  obtain ⟨ha, rfl⟩ := h.get?_eq_ok_iff.mp hget
  rw [h.linkSnapshot?_of_mem ha]
  cases hnamed : a.hasSnapshot with
  | true =>
    have hne : a.snapshotId ≠ 0 := by simpa [Action.hasSnapshot] using hnamed
    refine ⟨s, rfl, ?_, fun _ _ => rfl, fun _ => rfl, rfl⟩
    rw [if_neg hne, hget]
  | false =>
    refine ⟨s.named a snapshotId, rfl, ?_, fun id hne => ?_, idsOf_named s a snapshotId, ?_⟩
    · rw [h.get?_named ha, if_pos rfl, if_pos (Action.hasSnapshot_eq_false_iff.mp hnamed)]
    · rw [h.get?_named ha, if_neg hne]
    · exact List.length_set

/-- Whatever is added to a store and linked in it, in any order: the numbers that are given out are
1, 2, 3 and so on, an action is found under each of them, and under its place among the actions of
its kind the same number is found.  The action shows the payment of its call and the first
snapshot that was linked to it since, and linking changes nothing else.  The numbers of each kind
go up, no number is of two kinds, and every number is of one. -/
theorem numbers_by_kind (calls : List Call) :
    let s := empty.callAll calls
    ((empty.receipts calls).filterMap Receipt.number?).map UInt64.toNat = List.range' 1 s.count ∧
    s.actions.map Action.kind = (payments calls).take (UInt64.size - 1) ∧
    (∀ id, (∃ a, s.get? id = .ok a) ↔ 1 ≤ id.toNat ∧ id.toNat ≤ s.count) ∧
    (∀ type index, (∃ id, s.idOfIndex? type index = .ok id) ↔
      1 ≤ index.toNat ∧ index.toNat ≤ s.countOf type) ∧
    (∀ before kind after, calls = before ++ .append kind :: after →
      ∀ id : ActionId, id.toNat = (payments before).length + 1 →
        s.get? id = .ok ⟨id, kind, firstLink id after⟩ ∧
        ∀ index : UInt64,
          index.toNat = (payments before).countP (fun k => decide (k.type = kind.type)) + 1 →
            s.idOfIndex? kind.type index = .ok id) ∧
    (∀ type, (s.idsOf type).Pairwise (· < ·)) ∧
    (s.idsOf .coupon).Disjoint (s.idsOf .dividend) ∧
    (∀ id, id ∈ s.idsOf .coupon ∨ id ∈ s.idsOf .dividend ↔
      1 ≤ id.toNat ∧ id.toNat ≤ s.count) ∧
    ∀ id snapshotId,
      (∀ e, s.get? id = .error e → s.linkSnapshot? id snapshotId = .error e) ∧
      ∀ a, s.get? id = .ok a → ∃ s', s.linkSnapshot? id snapshotId = .ok (!a.hasSnapshot, s') ∧
        s.Links a snapshotId s' := by
  intro s
  have hs : s.Indexed := indexed_empty.callAll calls
  refine ⟨indexed_empty.numbers_receipts calls, indexed_empty.map_kind_callAll calls,
    fun _ => exists_get?_iff, fun _ _ => exists_idOfIndex?_iff, ?_, hs.pairwise_idsOf,
    hs.disjoint_idsOf, fun _ => hs.mem_idsOf_or_iff, fun id snapshotId => ⟨fun e hget => ?_, ?_⟩⟩
  · rintro before kind after rfl id hid
    have hbefore : (empty.callAll before).Indexed := indexed_empty.callAll before
    have hkinds : (empty.callAll before).actions.map Action.kind = payments before := by
      -- there is a number for the action, so the calls before it left the store open
      have hrange := id.toNat_lt_size
      rw [hid] at hrange
      rw [indexed_empty.map_kind_callAll before]
      exact List.take_of_length_le (Nat.le_sub_one_of_lt (Nat.lt_of_succ_lt hrange))
    have hcount : id.toNat = (empty.callAll before).count + 1 := by
      rw [hid, ← hkinds, List.length_map, count]
    rw [show s = (empty.callAll before).callAll (.append kind :: after) from
      callAll_append empty before (.append kind :: after), ← hkinds, ← hbefore.countOf_eq]
    exact hbefore.found_callAll hcount kind after
  · exact linkSnapshot?_of_error hget snapshotId
  · exact fun a hget => hs.placed.exists_links hget snapshotId

/-- A dividend that pays out 5 units. -/
def sampleDividend : Dividend where
  recordDate := 10
  executionDate := 20
  amount := 5
  amountDecimals := 0

/-- A snapshot is linked before there is an action, then a dividend and a coupon are added.  The
coupon is linked to no snapshot, to one, and to another one; a second coupon stays open. -/
def sampleCalls : List Call :=
  [.linkSnapshot 2 7, .append (.dividend sampleDividend),
    .append (.coupon Session.sampleCoupon), .linkSnapshot 2 0, .linkSnapshot 2 9,
    .linkSnapshot 2 5, .append (.coupon Session.sampleCoupon)]

/-- The first coupon is the second action, and it names the first snapshot that was linked to it
after it was there. -/
theorem sample_numbers_by_kind :
    let s := empty.callAll sampleCalls
    ((empty.receipts sampleCalls).filterMap Receipt.number?).map UInt64.toNat = [1, 2, 3] ∧
    s.get? 2 = .ok ⟨2, .coupon Session.sampleCoupon, 9⟩ ∧
    s.idOfIndex? .coupon 1 = .ok 2 ∧ s.couponIds = [2, 3] ∧ s.dividendIds = [1] ∧
    (s.idsOf .coupon).Disjoint (s.idsOf .dividend) := by
  intro s
  obtain ⟨hnumbers, -, -, -, hfound, -, hdisjoint, -⟩ := numbers_by_kind sampleCalls
  obtain ⟨hget, hindex⟩ := hfound (sampleCalls.take 2) (.coupon Session.sampleCoupon)
    (sampleCalls.drop 3) rfl 2 rfl
  exact ⟨hnumbers, hget, hindex 1 rfl, rfl, rfl, hdisjoint⟩

end ActionStore

end CouponBond
