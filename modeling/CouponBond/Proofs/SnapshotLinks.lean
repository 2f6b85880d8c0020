import CouponBond.Proofs.Sessions
import Mathlib.Data.List.Perm.Subperm

/-!
# One snapshot for an action

Looking at the balances and keeping them are separate steps, so the lists of captures that were
looked at can be kept late, in any order, or more than once, and several of them can name the same
action.  Whatever is done to the agenda in between, the numbers of snapshots are their places,
every snapshot is the one that its action names, and an action that names a snapshot names it for
good: the snapshots only grow, and keeping a list again keeps nothing.

Nothing is asked of the agenda.  An action can stand on it under any dates, or not at all.

## Main Definitions

* `SnapshotBook.Paired` — snapshots and actions name each other
* `SnapshotBook.Grows` — what a book and its store may become
* `Recorder`, `Errand` — a book and a store at work, and what they can be told to do
* `Recorder.Ready` — the books and stores at which the work may start

## Main Results

* `SnapshotBook.commitOne_cases` — what keeping one capture does
* `SnapshotBook.Paired.length_le` — there are no more snapshots than actions that name one
* `SnapshotBook.commit_of_settled` — captures of actions that name a snapshot are not kept
* `Recorder.snapshots_once` — one snapshot for an action, under any order of errands
-/

namespace CouponBond

namespace SnapshotBook

variable {b b' b'' : SnapshotBook} {s s' s'' : ActionStore} {a : Action} {c : Capture}
  {captures : List Capture}

/-! ### Keeping one capture -/

/-- The book without an entry of its agenda. -/
def withoutTrigger (b : SnapshotBook) (c : Capture) : SnapshotBook :=
  { b with pending := b.pending.erase ⟨c.recordDate, c.actionId⟩ }

/-- The book with a snapshot made of a capture. -/
def withSnapshot (b : SnapshotBook) (c : Capture) : SnapshotBook :=
  { b.withoutTrigger c with
    snapshots := b.snapshots ++ [⟨b.nextId, c.actionId, c.takenAt, c.holdings⟩] }

/-- A capture is kept when its action can be linked to the next number. -/
theorem commitOne_eq_link (b : SnapshotBook) (s : ActionStore) (c : Capture) :
    b.commitOne s c = match s.linkSnapshot? c.actionId b.nextId with
      | .ok (true, s') =>
        (some ⟨b.nextId, c.actionId, UInt64.ofNat c.holdings.holders.length⟩, b.withSnapshot c, s')
      | _ => (none, b.withoutTrigger c, s) := rfl

/-- A capture of an unknown action, or of one that names a snapshot, is not kept; one of an action
that names none becomes its snapshot.  Either way the entry of the agenda is gone. -/
theorem commitOne_cases (h : s.Placed) (b : SnapshotBook) (c : Capture) :
    ((∀ a ∈ s.actions, a.id ≠ c.actionId) ∧ b.commitOne s c = (none, b.withoutTrigger c, s)) ∨
    (∃ a ∈ s.actions, a.id = c.actionId ∧ a.hasSnapshot = true ∧
      b.commitOne s c = (none, b.withoutTrigger c, s)) ∨
    ∃ a ∈ s.actions, a.id = c.actionId ∧ a.hasSnapshot = false ∧
      b.commitOne s c =
        (some ⟨b.nextId, c.actionId, UInt64.ofNat c.holdings.holders.length⟩, b.withSnapshot c,
          s.named a b.nextId) := by
  rw [commitOne_eq_link]
  cases hget : s.get? c.actionId with
  | error e =>
    have hlink : s.linkSnapshot? c.actionId b.nextId = .error e := by
      unfold ActionStore.linkSnapshot?
      rw [hget]
      rfl
    refine .inl ⟨fun a ha hid => ?_, by rw [hlink]⟩
    rw [← hid, h.get?_of_mem ha] at hget
    cases hget
  | ok a =>
    obtain ⟨ha, hid⟩ := h.get?_eq_ok_iff.mp hget
    have hlink := h.linkSnapshot?_of_mem ha b.nextId
    rw [hid] at hlink
    rw [hlink]
    cases hnamed : a.hasSnapshot with
    | true => exact .inr (.inl ⟨a, ha, hid, hnamed, rfl⟩)
    | false => exact .inr (.inr ⟨a, ha, hid, hnamed, rfl⟩)

/-! ### Snapshots and actions that name each other -/

/-- Snapshots are numbered by their places, and snapshots and actions name each other. -/
structure Paired (b : SnapshotBook) (s : ActionStore) : Prop where
  placed : s.Placed
  toNat_id : ∀ (place : Nat) (snapshot : Snapshot), b.snapshots[place]? = some snapshot →
    snapshot.id.toNat = place + 1
  owner : ∀ a ∈ s.actions, a.hasSnapshot = true →
    ∃ snapshot, b.get? a.snapshotId = some snapshot ∧ snapshot.actionId = a.id
  named : ∀ (place : Nat) (snapshot : Snapshot), b.snapshots[place]? = some snapshot →
    ∃ a ∈ s.actions, a.id = snapshot.actionId ∧ a.snapshotId.toNat = place + 1

theorem paired_empty : empty.Paired .empty where
  placed := ActionStore.numbered_empty.placed
  toNat_id place snapshot h := by cases h
  owner a ha := by cases ha
  named place snapshot h := by cases h

/-- The agenda has no part in the pairing. -/
theorem Paired.of_snapshots_eq (h : b.Paired s) (hsame : b'.snapshots = b.snapshots) :
    b'.Paired s where
  placed := h.placed
  toNat_id place snapshot hat := h.toNat_id place snapshot (hsame ▸ hat)
  owner a ha hnamed := by
    unfold get?
    rw [hsame]
    exact h.owner a ha hnamed
  named place snapshot hat := h.named place snapshot (hsame ▸ hat)

/-- There are no more snapshots than actions that name one: the numbers from 1 to the last
snapshot are among those that actions name. -/
theorem Paired.length_le (h : b.Paired s) :
    b.snapshots.length ≤ s.actions.countP Action.hasSnapshot := by
  have hnumbers : List.range' 1 b.snapshots.length ⊆
      (s.actions.filter Action.hasSnapshot).map fun a => a.snapshotId.toNat := by
    intro number hnumber
    obtain ⟨place, hlt, rfl⟩ := List.mem_range'.mp hnumber
    rw [Nat.one_mul, Nat.add_comm]
    obtain ⟨a, ha, -, hplace⟩ := h.named place _ (List.getElem?_eq_getElem hlt)
    refine List.mem_map.mpr ⟨a, List.mem_filter.mpr ⟨ha, ?_⟩, hplace⟩
    simpa [Action.hasSnapshot] using (toNat_eq_succ_iff.mp hplace).1
  have hle := (List.subperm_of_subset List.nodup_range' hnumbers).length_le
  rwa [List.length_range', List.length_map, ← List.countP_eq_length_filter] at hle

/-- An action names the snapshot with a number exactly when that snapshot was taken for it. -/
theorem Paired.snapshotId_eq_iff (h : b.Paired s) (ha : a ∈ s.actions) {number : SnapshotId}
    (hne : number ≠ 0) : a.snapshotId = number ↔
      ∃ snapshot, b.get? number = some snapshot ∧ snapshot.actionId = a.id := by
  constructor
  · rintro rfl
    refine h.owner a ha ?_
    simpa [Action.hasSnapshot] using hne
  · rintro ⟨snapshot, hsnapshot, howner⟩
    obtain ⟨-, hat⟩ := nth?_eq_some_iff.mp hsnapshot
    obtain ⟨e, he, hid, hplace⟩ := h.named _ snapshot hat
    obtain rfl := h.placed.eq_of_id_eq he ha (hid.trans howner)
    rw [← UInt64.toNat_inj, hplace]
    exact (toNat_eq_succ_iff.mpr ⟨hne, rfl⟩).symm

/-- No two snapshots were taken for one action. -/
theorem Paired.nodup_actionIds (h : b.Paired s) :
    (b.snapshots.map Snapshot.actionId).Nodup := by
  rw [List.Nodup, List.pairwise_map, List.pairwise_iff_getElem]
  intro i j hi hj hij hsame
  obtain ⟨a, ha, haid, haplace⟩ := h.named i _ (List.getElem?_eq_getElem hi)
  obtain ⟨e, he, heid, heplace⟩ := h.named j _ (List.getElem?_eq_getElem hj)
  have hids : a.id = e.id := (haid.trans hsame).trans heid.symm
  rw [h.placed.eq_of_id_eq ha he hids, heplace] at haplace
  omega

/-! ### What a book and its store may become -/

/-- A book and a store that others became: the snapshots that were there stand where they stood,
and so do the actions, of which only those that named no snapshot may name one now. -/
structure Grows (b : SnapshotBook) (s : ActionStore) (b' : SnapshotBook) (s' : ActionStore) :
    Prop where
  snapshots : b.snapshots <+: b'.snapshots
  actions : ∀ a ∈ s.actions, ∃ a' ∈ s'.actions, a' = { a with snapshotId := a'.snapshotId } ∧
    (a.hasSnapshot = true → a' = a)

theorem Grows.refl (b : SnapshotBook) (s : ActionStore) : b.Grows s b s :=
  ⟨List.prefix_refl _, fun a ha => ⟨a, ha, rfl, fun _ => rfl⟩⟩

theorem Grows.trans (h : b.Grows s b' s') (hmore : b'.Grows s' b'' s'') : b.Grows s b'' s'' := by
  refine ⟨h.snapshots.trans hmore.snapshots, fun a ha => ?_⟩
  obtain ⟨a', ha', hsame, hkept⟩ := h.actions a ha
  obtain ⟨a'', ha'', hsame', hkept'⟩ := hmore.actions a' ha'
  refine ⟨a'', ha'', ?_, fun hnamed => ?_⟩
  · rw [hsame', hsame]
  · obtain rfl := hkept hnamed
    exact hkept' hnamed

/-- The agenda has no part in the growth. -/
theorem Grows.of_snapshots_eq (b : SnapshotBook) (s : ActionStore)
    (hsame : b'.snapshots = b.snapshots) : b.Grows s b' s :=
  ⟨hsame ▸ List.prefix_refl _, fun a ha => ⟨a, ha, rfl, fun _ => rfl⟩⟩

/-- An action that is added names no snapshot. -/
theorem Paired.push (h : b.Paired s) {next : ActionId} (hnext : s.nextId? = some next)
    (kind : ActionKind) : b.Paired (s.push next kind) where
  placed := h.placed.push hnext kind
  toNat_id := h.toNat_id
  owner a ha hnamed := by
    rcases ActionStore.mem_push_iff.mp ha with ha | rfl
    · exact h.owner a ha hnamed
    · cases hnamed
  named place snapshot hat := by
    obtain ⟨a, ha, howner⟩ := h.named place snapshot hat
    exact ⟨a, ActionStore.mem_push_iff.mpr (.inl ha), howner⟩

theorem grows_push (b : SnapshotBook) (s : ActionStore) (next : ActionId) (kind : ActionKind) :
    b.Grows s b (s.push next kind) :=
  ⟨List.prefix_refl _, fun a ha =>
    ⟨a, ActionStore.mem_push_iff.mpr (.inl ha), rfl, fun _ => rfl⟩⟩

/-- A capture of an action that names no snapshot becomes the snapshot with the next number. -/
theorem Paired.keep (h : b.Paired s) (ha : a ∈ s.actions) (hid : a.id = c.actionId)
    (hnone : a.hasSnapshot = false) : (b.withSnapshot c).Paired (s.named a b.nextId) := by
  have hnext := toNat_nextId_of_le h.placed h.length_le ha hnone
  have hmem := fun {e : Action} => h.placed.mem_named_iff ha b.nextId (b := e)
  refine ⟨h.placed.named ha _, ?_, ?_, ?_⟩
  · intro place snapshot hat
    rcases getElem?_concat_eq_some hat with hat | ⟨rfl, rfl⟩
    · exact h.toNat_id place snapshot hat
    · exact hnext
  · intro e he hnamed
    rcases hmem.mp he with rfl | ⟨he, -⟩
    · obtain ⟨hne, hplace⟩ := toNat_eq_succ_iff.mp hnext
      refine ⟨⟨b.nextId, c.actionId, c.takenAt, c.holdings⟩,
        nth?_eq_some_iff.mpr ⟨hne, ?_⟩, hid.symm⟩
      rw [hplace]
      exact List.getElem?_concat_length
    · obtain ⟨snapshot, hsnapshot, howner⟩ := h.owner e he hnamed
      obtain ⟨hne, hat⟩ := nth?_eq_some_iff.mp hsnapshot
      refine ⟨snapshot, nth?_eq_some_iff.mpr ⟨hne, ?_⟩, howner⟩
      exact (List.getElem?_append_left (List.getElem?_eq_some_iff.mp hat).1).trans hat
  · intro place snapshot hat
    rcases getElem?_concat_eq_some hat with hat | ⟨rfl, rfl⟩
    · -- the action named no snapshot, so it is not the one that names this one
      obtain ⟨e, he, howner, hplace⟩ := h.named place snapshot hat
      refine ⟨e, hmem.mpr (.inr ⟨he, fun hsame => ?_⟩), howner, hplace⟩
      rw [h.placed.eq_of_id_eq he ha hsame, Action.hasSnapshot_eq_false_iff.mp hnone] at hplace
      cases hplace
    · exact ⟨_, hmem.mpr (.inl rfl), hid, hnext⟩

/-- The other actions stay, and the one that is named named no snapshot before. -/
theorem Paired.grows_keep (h : b.Paired s) (ha : a ∈ s.actions) (hnone : a.hasSnapshot = false)
    (c : Capture) : b.Grows s (b.withSnapshot c) (s.named a b.nextId) := by
  refine ⟨List.prefix_append _ _, fun e he => ?_⟩
  have hmem := fun {e : Action} => h.placed.mem_named_iff ha b.nextId (b := e)
  by_cases hsame : e.id = a.id
  · obtain rfl := h.placed.eq_of_id_eq he ha hsame
    refine ⟨{ e with snapshotId := b.nextId }, hmem.mpr (.inl rfl), rfl, fun hnamed => ?_⟩
    rw [hnone] at hnamed
    cases hnamed
  · exact ⟨e, hmem.mpr (.inr ⟨he, hsame⟩), rfl, fun _ => rfl⟩

/-! ### Keeping lists of captures -/

/-- The action of a capture is in the store. -/
def Known (s : ActionStore) (c : Capture) : Prop := ∃ a ∈ s.actions, a.id = c.actionId

/-- The action of a capture is in the store and names a snapshot. -/
def Settled (s : ActionStore) (c : Capture) : Prop :=
  ∃ a ∈ s.actions, a.id = c.actionId ∧ a.hasSnapshot = true

theorem Grows.known (h : b.Grows s b' s') (hc : Known s c) : Known s' c := by
  obtain ⟨a, ha, hid⟩ := hc
  obtain ⟨a', ha', hsame, -⟩ := h.actions a ha
  refine ⟨a', ha', ?_⟩
  rw [hsame]
  exact hid

theorem Grows.settled (h : b.Grows s b' s') (hc : Settled s c) : Settled s' c := by
  obtain ⟨a, ha, hid, hnamed⟩ := hc
  obtain ⟨a', ha', -, hkept⟩ := h.actions a ha
  obtain rfl := hkept hnamed
  exact ⟨a', ha', hid, hnamed⟩

/-- Keeping a capture preserves the pairing, loses nothing, and settles its action if there is
one. -/
theorem Paired.commitOne (h : b.Paired s) (c : Capture) :
    (b.commitOne s c).2.1.Paired (b.commitOne s c).2.2 ∧
      b.Grows s (b.commitOne s c).2.1 (b.commitOne s c).2.2 ∧
      (Known s c → Settled (b.commitOne s c).2.2 c) := by
  rcases commitOne_cases h.placed b c with ⟨hunknown, heq⟩ | ⟨a, ha, hid, hnamed, heq⟩ |
    ⟨a, ha, hid, hnone, heq⟩
  · rw [heq]
    refine ⟨h.of_snapshots_eq rfl, .of_snapshots_eq b s rfl, fun ⟨a, ha, hid⟩ => ?_⟩
    exact absurd hid (hunknown a ha)
  · rw [heq]
    exact ⟨h.of_snapshots_eq rfl, .of_snapshots_eq b s rfl, fun _ => ⟨a, ha, hid, hnamed⟩⟩
  · rw [heq]
    refine ⟨h.keep ha hid hnone, h.grows_keep ha hnone c, fun _ => ?_⟩
    have hne := (toNat_eq_succ_iff.mp (toNat_nextId_of_le h.placed h.length_le ha hnone)).1
    refine ⟨{ a with snapshotId := b.nextId },
      (h.placed.mem_named_iff ha b.nextId).mpr (.inl rfl), hid, ?_⟩
    simpa [Action.hasSnapshot] using hne

/-- Keeping a list of captures preserves the pairing, loses nothing, and settles the actions that
there are. -/
theorem Paired.commit (h : b.Paired s) (captures : List Capture) :
    (b.commit s captures).2.1.Paired (b.commit s captures).2.2 ∧
      b.Grows s (b.commit s captures).2.1 (b.commit s captures).2.2 ∧
      ∀ c ∈ captures, Known s c → Settled (b.commit s captures).2.2 c := by
  induction captures generalizing b s with
  | nil => exact ⟨h, .refl b s, fun _ hc => nomatch hc⟩
  | cons c rest ih =>
    obtain ⟨hpaired, hgrows, hsettled⟩ := h.commitOne c
    obtain ⟨hpaired', hgrows', hsettled'⟩ := ih hpaired
    refine ⟨hpaired', hgrows.trans hgrows', ?_⟩
    intro d hd hknown
    rcases List.mem_cons.mp hd with rfl | hd
    · exact hgrows'.settled (hsettled hknown)
    · exact hsettled' d hd (hgrows.known hknown)

/-- Captures of actions that name a snapshot are not kept. -/
theorem commit_of_settled (h : s.Placed) (hsettled : ∀ c ∈ captures, Settled s c)
    (b : SnapshotBook) : (b.commit s captures).1 = [] ∧
      (b.commit s captures).2.1.snapshots = b.snapshots ∧ (b.commit s captures).2.2 = s := by
  induction captures generalizing b with
  | nil => exact ⟨rfl, rfl, rfl⟩
  | cons c rest ih =>
    obtain ⟨hc, hrest⟩ := List.forall_mem_cons.mp hsettled
    have hone : b.commitOne s c = (none, b.withoutTrigger c, s) := by
      obtain ⟨e, he, heid, henamed⟩ := hc
      rcases commitOne_cases h b c with ⟨hunknown, -⟩ | ⟨-, -, -, -, heq⟩ | ⟨a, ha, hid, hnone, -⟩
      · exact absurd heid (hunknown e he)
      · exact heq
      · rw [h.eq_of_id_eq ha he (hid.trans heid.symm), henamed] at hnone
        cases hnone
    have hmore := ih hrest (b.withoutTrigger c)
    unfold SnapshotBook.commit
    rw [hone]
    exact hmore

/-- Balances are only looked at for actions of the store. -/
theorem known_of_mem_captureDue (h : s.Placed) {now : Timestamp} {l : Ledger}
    (hc : c ∈ b.captureDue now s l) : Known s c := by
  obtain ⟨t, ht, rfl⟩ := List.mem_map.mp hc
  have hdue := (List.mem_filter.mp ht).2
  cases hget : s.get? t.actionId with
  | ok a =>
    obtain ⟨ha, hid⟩ := h.get?_eq_ok_iff.mp hget
    exact ⟨a, ha, hid⟩
  | error e => simp [hget] at hdue

end SnapshotBook

/-! ### Errands -/

/-- A store and a book at work, with everything that was looked at so far. -/
structure Recorder where
  actions : ActionStore
  snapshots : SnapshotBook
  /-- The lists of captures in the order in which they were looked at. -/
  captured : List (List Capture)

/-- What a recorder can be told to do. -/
inductive Errand where
  | append (kind : ActionKind)
  | schedule (actionId : ActionId) (recordDate : Timestamp)
  | rebuildPending
  /-- Look at the balances of a ledger for what is due at a time. -/
  | captureDue (now : Timestamp) (ledger : Ledger)
  /-- Keep a list of captures that was looked at, for the first time or once more. -/
  | commit (place : Nat)
  | takeDue (now : Timestamp) (ledger : Ledger)

namespace Recorder

variable {r : Recorder}

/-- Keep a list of captures. -/
def keep (r : Recorder) (captures : List Capture) : Recorder :=
  let kept := r.snapshots.commit r.actions captures
  { r with actions := kept.2.2, snapshots := kept.2.1 }

/-- Run one errand. -/
def step (r : Recorder) : Errand → Recorder
  | .append kind =>
    match r.actions.append? kind with
    | some (_, actions) => { r with actions }
    | none => r
  | .schedule actionId recordDate =>
    { r with snapshots := r.snapshots.schedule actionId recordDate }
  | .rebuildPending => { r with snapshots := r.snapshots.rebuildPending r.actions }
  | .captureDue now ledger =>
    { r with captured := r.captured ++ [r.snapshots.captureDue now r.actions ledger] }
  | .commit place =>
    match r.captured[place]? with
    | some captures => r.keep captures
    | none => r
  | .takeDue now ledger =>
    let kept := r.snapshots.takeDue now r.actions ledger
    { r with actions := kept.2.2, snapshots := kept.2.1 }

/-- Run errands one after the other. -/
def run (r : Recorder) : List Errand → Recorder
  | [] => r
  | errand :: rest => run (r.step errand) rest

theorem step_commit {place : Nat} {captures : List Capture}
    (hat : r.captured[place]? = some captures) : r.step (.commit place) = r.keep captures := by
  unfold step
  dsimp only
  rw [hat]

/-- The work starts with nothing, or with the actions and snapshots of a saved state that passes
its checks and in which both are numbered by their places. -/
inductive Ready : Recorder → Prop where
  | empty : Ready ⟨.empty, .empty, []⟩
  | checked {c : Checkpoint} : c.check = .ok () →
      (∀ (place : Nat) (a : Action), c.actions.actions[place]? = some a →
        a.id.toNat = place + 1) →
      (∀ (place : Nat) (snapshot : Snapshot), c.snapshots.snapshots[place]? = some snapshot →
        snapshot.id.toNat = place + 1) → Ready ⟨c.actions, c.snapshots, []⟩

/-- Snapshots and actions name each other, and what was looked at is about actions that there
are. -/
structure Sound (r : Recorder) : Prop where
  paired : r.snapshots.Paired r.actions
  known : ∀ captures ∈ r.captured, ∀ c ∈ captures, SnapshotBook.Known r.actions c

/-- What one recorder becomes in the course of its work. -/
structure Grows (r r' : Recorder) : Prop where
  book : r.snapshots.Grows r.actions r'.snapshots r'.actions
  captured : r.captured <+: r'.captured

theorem Ready.sound (h : r.Ready) : r.Sound := by
  cases h with
  | empty => exact ⟨SnapshotBook.paired_empty, fun _ hcaptures => nomatch hcaptures⟩
  | @checked c hcheck hactions hsnapshots =>
    obtain ⟨-, howner, hnamed⟩ := Checkpoint.check_eq_ok_iff.mp hcheck
    have hplaced : c.actions.Placed := ⟨hactions⟩
    refine ⟨⟨hplaced, hsnapshots, howner, fun place snapshot hat => ?_⟩,
      fun _ hcaptures => nomatch hcaptures⟩
    obtain ⟨a, hget, hplace⟩ := hnamed place snapshot hat
    obtain ⟨ha, hid⟩ := hplaced.get?_eq_ok_iff.mp hget
    refine ⟨a, ha, hid, ?_⟩
    -- the place of a snapshot is its number, so it is in the range of numbers
    have hrange := snapshot.id.toNat_lt_size
    rw [hsnapshots place snapshot hat] at hrange
    rw [hplace]
    exact UInt64.toNat_ofNat_of_lt' hrange

theorem Grows.trans {r' r'' : Recorder} (h : r.Grows r') (hmore : r'.Grows r'') : r.Grows r'' :=
  ⟨h.book.trans hmore.book, h.captured.trans hmore.captured⟩

/-- Keeping captures keeps the recorder sound. -/
theorem Sound.keep (h : r.Sound) (captures : List Capture) :
    (r.keep captures).Sound ∧ r.Grows (r.keep captures) := by
  obtain ⟨hpaired, hgrows, -⟩ := h.paired.commit captures
  refine ⟨⟨hpaired, fun others hothers c hc => ?_⟩, hgrows, List.prefix_refl _⟩
  exact hgrows.known (h.known others hothers c hc)

/-- Every errand keeps a recorder sound and loses nothing. -/
theorem Sound.step (h : r.Sound) (errand : Errand) :
    (r.step errand).Sound ∧ r.Grows (r.step errand) := by
  have hidle : r.Sound ∧ r.Grows r := ⟨h, .refl _ _, List.prefix_refl _⟩
  cases errand with
  | append kind =>
    unfold Recorder.step ActionStore.append?
    cases hnext : r.actions.nextId? with
    | none => exact hidle
    | some next =>
      have hgrows := SnapshotBook.grows_push r.snapshots r.actions next kind
      refine ⟨⟨h.paired.push hnext kind, fun captures hcaptures c hc => ?_⟩, hgrows,
        List.prefix_refl _⟩
      exact hgrows.known (h.known captures hcaptures c hc)
  | schedule actionId recordDate =>
    exact ⟨⟨h.paired.of_snapshots_eq rfl, h.known⟩, .of_snapshots_eq _ _ rfl, List.prefix_refl _⟩
  | rebuildPending =>
    exact ⟨⟨h.paired.of_snapshots_eq rfl, h.known⟩, .of_snapshots_eq _ _ rfl, List.prefix_refl _⟩
  | captureDue now ledger =>
    refine ⟨⟨h.paired, fun captures hcaptures c hc => ?_⟩, .refl _ _, List.prefix_append _ _⟩
    rcases List.mem_append.mp hcaptures with hcaptures | hcaptures
    · exact h.known captures hcaptures c hc
    · rw [List.mem_singleton.mp hcaptures] at hc
      exact SnapshotBook.known_of_mem_captureDue h.paired.placed hc
  | commit place =>
    cases hat : r.captured[place]? with
    | none =>
      unfold Recorder.step
      dsimp only
      rw [hat]
      exact hidle
    | some captures =>
      rw [step_commit hat]
      exact h.keep captures
  | takeDue now ledger => exact h.keep (r.snapshots.captureDue now r.actions ledger)

/-- Errands keep a recorder sound and lose nothing. -/
theorem Sound.run (h : r.Sound) (errands : List Errand) :
    (r.run errands).Sound ∧ r.Grows (r.run errands) := by
  induction errands generalizing r with
  | nil => exact ⟨h, .refl _ _, List.prefix_refl _⟩
  | cons errand rest ih =>
    obtain ⟨hsound, hgrows⟩ := h.step errand
    obtain ⟨hsound', hgrows'⟩ := ih hsound
    exact ⟨hsound', hgrows.trans hgrows'⟩

/-- Once a list was kept, keeping it again at any later time keeps nothing. -/
theorem Sound.commit_again (h : r.Sound) {place : Nat} {captures : List Capture}
    (hat : r.captured[place]? = some captures) (further : List Errand) :
    let r' := (r.step (.commit place)).run further
    (r'.snapshots.commit r'.actions captures).1 = [] ∧
      (r'.step (.commit place)).actions = r'.actions ∧
      (r'.step (.commit place)).snapshots.snapshots = r'.snapshots.snapshots := by
  intro r'
  obtain ⟨hsound, hgrows⟩ := (h.step (.commit place)).1.run further
  have hsettled : ∀ c ∈ captures, SnapshotBook.Settled r'.actions c := by
    intro c hc
    refine hgrows.book.settled ?_
    rw [step_commit hat]
    exact (h.paired.commit captures).2.2 c hc
      (h.known captures (List.mem_of_getElem? hat) c hc)
  -- the list still stands where it stood
  have hlater : r'.captured[place]? = some captures := by
    obtain ⟨more, hmore⟩ := ((h.step (.commit place)).2.trans hgrows).captured
    rw [← hmore, List.getElem?_append_left (List.getElem?_eq_some_iff.mp hat).1, hat]
  obtain ⟨hnone, hsnapshots, hactions⟩ :=
    SnapshotBook.commit_of_settled hsound.paired.placed hsettled r'.snapshots
  rw [step_commit hlater]
  exact ⟨hnone, hactions, hsnapshots⟩

/-- Every number addresses the same action afterwards, which still names its snapshot if it named
one. -/
theorem Sound.get?_run (h : r.Sound) (further : List Errand) {id : ActionId} {a : Action}
    (hget : r.actions.get? id = .ok a) : ∃ a', (r.run further).actions.get? id = .ok a' ∧
      a'.kind = a.kind ∧ (a.snapshotId ≠ 0 → a'.snapshotId = a.snapshotId) := by
  obtain ⟨hsound, hgrows⟩ := h.run further
  obtain ⟨ha, rfl⟩ := h.paired.placed.get?_eq_ok_iff.mp hget
  obtain ⟨a', ha', hsame, hkept⟩ := hgrows.book.actions a ha
  refine ⟨a', hsound.paired.placed.get?_eq_ok_iff.mpr ⟨ha', ?_⟩, ?_, fun hne => ?_⟩
  · rw [hsame]
  · rw [hsame]
  · have hnamed : a.hasSnapshot = true := by simpa [Action.hasSnapshot] using hne
    rw [hkept hnamed]

/-- There is at most one snapshot for an action, however the errands follow one another.  After any
of them, snapshots are numbered by their places, an action names a snapshot exactly when the
snapshot was taken for it, and no two were taken for one action.  Afterwards the snapshots stay,
and so does the number of a snapshot that an action names; and of a list that was kept once,
nothing is ever kept again. -/
theorem snapshots_once (h : r.Ready) (errands : List Errand) :
    let r' := r.run errands
    (∀ (place : Nat) (snapshot : Snapshot), r'.snapshots.snapshots[place]? = some snapshot →
      snapshot.id.toNat = place + 1) ∧
    (∀ a ∈ r'.actions.actions, ∀ number : SnapshotId, number ≠ 0 → (a.snapshotId = number ↔
      ∃ snapshot, r'.snapshots.get? number = some snapshot ∧ snapshot.actionId = a.id)) ∧
    (r'.snapshots.snapshots.map Snapshot.actionId).Nodup ∧
    (∀ further, r'.snapshots.snapshots <+: (r'.run further).snapshots.snapshots ∧
      ∀ id a, r'.actions.get? id = .ok a → ∃ a', (r'.run further).actions.get? id = .ok a' ∧
        a'.kind = a.kind ∧ (a.snapshotId ≠ 0 → a'.snapshotId = a.snapshotId)) ∧
    ∀ place captures, r'.captured[place]? = some captures → ∀ further,
      let r'' := (r'.step (.commit place)).run further
      (r''.snapshots.commit r''.actions captures).1 = [] ∧
        (r''.step (.commit place)).actions = r''.actions ∧
        (r''.step (.commit place)).snapshots.snapshots = r''.snapshots.snapshots := by
  intro r'
  have hsound : r'.Sound := (h.sound.run errands).1
  refine ⟨hsound.paired.toNat_id, ?_, hsound.paired.nodup_actionIds, ?_, ?_⟩
  · intro a ha number hne
    exact hsound.paired.snapshotId_eq_iff ha hne
  · intro further
    exact ⟨(hsound.run further).2.book.snapshots, fun id a => hsound.get?_run further⟩
  · intro place captures hat further
    exact hsound.commit_again hat further

/-- A coupon that stands on the agenda under two dates is looked at twice, each time under both;
the later list is kept first, then the earlier one, then the later one again. -/
def sampleErrands : List Errand :=
  [.append (.coupon Session.sampleCoupon), .schedule 1 50, .schedule 1 40,
    .captureDue 60 Bond.sampleBond.ledger, .captureDue 61 Bond.sampleBond.ledger, .commit 1,
    .commit 0, .commit 1]

/-- Four captures of one action make one snapshot, which was taken at the later time. -/
theorem sample_snapshot_once :
    let r := (⟨.empty, .empty, []⟩ : Recorder).run sampleErrands
    r.captured.map List.length = [2, 2] ∧
    r.snapshots.snapshots.map (fun s => (s.id, s.actionId, s.takenAt)) = [(1, 1, 61)] ∧
    r.actions.actions.map Action.snapshotId = [1] ∧
    (∀ (place : Nat) (snapshot : Snapshot), r.snapshots.snapshots[place]? = some snapshot →
      snapshot.id.toNat = place + 1) ∧
    (r.snapshots.snapshots.map Snapshot.actionId).Nodup := by
  intro r
  obtain ⟨hnumbered, -, hnodup, -⟩ := snapshots_once .empty sampleErrands
  exact ⟨by decide, by decide, by decide, hnumbered, hnodup⟩

end Recorder

end CouponBond
