import CouponBond.Proofs.BondReachable
import Mathlib.Algebra.Ring.Int.Defs
import Mathlib.Algebra.Ring.Nat

/-!
# What facts say about balances

Every fact of the log stands for a few entries in the rows of a ledger, the debits before the
credits, and for units that were issued or redeemed.  The facts of a command explain the ledger
that it leaves: posted to the rows from before, they give the rows after it, bucket by bucket and
without ever leaving the range of an amount.

A row that is debited and credited at once, by a transfer of a holder to itself, comes out as it
was, so it does not matter that the ledger does not write it.

## Main Definitions

* `Entry`, `Posting` — units put into or taken out of a bucket, and the row they are booked in
* `Entry.gain`, `Posting.gain`, `Fact.gain` — what is added to a bucket, negative for a debit
* `Fact.postings`, `Fact.issuedIn`, `Fact.redeemedIn` — what a fact stands for
* `Ledger.Posts` — postings lead from the rows of one ledger to those of another
* `Ledger.ExplainedBy` — facts explain the rows and the supplies of another ledger

## Main Results

* `Fact.account_mem_parties` — whoever a posting concerns is a party of the fact
* `Ledger.Posts.toNat_get`, `Ledger.ExplainedBy.toNat_get` — postings add up, bucket by bucket
* `Bond.Performed.explained` — the facts of a command explain what it does to the ledger
-/

namespace CouponBond

/-! ### Entries and postings -/

/-- Units that are put into a bucket or taken out of it. -/
inductive Entry where
  | credit (bucket : Bucket) (units : Amount)
  | debit (bucket : Bucket) (units : Amount)
deriving DecidableEq, Repr

/-- The balance behind an entry, unless a bucket would leave its range. -/
def Balance.enter? (b : Balance) : Entry → Option Balance
  | .credit bucket units => b.credit? bucket units
  | .debit bucket units => b.debit? bucket units

/-- What an entry adds to a bucket. -/
def Entry.gain (k : Bucket) : Entry → Int
  | .credit bucket units => (if k = bucket then units.toNat else 0 : Nat)
  | .debit bucket units => -(if k = bucket then units.toNat else 0 : Nat)

theorem Balance.toNat_get_of_enter? {b b' : Balance} {e : Entry} (h : b.enter? e = some b')
    (k : Bucket) : ((b'.get k).toNat : Int) = (b.get k).toNat + e.gain k := by
  cases e with
  | credit bucket units =>
    have hget := toNat_get_of_credit? h k
    simp only [Entry.gain]
    omega
  | debit bucket units =>
    have hget := toNat_get_of_debit? h k
    simp only [Entry.gain]
    omega

/-- Steps that each add to a bucket add up. -/
theorem Balance.toNat_get_of_foldlM {α : Type} {step : Balance → α → Option Balance}
    (gain : α → Int) {k : Bucket}
    (hstep : ∀ x b b', step b x = some b' → ((b'.get k).toNat : Int) = (b.get k).toNat + gain x)
    {steps : List α} {b b' : Balance} (h : steps.foldlM step b = some b') :
    ((b'.get k).toNat : Int) = (b.get k).toNat + (steps.map gain).sum := by
  induction steps generalizing b with
  | nil =>
    cases h
    simp
  | cons x rest ih =>
    rw [List.foldlM_cons] at h
    obtain ⟨between, hfirst, hrest⟩ := Option.bind_eq_some_iff.mp h
    rw [ih hrest, hstep x b between hfirst, List.map_cons, List.sum_cons, Int.add_assoc]

/-- An entry in the row of an account. -/
structure Posting where
  account : Address
  partition : Partition
  entry : Entry
deriving DecidableEq, Repr

namespace Posting

/-- Units of an account move from one bucket to another. -/
def move (account : Address) (partition : Partition) (source target : Bucket)
    (units : Amount) : List Posting :=
  [⟨account, partition, .debit source units⟩, ⟨account, partition, .credit target units⟩]

/-- A row behind a posting; postings to other rows leave it alone. -/
def enter? (a : Address) (q : Partition) (b : Balance) (p : Posting) : Option Balance :=
  if p.account = a ∧ p.partition = q then b.enter? p.entry else some b

/-- Postings to other rows leave a row alone. -/
theorem foldlM_enter?_of_other {postings : List Posting} {a : Address} {q : Partition}
    (h : ∀ p ∈ postings, ¬ (p.account = a ∧ p.partition = q)) (b : Balance) :
    postings.foldlM (enter? a q) b = some b := by
  induction postings with
  | nil => rfl
  | cons p rest ih =>
    have hfirst : enter? a q b p = some b := if_neg (h p List.mem_cons_self)
    rw [List.foldlM_cons, hfirst]
    exact ih fun p hp => h p (List.mem_cons_of_mem _ hp)

/-- What a posting adds to a bucket of a row. -/
def gain (a : Address) (q : Partition) (k : Bucket) (p : Posting) : Int :=
  if p.account = a ∧ p.partition = q then p.entry.gain k else 0

theorem toNat_get_of_enter? {p : Posting} {a : Address} {q : Partition} {b b' : Balance}
    (h : enter? a q b p = some b') (k : Bucket) :
    ((b'.get k).toNat : Int) = (b.get k).toNat + p.gain a q k := by
  unfold enter? at h
  unfold gain
  split at h
  · next hrow => rw [if_pos hrow, Balance.toNat_get_of_enter? h k]
  · next hrow =>
    cases h
    rw [if_neg hrow, Int.add_zero]

theorem toNat_get_of_foldlM {postings : List Posting} {a : Address} {q : Partition}
    {b b' : Balance} (h : postings.foldlM (enter? a q) b = some b') (k : Bucket) :
    ((b'.get k).toNat : Int) = (b.get k).toNat + (postings.map (gain a q k)).sum :=
  Balance.toNat_get_of_foldlM (gain a q k) (fun _ _ _ hone => toNat_get_of_enter? hone k) h

end Posting

namespace Fact

/-- The entries that a fact stands for, the debits before the credits. -/
def postings : Fact → List Posting
  | .issued holder q units => [⟨holder, q, .credit .free units⟩]
  | .transferred source destination q units =>
    [⟨source, q, .debit .free units⟩, ⟨destination, q, .credit .free units⟩]
  | .redeemed holder q units => [⟨holder, q, .debit .free units⟩]
  | .locked _ holder q units _ => Posting.move holder q .free .locked units
  | .lockReleased _ holder q units => Posting.move holder q .locked .free units
  | .holdCreated _ holder q units _ => Posting.move holder q .free .held units
  | .holdExecuted _ holder destination q units =>
    [⟨holder, q, .debit .held units⟩, ⟨destination, q, .credit .free units⟩]
  | .holdReleased _ holder q units => Posting.move holder q .held .free units
  | .frozen holder q units => Posting.move holder q .free .frozen units
  | .unfrozen holder q units => Posting.move holder q .frozen .free units
  | .clearingCreated _ source _ q units => [⟨source, q, .credit .cleared units⟩]
  | .clearingApproved _ source destination q units =>
    [⟨source, q, .debit .cleared units⟩, ⟨source, q, .debit .free units⟩,
      ⟨destination, q, .credit .free units⟩]
  | .clearingCancelled _ source q units => [⟨source, q, .debit .cleared units⟩]
  | .couponSet .. => []
  | .snapshotTaken .. => []
  | .maturityDateUpdated .. => []
  | .redeemedAtMaturity holder q units => [⟨holder, q, .debit .free units⟩]

/-- Units that a fact adds to the supply of a partition. -/
def issuedIn (q : Partition) : Fact → Nat
  | .issued _ partition units => if partition = q then units.toNat else 0
  | _ => 0

/-- Units that a fact takes from the supply of a partition. -/
def redeemedIn (q : Partition) : Fact → Nat
  | .redeemed _ partition units => if partition = q then units.toNat else 0
  | .redeemedAtMaturity _ partition units => if partition = q then units.toNat else 0
  | _ => 0

/-- Whoever a posting of a fact concerns is a party of the fact. -/
theorem account_mem_parties (f : Fact) : ∀ p ∈ f.postings, p.account ∈ f.parties := by
  cases f <;> simp [postings, parties, Posting.move]

/-- A row behind a fact. -/
def enter? (f : Fact) (a : Address) (q : Partition) (b : Balance) : Option Balance :=
  f.postings.foldlM (Posting.enter? a q) b

/-- What a fact adds to a bucket of a row. -/
def gain (a : Address) (q : Partition) (k : Bucket) (f : Fact) : Int :=
  (f.postings.map (Posting.gain a q k)).sum

/-- A fact of which no posting concerns an account leaves its rows alone. -/
theorem enter?_of_ne {f : Fact} {a : Address} (h : ∀ p ∈ f.postings, p.account ≠ a)
    (q : Partition) (b : Balance) : f.enter? a q b = some b :=
  Posting.foldlM_enter?_of_other (fun p hp hrow => h p hp hrow.1) b

/-- A fact to which an account is no party leaves its rows alone. -/
theorem enter?_of_not_mem_parties {f : Fact} {a : Address} (h : a ∉ f.parties) (q : Partition)
    (b : Balance) : f.enter? a q b = some b := by
  refine f.enter?_of_ne (fun p hp heq => ?_) q b
  rw [← heq] at h
  exact h (f.account_mem_parties p hp)

end Fact

/-! ### Rows of a ledger -/

namespace Ledger

variable {l l₁ l' l'' : Ledger} {holder : Address} {partition : Partition} {amount : Amount}
  {b' : Balance}

/-- Postings lead from the rows of a ledger to those of another one. -/
def Posts (l : Ledger) (postings : List Posting) (l' : Ledger) : Prop :=
  ∀ a q, postings.foldlM (Posting.enter? a q) (l.balanceOf a q) = some (l'.balanceOf a q)

theorem Posts.append {postings more : List Posting} (h : l.Posts postings l')
    (hmore : l'.Posts more l'') : l.Posts (postings ++ more) l'' := by
  intro a q
  rw [List.foldlM_append, h a q]
  exact hmore a q

/-- What postings make of every bucket of every row. -/
theorem Posts.toNat_get {postings : List Posting} (h : l.Posts postings l') (a : Address)
    (q : Partition) (k : Bucket) :
    (((l'.balanceOf a q).get k).toNat : Int) =
      ((l.balanceOf a q).get k).toNat + (postings.map (Posting.gain a q k)).sum :=
  Posting.toNat_get_of_foldlM (h a q) k

/-- Entries in one row are posted by writing it, whatever else is written to the records. -/
theorem posts_withRow (entries : List Entry) (hsame : ∀ a q, l₁.balanceOf a q = l.balanceOf a q)
    (h : entries.foldlM Balance.enter? (l.balanceOf holder partition) = some b') :
    l.Posts (entries.map (Posting.mk holder partition)) (l₁.withRow holder partition b') := by
  intro a q
  rw [balanceOf_withRow, hsame]
  by_cases hrow : a = holder ∧ q = partition
  · obtain ⟨rfl, rfl⟩ := hrow
    rw [if_pos ⟨rfl, rfl⟩, List.foldlM_map]
    simpa [Posting.enter?] using h
  · rw [if_neg hrow]
    refine Posting.foldlM_enter?_of_other (fun p hp hp' => ?_) _
    obtain ⟨e, -, rfl⟩ := List.mem_map.mp hp
    exact hrow ⟨hp'.1.symm, hp'.2.symm⟩

theorem posts_credit {k : Bucket} (hsame : ∀ a q, l₁.balanceOf a q = l.balanceOf a q)
    (h : (l.balanceOf holder partition).credit? k amount = some b') :
    l.Posts [⟨holder, partition, .credit k amount⟩] (l₁.withRow holder partition b') := by
  refine posts_withRow [.credit k amount] hsame ?_
  simp [Balance.enter?, h]

theorem posts_debit {k : Bucket} (hsame : ∀ a q, l₁.balanceOf a q = l.balanceOf a q)
    (h : (l.balanceOf holder partition).debit? k amount = some b') :
    l.Posts [⟨holder, partition, .debit k amount⟩] (l₁.withRow holder partition b') := by
  refine posts_withRow [.debit k amount] hsame ?_
  simp [Balance.enter?, h]

theorem posts_move {source target : Bucket}
    (hsame : ∀ a q, l₁.balanceOf a q = l.balanceOf a q)
    (h : (l.balanceOf holder partition).move? source target amount = some b') :
    l.Posts (Posting.move holder partition source target amount)
      (l₁.withRow holder partition b') := by
  refine posts_withRow [.debit source amount, .credit target amount] hsame ?_
  rw [Balance.move?] at h
  simpa [Balance.enter?] using h

section Payments

variable {source destination : Address} {sender receiver : Balance}

/-- Two rows that are written one after the other, of which the second may be the first again. -/
theorem posts_withRow_withRow (entries : List Entry)
    (hsame : ∀ a q, l₁.balanceOf a q = l.balanceOf a q)
    (hsender : entries.foldlM Balance.enter? (l.balanceOf source partition) = some sender)
    (hreceiver : ((l.withRow source partition sender).balanceOf destination partition).credit?
      .free amount = some receiver) :
    l.Posts (entries.map (Posting.mk source partition) ++
        [⟨destination, partition, .credit .free amount⟩])
      ((l₁.withRow source partition sender).withRow destination partition receiver) := by
  refine (posts_withRow entries hsame hsender).append (posts_credit (fun _ _ => rfl) ?_)
  rwa [balanceOf_withRow, hsame, ← balanceOf_withRow]

/-- Units of one bucket are paid to an account. -/
theorem posts_payment {k : Bucket} (hsame : ∀ a q, l₁.balanceOf a q = l.balanceOf a q)
    (hsender : (l.balanceOf source partition).debit? k amount = some sender)
    (hreceiver : ((l.withRow source partition sender).balanceOf destination partition).credit?
      .free amount = some receiver) :
    l.Posts [⟨source, partition, .debit k amount⟩,
        ⟨destination, partition, .credit .free amount⟩]
      ((l₁.withRow source partition sender).withRow destination partition receiver) := by
  refine posts_withRow_withRow [.debit k amount] hsame ?_ hreceiver
  simp [Balance.enter?, hsender]

/-- Free units are paid to another account, whose row was read before the first one was written. -/
theorem posts_transfer (hne : source ≠ destination)
    (hsender : (l.balanceOf source partition).debit? .free amount = some sender)
    (hreceiver : (l.balanceOf destination partition).credit? .free amount = some receiver) :
    l.Posts [⟨source, partition, .debit .free amount⟩,
        ⟨destination, partition, .credit .free amount⟩]
      ((l.withRow source partition sender).withRow destination partition receiver) := by
  refine posts_payment (fun _ _ => rfl) hsender ?_
  rwa [balanceOf_withRow, if_neg (fun e => hne e.1.symm)]

/-- Reserved units are paid to an account: they leave the reserved and the free units. -/
theorem posts_settlement {reserved : Balance} (hsame : ∀ a q, l₁.balanceOf a q = l.balanceOf a q)
    (hreserved : (l.balanceOf source partition).debit? .cleared amount = some reserved)
    (hsender : reserved.debit? .free amount = some sender)
    (hreceiver : ((l.withRow source partition sender).balanceOf destination partition).credit?
      .free amount = some receiver) :
    l.Posts [⟨source, partition, .debit .cleared amount⟩,
        ⟨source, partition, .debit .free amount⟩,
        ⟨destination, partition, .credit .free amount⟩]
      ((l₁.withRow source partition sender).withRow destination partition receiver) := by
  refine posts_withRow_withRow [.debit .cleared amount, .debit .free amount] hsame ?_ hreceiver
  simp [Balance.enter?, hreserved, hsender]

end Payments

/-- Units that are taken out of a bucket and put back leave the rows as they were. -/
theorem posts_back {k : Bucket}
    (h : amount.toNat ≤ ((l.balanceOf holder partition).get k).toNat) :
    l.Posts [⟨holder, partition, .debit k amount⟩, ⟨holder, partition, .credit k amount⟩] l := by
  obtain ⟨between, hdebit⟩ := Balance.exists_debit? h
  have hcredit := Balance.credit?_of_debit? hdebit
  intro a q
  by_cases hrow : holder = a ∧ partition = q
  · obtain ⟨rfl, rfl⟩ := hrow
    simp [Posting.enter?, Balance.enter?, hdebit, hcredit]
  · refine Posting.foldlM_enter?_of_other (fun p hp => ?_) _
    simp only [List.mem_cons, List.not_mem_nil, or_false] at hp
    rcases hp with rfl | rfl <;> exact hrow

/-- Facts explain another ledger: they lead from row to row, and what they issue and redeem is
the difference of the supplies. -/
structure ExplainedBy (l : Ledger) (facts : List Fact) (l' : Ledger) : Prop where
  rows : ∀ a q, facts.foldlM (fun b f => f.enter? a q b) (l.balanceOf a q) = some (l'.balanceOf a q)
  supply : ∀ q, (l'.totalSupply q).toNat + (facts.map (Fact.redeemedIn q)).sum =
    (l.totalSupply q).toNat + (facts.map (Fact.issuedIn q)).sum

/-- Nothing happened. -/
theorem explainedBy_nil (l : Ledger) : l.ExplainedBy [] l := ⟨fun _ _ => rfl, fun _ => rfl⟩

theorem ExplainedBy.append {facts more : List Fact} (h : l.ExplainedBy facts l')
    (hmore : l'.ExplainedBy more l'') : l.ExplainedBy (facts ++ more) l'' := by
  refine ⟨fun a q => ?_, fun q => ?_⟩
  · rw [List.foldlM_append, h.rows a q]
    exact hmore.rows a q
  · have hfirst := h.supply q
    have hsecond := hmore.supply q
    rw [List.map_append, List.map_append, List.sum_append, List.sum_append]
    omega

/-- What facts make of every bucket of every row. -/
theorem ExplainedBy.toNat_get {facts : List Fact} (h : l.ExplainedBy facts l') (a : Address)
    (q : Partition) (k : Bucket) :
    (((l'.balanceOf a q).get k).toNat : Int) =
      ((l.balanceOf a q).get k).toNat + (facts.map (Fact.gain a q k)).sum :=
  Balance.toNat_get_of_foldlM (Fact.gain a q k)
    (fun _ _ _ hfact => Posting.toNat_get_of_foldlM hfact k) (h.rows a q)

/-- Facts of which no posting concerns an account explain no change of its balances. -/
theorem ExplainedBy.balanceOf_eq {facts : List Fact} (h : l.ExplainedBy facts l') {a : Address}
    (ha : ∀ f ∈ facts, ∀ p ∈ f.postings, p.account ≠ a) (q : Partition) :
    l'.balanceOf a q = l.balanceOf a q := by
  have hrows := h.rows a q
  clear h
  induction facts with
  | nil => exact (Option.some.inj hrows).symm
  | cons f rest ih =>
    obtain ⟨hfirst, hrest⟩ := List.forall_mem_cons.mp ha
    rw [List.foldlM_cons, f.enter?_of_ne hfirst] at hrows
    exact ih hrest hrows

/-- One fact explains what its postings lead to. -/
theorem Posts.explainedBy {f : Fact} (h : l.Posts f.postings l')
    (hsupply : ∀ q, (l'.totalSupply q).toNat + f.redeemedIn q =
      (l.totalSupply q).toNat + f.issuedIn q) : l.ExplainedBy [f] l' := by
  refine ⟨fun a q => ?_, fun q => ?_⟩
  · rw [List.foldlM_cons, Fact.enter?, h a q]
    rfl
  · simpa using hsupply q

/-- A fact by which nothing is issued or redeemed explains what its postings lead to, if the
supplies stay. -/
theorem Posts.explainedBy_of_supply {f : Fact} (h : l.Posts f.postings l')
    (hnone : ∀ q, f.issuedIn q = 0 ∧ f.redeemedIn q = 0)
    (hsupply : ∀ q, l'.totalSupply q = l.totalSupply q) : l.ExplainedBy [f] l' := by
  refine h.explainedBy fun q => ?_
  rw [hsupply, (hnone q).1, (hnone q).2]

/-- A fact of some units explains nothing when there are no units. -/
theorem explainedBy_factOfUnits {f : Fact} (hzero : amount = 0 → l' = l)
    (h : amount ≠ 0 → l.ExplainedBy [f] l') :
    l.ExplainedBy (Bond.factOfUnits amount f) l' := by
  unfold Bond.factOfUnits
  split
  · next hamount =>
    rw [hzero hamount]
    exact explainedBy_nil l
  · next hamount => exact h hamount

/-! ### Mutations -/

theorem explained_issue (h : l.Consistent)
    (hl' : Ledger.issue holder partition amount l = .ok () l') :
    l.ExplainedBy (Bond.factOfUnits amount (.issued holder partition amount)) l' := by
  obtain ⟨hzero, rfl⟩ | ⟨hpos, supply, balance, hsupply, -, hbalance, rfl⟩ :=
    (issue_spec h holder partition amount).of_ok hl'
  · exact explainedBy_factOfUnits (fun _ => rfl) fun hpos => absurd hzero hpos
  · refine explainedBy_factOfUnits (fun hzero => absurd hzero hpos) fun _ => ?_
    refine Posts.explainedBy (posts_credit (balanceOf_withSupply l partition supply) hbalance)
      fun q => ?_
    have hadd := Unsigned.toNat_of_add? hsupply
    rw [totalSupply_withRow, totalSupply_withSupply]
    by_cases hq : q = partition
    · simp [Fact.issuedIn, Fact.redeemedIn, hq, hadd]
    · simp [Fact.issuedIn, Fact.redeemedIn, hq, Ne.symm hq]

theorem explained_transfer (h : l.Consistent) {source destination : Address}
    (hl' : Ledger.transfer source destination partition amount l = .ok () l') :
    l.ExplainedBy (Bond.factOfUnits amount (.transferred source destination partition amount))
      l' := by
  obtain ⟨havailable, ⟨hidle, rfl⟩ | ⟨hpos, hne, sender, receiver, hsender, hreceiver, rfl⟩⟩ :=
    (transfer_spec h source destination partition amount).of_ok hl'
  · refine explainedBy_factOfUnits (fun _ => rfl) fun hpos => ?_
    obtain rfl := hidle.resolve_left hpos
    have hfree := h.le_of_le_available havailable
    exact (posts_back (k := .free) (by omega)).explainedBy_of_supply (fun _ => ⟨rfl, rfl⟩)
      fun _ => rfl
  · refine explainedBy_factOfUnits (fun hzero => absurd hzero hpos) fun _ => ?_
    refine (posts_transfer hne hsender hreceiver).explainedBy_of_supply (fun _ => ⟨rfl, rfl⟩)
      fun q => ?_
    rw [totalSupply_withRow, totalSupply_withRow]

/-- A fact that stands for a move between buckets explains it, whatever else is written to the
records. -/
theorem explained_move {f : Fact} {source target : Bucket}
    (hpostings : f.postings = Posting.move holder partition source target amount)
    (hnone : ∀ q, f.issuedIn q = 0 ∧ f.redeemedIn q = 0) (hbook : ∀ q, l₁.book q = l.book q)
    (h : (l.balanceOf holder partition).move? source target amount = some b') :
    l.ExplainedBy [f] (l₁.withRow holder partition b') := by
  have hsame : ∀ a q, l₁.balanceOf a q = l.balanceOf a q := fun a q => by
    rw [balanceOf, balanceOf, hbook]
  have hposts := posts_move hsame h
  rw [← hpostings] at hposts
  refine hposts.explainedBy_of_supply hnone fun q => ?_
  rw [totalSupply_withRow, totalSupply, totalSupply, hbook]

/-- A redemption debits the row of the holder and lowers the supply. -/
theorem posts_redeem (h : l.Consistent) (hpos : amount ≠ 0)
    (hl' : Ledger.redeem holder partition amount l = .ok () l') :
    l.Posts [⟨holder, partition, .debit .free amount⟩] l' ∧
      ∀ q, (l'.totalSupply q).toNat + (if partition = q then amount.toNat else 0) =
        (l.totalSupply q).toNat := by
  obtain ⟨-, ⟨hzero, -⟩ | ⟨-, supply, balance, hsupply, hbalance, rfl⟩⟩ :=
    (redeem_spec h holder partition amount).of_ok hl'
  · exact absurd hzero hpos
  · refine ⟨posts_debit (balanceOf_withSupply l partition supply) hbalance, fun q => ?_⟩
    obtain ⟨hle, hsub⟩ := Unsigned.toNat_of_sub? hsupply
    rw [totalSupply_withRow, totalSupply_withSupply]
    by_cases hq : q = partition
    · rw [if_pos hq, if_pos hq.symm, hq]
      omega
    · rw [if_neg hq, if_neg (Ne.symm hq), Nat.add_zero]

/-- A fact that stands for a redemption explains it. -/
theorem explained_redeem (h : l.Consistent)
    (hl' : Ledger.redeem holder partition amount l = .ok () l') {f : Fact}
    (hpostings : f.postings = [⟨holder, partition, .debit .free amount⟩])
    (hsupply : ∀ q, f.issuedIn q = 0 ∧
      f.redeemedIn q = if partition = q then amount.toNat else 0) :
    l.ExplainedBy (Bond.factOfUnits amount f) l' := by
  refine explainedBy_factOfUnits (fun hzero => ?_) fun hpos => ?_
  · obtain ⟨-, ⟨-, hsame⟩ | ⟨hpos, -⟩⟩ := (redeem_spec h holder partition amount).of_ok hl'
    · exact hsame
    · exact absurd hzero hpos
  · obtain ⟨hposts, hlowered⟩ := posts_redeem h hpos hl'
    rw [← hpostings] at hposts
    refine hposts.explainedBy fun q => ?_
    rw [(hsupply q).1, (hsupply q).2]
    exact hlowered q

/-- The facts of a plan of redemption explain what carrying it out leaves. -/
theorem explained_redeemEach (h : l.Consistent) {plan : List (Partition × Amount)}
    (hpos : ∀ entry ∈ plan, entry.2 ≠ 0)
    (hl' : Bond.redeemEach holder plan l = .ok () l') :
    l.ExplainedBy (plan.map fun entry => .redeemedAtMaturity holder entry.1 entry.2) l' := by
  induction plan generalizing l with
  | nil =>
    cases hl'
    exact explainedBy_nil _
  | cons entry rest ih =>
    obtain ⟨partition, amount⟩ := entry
    obtain ⟨hfirst, hrest⟩ := List.forall_mem_cons.mp hpos
    obtain ⟨l₁, hm, h₁, hl'⟩ := Bond.redeem_of_redeemEach h hl'
    obtain ⟨hposts, hsupply⟩ := posts_redeem h hfirst hm
    have hone : l.ExplainedBy [.redeemedAtMaturity holder partition amount] l₁ :=
      hposts.explainedBy hsupply
    exact hone.append (ih h₁ hrest hl')

end Ledger

namespace Bond

variable {desk : Desk} {b changed : Bond} {command : Command} {outcome : Outcome}
  {facts : List Fact}

/-- The facts of a command explain what it does to the ledger. -/
theorem Performed.explained (hperformed : Performed desk b command outcome facts changed)
    (h : b.ledger.Consistent) : b.ledger.ExplainedBy facts changed.ledger := by
  cases hperformed with
  | setCoupon => exact ⟨fun _ _ => rfl, fun _ => rfl⟩
  | updateMaturityDate => exact ⟨fun _ _ => rfl, fun _ => rfl⟩
  | issue _ _ _ hl' => exact Ledger.explained_issue h hl'
  | transfer _ _ _ _ hl' => exact Ledger.explained_transfer h hl'
  | redeem _ _ _ hl' => exact Ledger.explained_redeem h hl' rfl fun _ => ⟨rfl, rfl⟩
  | redeemAtMaturity _ _ _ _ hl' => exact Ledger.explained_redeem h hl' rfl fun _ => ⟨rfl, rfl⟩
  | redeemAllAtMaturity _ _ _ hl' =>
    refine Ledger.explained_redeemEach h (fun entry hentry => ?_) hl'
    simpa using (List.mem_filter.mp hentry).2
  | lock _ _ _ hl' =>
    obtain ⟨-, -, balance, hbalance, -, heq⟩ := (Ledger.lock_spec h _ _ _ _).of_ok hl'
    rw [heq]
    exact Ledger.explained_move rfl (fun _ => ⟨rfl, rfl⟩) (fun _ => rfl) hbalance
  | releaseLock _ _ hl' =>
    obtain ⟨-, -, balance, hbalance, heq⟩ := (Ledger.releaseLock_spec h _ _).of_ok hl'
    rw [heq]
    exact Ledger.explained_move rfl (fun _ => ⟨rfl, rfl⟩) (fun _ => rfl) hbalance
  | createHold _ _ _ _ _ hl' =>
    obtain ⟨-, -, balance, hbalance, -, heq⟩ :=
      (Ledger.createHold_spec h _ _ _ _ _ _).of_ok hl'
    rw [heq]
    exact Ledger.explained_move rfl (fun _ => ⟨rfl, rfl⟩) (fun _ => rfl) hbalance
  | executeHold _ hnamed _ hl' =>
    obtain ⟨record, hrecord, -, -, -, -, sender, receiver, rest, hsender, hreceiver, -, heq⟩ :=
      (Ledger.executeHold_spec h _ _ _ _).of_ok hl'
    cases hnamed.symm.trans hrecord
    rw [heq]
    refine (Ledger.posts_payment (fun _ _ => rfl) hsender hreceiver).explainedBy_of_supply
      (fun _ => ⟨rfl, rfl⟩) fun q => ?_
    rw [Ledger.totalSupply_withRow, Ledger.totalSupply_withRow]
    rfl
  | releaseHold hnamed _ hl' =>
    obtain ⟨record, hrecord, -, -, balance, rest, hbalance, -, heq⟩ :=
      (Ledger.releaseHold_spec h _ _).of_ok hl'
    cases hnamed.symm.trans hrecord
    rw [heq]
    exact Ledger.explained_move rfl (fun _ => ⟨rfl, rfl⟩) (fun _ => rfl) hbalance
  | freeze _ _ _ hl' =>
    obtain ⟨-, -, balance, hbalance, heq⟩ := (Ledger.freeze_spec h _ _ _).of_ok hl'
    rw [heq]
    exact Ledger.explained_move rfl (fun _ => ⟨rfl, rfl⟩) (fun _ => rfl) hbalance
  | unfreeze _ _ _ hl' =>
    obtain ⟨-, -, balance, hbalance, heq⟩ := (Ledger.unfreeze_spec h _ _ _).of_ok hl'
    rw [heq]
    exact Ledger.explained_move rfl (fun _ => ⟨rfl, rfl⟩) (fun _ => rfl) hbalance
  | createClearing _ _ _ _ hl' =>
    obtain ⟨-, -, balance, hbalance, -, heq⟩ :=
      (Ledger.createClearing_spec h _ _ _ _ _).of_ok hl'
    rw [heq]
    exact (Ledger.posts_credit (fun _ _ => rfl) hbalance).explainedBy_of_supply
      (fun _ => ⟨rfl, rfl⟩) (Ledger.totalSupply_withRow _ _ _ _)
  | approveClearing _ _ hl' =>
    obtain ⟨-, -, reserved, sender, receiver, hreserved, hsender, hreceiver, heq⟩ :=
      (Ledger.approveClearing_spec h _ _).of_ok hl'
    rw [heq]
    refine (Ledger.posts_settlement (fun _ _ => rfl) hreserved hsender
      hreceiver).explainedBy_of_supply (fun _ => ⟨rfl, rfl⟩) fun q => ?_
    rw [Ledger.totalSupply_withRow, Ledger.totalSupply_withRow]
    rfl
  | cancelClearing _ _ hl' =>
    obtain ⟨-, balance, hbalance, heq⟩ := (Ledger.cancelClearing_spec h _).of_ok hl'
    rw [heq]
    exact (Ledger.posts_debit (fun _ _ => rfl) hbalance).explainedBy_of_supply
      (fun _ => ⟨rfl, rfl⟩) (Ledger.totalSupply_withRow _ _ _ _)

end Bond

end CouponBond
