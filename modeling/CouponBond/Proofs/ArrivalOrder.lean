import CouponBond.Proofs.RegistryView
import Mathlib.Data.List.Induction
import Mathlib.Data.Nat.Find
import Mathlib.Order.Bounds.Basic

/-!
# The order of arrival

A roster keeps two maps and a counter, and gives every arrival a place that was never given out
before.  What it shows is a list without repetition: an arrival goes to the end unless it is on the
list, a departure takes it off, and everything that is read is read from the list.  So an account
stands where its latest entry puts it, and a roster that is made anew of its members cannot be told
from the old one, although its places are others.

## Main Definitions

* `Roster.Request`, `Roster.Response` — what can be asked of a roster, and what it answers
* `Placement.performAll`, `Roster.performAll`, `Roster.responses` — a history of requests
* `Roster.Request.applyTo`, `Roster.Request.answerFrom` — the same for a list of accounts
* `Roster.LatestEntry` — the request since which an account is on the roster

## Main Results

* `Placement.Sound.performAll` — the maps stay inverse to each other
* `Roster.responses_eq` — a roster answers like the list of its members
* `Roster.inOrder_foldl` — the list is in the order of latest entries
* `Roster.behaves_as_list` — rosters after any requests
-/

namespace CouponBond

/-! ### Requests -/

/-- What can be asked of a roster. -/
inductive Roster.Request where
  | insert (a : Address)
  | erase (a : Address)
  | contains (a : Address)
  | size
  | members
  | slice (start stop : Nat)
deriving DecidableEq

/-- Whether a request brings an account. -/
def Roster.Request.isArrival : Roster.Request → Bool
  | .insert _ => true
  | _ => false

/-- What a roster answers. -/
inductive Roster.Response where
  /-- Whether the account was not there before it arrived, or was there before it left. -/
  | changed (done : Bool)
  | found (present : Bool)
  | counted (size : Nat)
  | listed (accounts : List Address)
deriving DecidableEq

namespace Placement

/-- One request. -/
def perform (p : Placement) : Roster.Request → Placement
  | .insert a => p.insert a
  | .erase a => p.erase a
  | _ => p

/-- The places at the end of a history of requests. -/
def performAll (p : Placement) (requests : List Roster.Request) : Placement :=
  requests.foldl perform p

variable {p : Placement}

theorem Sound.perform (h : p.Sound) (request : Roster.Request) : (p.perform request).Sound := by
  cases request with
  | insert a => exact h.insert a
  | erase a => exact h.erase a
  | contains a => exact h
  | size => exact h
  | members => exact h
  | slice start stop => exact h

/-- Whatever arrives and leaves, the two maps stay inverse to each other and every place lies
before the next one. -/
theorem Sound.performAll (h : p.Sound) (requests : List Roster.Request) :
    (p.performAll requests).Sound := by
  induction requests generalizing p with
  | nil => exact h
  | cons request rest ih => exact ih (h.perform request)

/-- A place is given out only to an arrival. -/
theorem next_perform_le (p : Placement) (request : Roster.Request) :
    (p.perform request).next ≤ p.next + [request].countP Roster.Request.isArrival := by
  cases request with
  | insert a =>
    show (p.insert a).next ≤ p.next + 1
    unfold Placement.insert
    split
    · exact Nat.le_succ _
    · exact Nat.le_refl _
  | erase a =>
    show (p.erase a).next ≤ p.next
    unfold Placement.erase
    split <;> exact Nat.le_refl _
  | contains a => exact Nat.le_refl _
  | size => exact Nat.le_refl _
  | members => exact Nat.le_refl _
  | slice start stop => exact Nat.le_refl _

/-- There are no more places than arrivals. -/
theorem next_performAll_le (p : Placement) (requests : List Roster.Request) :
    (p.performAll requests).next ≤ p.next + requests.countP Roster.Request.isArrival := by
  induction requests generalizing p with
  | nil => exact Nat.le_refl _
  | cons request rest ih =>
    have hone := p.next_perform_le request
    have hmore := ih (p.perform request)
    rw [List.countP_cons]
    rw [List.countP_cons, List.countP_nil] at hone
    show ((p.perform request).performAll rest).next ≤ _
    omega

end Placement

namespace Roster

/-- One request. -/
def perform (r : Roster) : Request → Roster
  | .insert a => r.insert a
  | .erase a => r.erase a
  | _ => r

/-- The answer to a request. -/
def respond (r : Roster) : Request → Response
  | .insert a => .changed (!r.contains a)
  | .erase a => .changed (r.contains a)
  | .contains a => .found (r.contains a)
  | .size => .counted r.size
  | .members => .listed r.members
  | .slice start stop => .listed (r.slice start stop)

/-- The roster at the end of a history of requests. -/
def performAll (r : Roster) (requests : List Request) : Roster := requests.foldl perform r

/-- The answers in a history of requests. -/
def responses (r : Roster) : List Request → List Response
  | [] => []
  | request :: rest => r.respond request :: (r.perform request).responses rest

/-- What a request makes of a list of accounts. -/
def Request.applyTo (members : List Address) : Request → List Address
  | .insert a => Registry.enter members a
  | .erase a => members.erase a
  | _ => members

/-- What is read from a list of accounts. -/
def Request.answerFrom (members : List Address) : Request → Response
  | .insert a => .changed (decide (a ∉ members))
  | .erase a => .changed (decide (a ∈ members))
  | .contains a => .found (decide (a ∈ members))
  | .size => .counted members.length
  | .members => .listed members
  | .slice start stop => .listed (pageOf members start stop)

/-- The answers that a list of accounts gives in a history of requests. -/
def answersFrom (members : List Address) : List Request → List Response
  | [] => []
  | request :: rest => request.answerFrom members :: answersFrom (request.applyTo members) rest

variable {r r' : Roster} {a b : Address}

theorem toPlacement_perform (r : Roster) (request : Request) :
    (r.perform request).toPlacement = r.toPlacement.perform request := by
  cases request <;> rfl

theorem toPlacement_performAll (r : Roster) (requests : List Request) :
    (r.performAll requests).toPlacement = r.toPlacement.performAll requests := by
  induction requests generalizing r with
  | nil => rfl
  | cons request rest ih =>
    exact (ih _).trans (congrArg (·.performAll rest) (r.toPlacement_perform request))

theorem members_perform (r : Roster) (request : Request) :
    (r.perform request).members = request.applyTo r.members := by
  cases request with
  | insert a => exact r.members_insert a
  | erase a => exact r.members_erase a
  | contains a => rfl
  | size => rfl
  | members => rfl
  | slice start stop => rfl

theorem members_performAll (r : Roster) (requests : List Request) :
    (r.performAll requests).members = requests.foldl Request.applyTo r.members := by
  induction requests generalizing r with
  | nil => rfl
  | cons request rest ih => exact (ih _).trans (by rw [List.foldl_cons, members_perform])

theorem contains_eq_decide (r : Roster) (a : Address) : r.contains a = decide (a ∈ r.members) := by
  rw [Bool.eq_iff_iff, decide_eq_true_eq]
  exact contains_iff

theorem respond_eq (r : Roster) (request : Request) :
    r.respond request = request.answerFrom r.members := by
  cases request with
  | insert a =>
    rw [respond, contains_eq_decide, ← decide_not]
    rfl
  | erase a => rw [respond, contains_eq_decide, Request.answerFrom]
  | contains a => rw [respond, contains_eq_decide, Request.answerFrom]
  | size => rw [respond, size_eq_length, Request.answerFrom]
  | members => rfl
  | slice start stop => rw [respond, slice_eq_pageOf, Request.answerFrom]

/-- A roster answers like the list of its members. -/
theorem responses_eq (r : Roster) (requests : List Request) :
    r.responses requests = answersFrom r.members requests := by
  induction requests generalizing r with
  | nil => rfl
  | cons request rest ih => rw [responses, answersFrom, respond_eq, ih, members_perform]

/-! ### The order of entries -/

/-- An arrival of an account that no departure follows. -/
def Stays (requests : List Request) (a : Address) (place : Nat) : Prop :=
  requests[place]? = some (.insert a) ∧
    ∀ later, place < later → requests[later]? ≠ some (.erase a)

/-- The latest entry of an account is its first arrival that no departure follows; the arrivals
after it found the account present. -/
def LatestEntry (requests : List Request) (a : Address) (place : Nat) : Prop :=
  IsLeast {place | Stays requests a place} place

variable {requests : List Request} {request : Request} {members : List Address} {place : Nat}

theorem Stays.lt_length (h : Stays requests a place) : place < requests.length :=
  (List.getElem?_eq_some_iff.mp h.1).1

theorem exists_latestEntry_iff :
    (∃ place, LatestEntry requests a place) ↔ ∃ place, Stays requests a place := by
  classical
  constructor
  · rintro ⟨place, h⟩
    exact ⟨place, h.1⟩
  · intro h
    exact ⟨Nat.find h, Nat.find_spec h, fun _ hother => Nat.find_min' h hother⟩

/-- One more request ends the stay of an account that leaves, and begins one of an account that
arrives. -/
theorem stays_concat_iff : Stays (requests ++ [request]) a place ↔
    Stays requests a place ∧ request ≠ .erase a ∨
      place = requests.length ∧ request = .insert a := by
  constructor
  · rintro ⟨hat, hstays⟩
    rcases getElem?_concat_eq_some hat with hat | ⟨hplace, harrives⟩
    · have hlt := (List.getElem?_eq_some_iff.mp hat).1
      refine .inl ⟨⟨hat, fun later hlater hleaves => hstays later hlater ?_⟩, fun hleaves => ?_⟩
      · rw [List.getElem?_append_left (List.getElem?_eq_some_iff.mp hleaves).1]
        exact hleaves
      · refine hstays requests.length hlt ?_
        rw [List.getElem?_concat_length, hleaves]
    · exact .inr ⟨hplace, harrives.symm⟩
  · rintro (⟨⟨hat, hstays⟩, hremains⟩ | ⟨rfl, rfl⟩)
    · have hlt := (List.getElem?_eq_some_iff.mp hat).1
      refine ⟨(List.getElem?_append_left hlt).trans hat, fun later hlater hleaves => ?_⟩
      rcases getElem?_concat_eq_some hleaves with hleaves | ⟨-, hleaves⟩
      · exact hstays later hlater hleaves
      · exact hremains hleaves.symm
    · refine ⟨List.getElem?_concat_length, fun later hlater hleaves => ?_⟩
      have hlt := (List.getElem?_eq_some_iff.mp hleaves).1
      rw [List.length_append, List.length_singleton] at hlt
      omega

/-- One more request leaves a latest entry, ends it, or is one itself. -/
theorem latestEntry_concat_iff : LatestEntry (requests ++ [request]) a place ↔
    LatestEntry requests a place ∧ request ≠ .erase a ∨
      place = requests.length ∧ request = .insert a ∧ ∀ earlier, ¬ Stays requests a earlier := by
  constructor
  · rintro ⟨hstays, hleast⟩
    rcases stays_concat_iff.mp hstays with ⟨hstays, hremains⟩ | ⟨rfl, rfl⟩
    · refine .inl ⟨⟨hstays, fun other hother => ?_⟩, hremains⟩
      exact hleast (stays_concat_iff.mpr (.inl ⟨hother, hremains⟩))
    · refine .inr ⟨rfl, rfl, fun earlier hearlier => ?_⟩
      have hle := hleast (stays_concat_iff.mpr (.inl ⟨hearlier, nofun⟩))
      exact absurd hearlier.lt_length (Nat.not_lt.mpr hle)
  · rintro (⟨⟨hstays, hleast⟩, hremains⟩ | ⟨rfl, rfl, hnone⟩)
    · refine ⟨stays_concat_iff.mpr (.inl ⟨hstays, hremains⟩), fun other hother => ?_⟩
      rcases stays_concat_iff.mp hother with ⟨hother, -⟩ | ⟨rfl, -⟩
      · exact hleast hother
      · exact Nat.le_of_lt hstays.lt_length
    · refine ⟨stays_concat_iff.mpr (.inr ⟨rfl, rfl⟩), fun other hother => ?_⟩
      rcases stays_concat_iff.mp hother with ⟨hother, -⟩ | ⟨rfl, -⟩
      · exact absurd hother (hnone other)
      · exact Nat.le_refl _

/-- The accounts that requests lead to: those that stay, in the order of their latest entries. -/
structure InOrder (requests : List Request) (members : List Address) : Prop where
  mem_iff : ∀ a, a ∈ members ↔ ∃ place, LatestEntry requests a place
  ascending : members.Pairwise fun a b =>
    ∃ place later, LatestEntry requests a place ∧ LatestEntry requests b later ∧ place < later

theorem InOrder.nodup (h : InOrder requests members) : members.Nodup := by
  refine h.ascending.imp ?_
  rintro a b ⟨place, later, hplace, hlater, hlt⟩ rfl
  exact absurd hlt (by rw [hplace.unique hlater]; exact Nat.lt_irrefl _)

/-- One more request and the latest entries of the accounts on the list and off it. -/
theorem InOrder.latestEntry_concat_iff (h : InOrder requests members) :
    LatestEntry (requests ++ [request]) a place ↔
      LatestEntry requests a place ∧ request ≠ .erase a ∨
        place = requests.length ∧ request = .insert a ∧ a ∉ members := by
  rw [Roster.latestEntry_concat_iff, h.mem_iff, exists_latestEntry_iff, not_exists]

/-- A request that neither brings nor takes an account keeps every latest entry. -/
theorem InOrder.of_latestEntry_iff {requests' : List Request} (h : InOrder requests members)
    (hsame : ∀ a place, LatestEntry requests' a place ↔ LatestEntry requests a place) :
    InOrder requests' members := by
  constructor
  · simpa only [hsame] using h.mem_iff
  · simpa only [hsame] using h.ascending

theorem InOrder.insert (h : InOrder requests members) (a : Address) :
    InOrder (requests ++ [.insert a]) (Registry.enter members a) := by
  have hentry : ∀ {b place}, LatestEntry (requests ++ [.insert a]) b place ↔
      LatestEntry requests b place ∧ Request.insert a ≠ .erase b ∨
        place = requests.length ∧ Request.insert a = .insert b ∧ b ∉ members :=
    h.latestEntry_concat_iff
  unfold Registry.enter
  by_cases ha : a ∈ members
  · rw [if_pos ha]
    refine h.of_latestEntry_iff fun b place => ?_
    rw [hentry]
    constructor
    · rintro (⟨hplace, -⟩ | ⟨-, hb, hout⟩)
      · exact hplace
      · cases hb
        exact absurd ha hout
    · exact fun hplace => .inl ⟨hplace, nofun⟩
  · rw [if_neg ha]
    have hlast : LatestEntry (requests ++ [.insert a]) a requests.length :=
      hentry.mpr (.inr ⟨rfl, rfl, ha⟩)
    have hkept : ∀ {b place}, LatestEntry requests b place →
        LatestEntry (requests ++ [.insert a]) b place :=
      fun hplace => hentry.mpr (.inl ⟨hplace, nofun⟩)
    constructor
    · intro b
      rw [List.mem_append, List.mem_singleton, h.mem_iff]
      constructor
      · rintro (⟨place, hplace⟩ | rfl)
        · exact ⟨place, hkept hplace⟩
        · exact ⟨_, hlast⟩
      · rintro ⟨place, hplace⟩
        rcases hentry.mp hplace with ⟨hplace, -⟩ | ⟨-, hb, -⟩
        · exact .inl ⟨place, hplace⟩
        · cases hb
          exact .inr rfl
    · refine List.pairwise_append.mpr ⟨h.ascending.imp ?_, List.pairwise_singleton _ _, ?_⟩
      · rintro b c ⟨place, later, hplace, hlater, hlt⟩
        exact ⟨place, later, hkept hplace, hkept hlater, hlt⟩
      · intro b hb c hc
        obtain rfl := List.mem_singleton.mp hc
        obtain ⟨place, hplace⟩ := (h.mem_iff b).mp hb
        exact ⟨place, _, hkept hplace, hlast, hplace.1.lt_length⟩

theorem InOrder.erase (h : InOrder requests members) (a : Address) :
    InOrder (requests ++ [.erase a]) (members.erase a) := by
  have hentry : ∀ {b place}, LatestEntry (requests ++ [.erase a]) b place ↔
      LatestEntry requests b place ∧ b ≠ a := by
    intro b place
    rw [h.latestEntry_concat_iff]
    constructor
    · rintro (⟨hplace, hremains⟩ | ⟨-, hb, -⟩)
      · exact ⟨hplace, fun hb => hremains (by rw [hb])⟩
      · cases hb
    · rintro ⟨hplace, hne⟩
      refine .inl ⟨hplace, fun hb => ?_⟩
      cases hb
      exact hne rfl
  have hmem : ∀ b, b ∈ members.erase a ↔ b ≠ a ∧ b ∈ members := fun b => h.nodup.mem_erase_iff
  constructor
  · intro b
    rw [hmem, h.mem_iff, and_comm, ← exists_and_right]
    exact exists_congr fun place => hentry.symm
  · refine (h.ascending.sublist List.erase_sublist).imp_of_mem ?_
    rintro b c hb hc ⟨place, later, hplace, hlater, hlt⟩
    exact ⟨place, later, hentry.mpr ⟨hplace, ((hmem b).mp hb).1⟩,
      hentry.mpr ⟨hlater, ((hmem c).mp hc).1⟩, hlt⟩

/-- A question changes no latest entry. -/
theorem InOrder.question (h : InOrder requests members) (hinsert : ∀ a, request ≠ .insert a)
    (herase : ∀ a, request ≠ .erase a) : InOrder (requests ++ [request]) members := by
  refine h.of_latestEntry_iff fun a place => ?_
  rw [h.latestEntry_concat_iff]
  constructor
  · rintro (⟨hplace, -⟩ | ⟨-, harrives, -⟩)
    · exact hplace
    · exact absurd harrives (hinsert a)
  · exact fun hplace => .inl ⟨hplace, herase a⟩

/-- One more request keeps the list in order. -/
theorem InOrder.applyTo (h : InOrder requests members) (request : Request) :
    InOrder (requests ++ [request]) (request.applyTo members) := by
  cases request with
  | insert a => exact h.insert a
  | erase a => exact h.erase a
  | contains a => exact h.question nofun nofun
  | size => exact h.question nofun nofun
  | members => exact h.question nofun nofun
  | slice start stop => exact h.question nofun nofun

/-- Requests lead to the list of those that stay, in the order of their latest entries. -/
theorem inOrder_foldl (requests : List Request) :
    InOrder requests (requests.foldl Request.applyTo []) := by
  induction requests using List.reverseRecOn with
  | nil =>
    refine ⟨fun a => ⟨nofun, ?_⟩, .nil⟩
    rintro ⟨place, ⟨hat, -⟩, -⟩
    cases hat
  | append_singleton requests request ih =>
    rw [List.foldl_append]
    exact ih.applyTo request

/-! ### Arrays -/

/-- Arrivals go behind the list, each once, unless they are on it. -/
theorem foldl_enter (members arrivals : List Address) :
    arrivals.foldl Registry.enter members =
      members ++ (arrivals.filter fun a => decide (a ∉ members)).eraseDups := by
  induction arrivals generalizing members with
  | nil => exact (List.append_nil _).symm
  | cons hd tl ih =>
    rw [List.foldl_cons, ih]
    unfold Registry.enter
    by_cases hin : hd ∈ members
    · rw [if_pos hin, List.filter_cons_of_neg (by simpa using hin)]
    · have hothers : (fun a => decide (a ∉ members ++ [hd])) =
          fun a => !(a == hd) && decide (a ∉ members) := by
        funext a
        by_cases ha : a = hd <;> simp [ha]
      rw [if_neg hin, List.filter_cons_of_pos (by simpa using hin), List.eraseDups_cons,
        List.filter_filter, List.append_assoc, hothers]
      rfl

theorem ofList_eq_performAll (arrivals : List Address) :
    ofList arrivals = empty.performAll (arrivals.map .insert) := by
  rw [ofList, performAll, List.foldl_map]
  rfl

/-- A repeated account of an array keeps its first place. -/
theorem members_ofList_eq_eraseDups (arrivals : List Address) :
    (ofList arrivals).members = arrivals.eraseDups := by
  have hfold : (ofList arrivals).members = arrivals.foldl Registry.enter [] := by
    rw [ofList_eq_performAll, members_performAll, List.foldl_map]
    rfl
  rw [hfold, foldl_enter, List.nil_append, List.filter_eq_self.mpr (by simp)]

/-- A roster that is made of the members of another one answers like it. -/
theorem responses_ofList_members (r : Roster) (requests : List Request) :
    (ofList r.members).responses requests = r.responses requests := by
  rw [responses_eq, responses_eq, members_ofList r.nodup_members]

/-- Whatever is asked of a roster that was made of an array, it behaves as a list without
repetition.  Its two maps are inverse to each other, every place lies before the next one, and
there are no more places than arrivals.  The array is taken over with every repeated account on its
first place; after that the members are the accounts that arrived and did not leave since, each
once, in the order of their latest entries.  Every further request is answered from the list of
the members, and a roster that is made anew of them gives the same answers. -/
theorem behaves_as_list (arrivals : List Address) (requests : List Request) :
    let history := arrivals.map .insert ++ requests
    let places := Placement.empty.performAll history
    let r := (ofList arrivals).performAll requests
    r.toPlacement = places ∧ places.Sound ∧ places.next ≤ history.countP Request.isArrival ∧
    (ofList arrivals).members = arrivals.eraseDups ∧
    r.members.Nodup ∧
    (∀ a, a ∈ r.members ↔ ∃ place, LatestEntry history a place) ∧
    (r.members.Pairwise fun a b => ∃ place later,
      LatestEntry history a place ∧ LatestEntry history b later ∧ place < later) ∧
    (∀ further, r.responses further = answersFrom r.members further) ∧
    ∀ further, (ofList r.members).responses further = r.responses further := by
  intro history places r
  have hr : r = empty.performAll history := by
    rw [show r = (ofList arrivals).performAll requests from rfl, ofList_eq_performAll]
    exact List.foldl_append.symm
  have horder : InOrder history r.members := by
    rw [hr, members_performAll]
    exact inOrder_foldl history
  refine ⟨?_, Placement.sound_empty.performAll history, ?_, members_ofList_eq_eraseDups arrivals,
    r.nodup_members, horder.mem_iff, horder.ascending, r.responses_eq,
    r.responses_ofList_members⟩
  · rw [hr]
    exact toPlacement_performAll empty history
  · exact (Placement.empty.next_performAll_le history).trans (Nat.le_of_eq (Nat.zero_add _))

/-- An account that is repeated keeps its place, and one that comes back goes to the end. -/
example :
    let r := (ofList [.ofLow 5, .ofLow 3, .ofLow 5]).performAll
      [.insert (.ofLow 9), .erase (.ofLow 5), .insert (.ofLow 3), .insert (.ofLow 5)]
    r.next = 4 ∧ r.members = [.ofLow 3, .ofLow 9, .ofLow 5] ∧
      r.slice 1 9 = [.ofLow 9, .ofLow 5] := by
  decide

end Roster

end CouponBond
