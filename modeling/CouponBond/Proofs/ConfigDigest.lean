import CouponBond.Proofs.BondReachable
import CouponBond.Proofs.CanonicalText
import CouponBond.Proofs.IdentifierTexts
import CouponBond.Proofs.WireRoundTrips

/-!
# What the digest of a configuration identifies

A saved state names the configuration that it was taken under by a digest of its canonical text.
The text identifies the configuration, so a state passes for one of another configuration only if
two different messages have one digest.

## Main Definitions

* `Sha256.Collide` — two messages with one digest
* `Json.message` — the bytes that are digested
* `Bond.PassesHash` — a saved state passes the check of its digest

## Main Results

* `Json.hash_eq_iff` — equal digests mean equal values or a collision
* `Config.canonicalText_eq_iff` — the text identifies the configuration
* `Bond.passesHash_iff` — the digest is the only thing that is compared
* `Config.hash_identifies` — all of it
-/

namespace CouponBond

open Wire

/-! ### Digests -/

namespace Sha256

/-- Two messages with one digest. -/
def Collide (message message' : List UInt8) : Prop :=
  message ≠ message' ∧ digest message = digest message'

/-- Bytes are known by their hexadecimal text. -/
theorem eq_of_flatMap_fixed_eq {bs bs' : List UInt8}
    (h : (bs.flatMap fun b => Hex.fixed 2 b.toNat) = bs'.flatMap fun b => Hex.fixed 2 b.toNat) :
    bs = bs' := by
  have hlength : ∀ b : UInt8, (Hex.fixed 2 b.toNat).length = 2 := fun b => Hex.length_fixed 2 _
  have hempty : ∀ (b : UInt8) (rest : List Char), [] ≠ Hex.fixed 2 b.toNat ++ rest := by
    intro b rest hnil
    have hsize := congrArg List.length hnil
    rw [List.length_append, hlength, List.length_nil] at hsize
    omega
  induction bs generalizing bs' with
  | nil =>
    cases bs' with
    | nil => rfl
    | cons b' bs' => exact absurd h (hempty b' _)
  | cons b bs ih =>
    cases bs' with
    | nil => exact absurd h.symm (hempty b _)
    | cons b' bs' =>
      rw [List.flatMap_cons, List.flatMap_cons] at h
      obtain ⟨hfirst, hrest⟩ := List.append_inj h ((hlength b).trans (hlength b').symm)
      have hread : ∀ b : UInt8, Hex.number? (Hex.fixed 2 b.toNat) = some b.toNat := fun b =>
        Hex.number?_fixed b.toNat_lt
      have hsame := hread b
      rw [hfirst, hread b'] at hsame
      rw [UInt8.toNat_inj.mp (Option.some.inj hsame).symm, ih hrest]

theorem hexDigest_eq_iff {message message' : List UInt8} :
    hexDigest message = hexDigest message' ↔ digest message = digest message' := by
  refine ⟨fun h => eq_of_flatMap_fixed_eq (String.ofList_injective h), fun h => ?_⟩
  rw [hexDigest, h, hexDigest]

end Sha256

namespace Json

variable {j j' : Json}

/-- The bytes that are digested for a value. -/
def message (j : Json) : List UInt8 := Identifier.bytes j.canonicalText.toList

theorem message_eq_iff : j.message = j'.message ↔ j.canonicalText = j'.canonicalText := by
  refine ⟨fun h => ?_, fun h => by rw [message, message, h]⟩
  have hbytes := congrArg List.toByteArray h
  rw [message, message, Identifier.toByteArray_bytes, Identifier.toByteArray_bytes] at hbytes
  exact String.toByteArray_inj.mp hbytes

/-- Two values have one digest when they are equal up to the order of members, or their messages
are two with one digest. -/
theorem hash_eq_iff (h : j.FloatFree) (h' : j'.FloatFree) :
    j.hash = j'.hash ↔ j.Same j' ∨ Sha256.Collide j.message j'.message := by
  have hdigest : j.hash = j'.hash ↔ Sha256.digest j.message = Sha256.digest j'.message :=
    Sha256.hexDigest_eq_iff
  rw [hdigest, ← canonicalText_eq_iff h h', ← message_eq_iff]
  by_cases hmessage : j.message = j'.message
  · simp [hmessage]
  · simp [hmessage, Sha256.Collide]

end Json

/-! ### Configurations -/

namespace Json

variable {name : String} {value : Json} {members : List (String × Json)}

theorem perm_insertMember (hnew : name ∉ members.map Prod.fst) :
    (insertMember name value members).Perm ((name, value) :: members) := by
  induction members with
  | nil => exact .refl _
  | cons first rest ih =>
    obtain ⟨n, v⟩ := first
    rw [List.map_cons, List.mem_cons, not_or] at hnew
    rw [insertMember, if_neg hnew.1]
    split
    · exact .refl _
    · exact ((ih hnew.2).cons _).trans (.swap _ _ _)

/-- Members with different names are only put in order. -/
theorem perm_sortMembers (hnodup : (members.map Prod.fst).Nodup) :
    (sortMembers members).Perm members := by
  induction members using List.reverseRecOn with
  | nil => exact .refl _
  | append_singleton members m ih =>
    rw [List.map_append, List.map_singleton, List.nodup_append] at hnodup
    obtain ⟨hfront, -, hapart⟩ := hnodup
    have hnew : m.1 ∉ (sortMembers members).map Prod.fst := by
      rw [((ih hfront).map Prod.fst).mem_iff]
      exact fun hmem => hapart _ hmem _ (List.mem_singleton_self _) rfl
    rw [sortMembers_append]
    exact (perm_insertMember hnew).trans (((ih hfront).cons m).trans
      (List.perm_append_singleton m members).symm)

/-- A record without nested parts is sorted into another style of itself. -/
theorem restyled_canonical (hnodup : (members.map Prod.fst).Nodup)
    (hleaf : ∀ m ∈ members, m.2.isLeaf = true) :
    (Json.obj members).Restyled (Json.obj members).canonical := by
  have hsame : canonicalMembers members = members := by
    rw [canonicalMembers_eq_map]
    refine (List.map_congr_left fun m hm => ?_).trans (List.map_id members)
    rw [canonical_of_isLeaf (hleaf m hm)]
    rfl
  have hperm : (sortMembers members).Perm (members ++ []) := by
    rw [List.append_nil]
    exact perm_sortMembers hnodup
  rw [canonical, hsame]
  exact .obj (RestyledMembers.refl members) hperm (fun _ hm => absurd hm List.not_mem_nil)
    fun hsome => absurd rfl hsome

end Json

namespace Config

theorem floatFree_encode (c : Config) : (encode c).FloatFree := by
  have hword : ∀ n : UInt64, (encode n).FloatFree := fun n =>
    .int (Bounded.fits_depth n).1 (Bounded.fits_depth n).2
  have hbyte : ∀ n : UInt8, (encode n).FloatFree := fun n =>
    .int (Bounded.fits_depth n).1 (Bounded.fits_depth n).2
  refine .obj ?_
  simp only [List.forall_mem_cons]
  exact ⟨.str _, .str _, hword _, hbyte _, hbyte _, hword _, hword _, .bool _, nofun⟩

theorem restyled_canonical (c : Config) : (encode c).Restyled (encode c).canonical := by
  refine Json.restyled_canonical (by decide : fieldNames.Nodup) ?_
  simp only [List.forall_mem_cons]
  exact ⟨rfl, rfl, rfl, rfl, rfl, rfl, rfl, rfl, nofun⟩

/-- The canonical text of a configuration identifies it in every field. -/
theorem canonicalText_eq_iff {c c' : Config} :
    (encode c).canonicalText = (encode c').canonicalText ↔ c = c' := by
  refine ⟨fun h => ?_, fun h => by rw [h]⟩
  have hsame := (Json.canonicalText_eq_iff c.floatFree_encode c'.floatFree_encode).mp h
  -- both are read of what they are sorted into
  have hread := readsAs_self c _ c.restyled_canonical .plain
  rw [hsame.canonical_eq, readsAs_self c' _ c'.restyled_canonical .plain] at hread
  exact (Option.some.inj hread).symm

theorem hash_eq_iff {c c' : Config} :
    c.hash = c'.hash ↔ c = c' ∨ Sha256.Collide (encode c).message (encode c').message := by
  have hvalues := Json.hash_eq_iff c.floatFree_encode c'.floatFree_encode
  rwa [← Json.canonicalText_eq_iff c.floatFree_encode c'.floatFree_encode,
    canonicalText_eq_iff] at hvalues

end Config

/-! ### Saved states -/

namespace Bond

/-- A state passes the check of its digest, whether or not it passes those behind it. -/
def PassesHash (config : Config) (text : String) : Prop :=
  config.check = .ok () ∧ (∃ saved : Checkpoint, decodeText? text = some saved) ∧
    ∀ found expected, load config text ≠ .error (.invalidConfig (.hashMismatch found expected))

theorem passesHash_iff {config : Config} {text : String} :
    PassesHash config text ↔ config.check = .ok () ∧
      ∃ saved : Checkpoint, decodeText? text = some saved ∧ saved.configHash = config.hash := by
  refine and_congr_right fun hconfig => ?_
  constructor
  · rintro ⟨⟨saved, hsaved⟩, hload⟩
    refine ⟨saved, hsaved, ?_⟩
    by_contra hhash
    refine hload saved.configHash config.hash ?_
    unfold load restore
    simp only [hconfig, hsaved, ne_eq, hhash, not_false_eq_true, if_true]
  · rintro ⟨saved, hsaved, hhash⟩
    refine ⟨⟨saved, hsaved⟩, fun found expected hload => ?_⟩
    unfold load restore at hload
    simp only [hconfig, hsaved, ne_eq, hhash, not_true_eq_false, if_false] at hload
    split at hload <;> cases hload

end Bond

/-- The digest of a configuration identifies it.  Canonical texts of values are equal exactly when
the values are equal up to the order of members, those of configurations exactly when these are
equal in every field, and a state that was saved under one configuration passes the check of its
digest under another one only if two different messages have one digest. -/
theorem Config.hash_identifies :
    (∀ j j' : Json, j.FloatFree → j'.FloatFree →
      (j.canonicalText = j'.canonicalText ↔ j.Same j')) ∧
    (∀ c c' : Config, (encode c).canonicalText = (encode c').canonicalText ↔ c = c') ∧
    ∀ (config owner : Config) (text : String) (saved : Checkpoint),
      decodeText? text = some saved → saved.configHash = owner.hash →
        (Bond.PassesHash config text ↔ config.check = .ok () ∧
          (config = owner ∨ Sha256.Collide (encode config).message (encode owner).message)) := by
  refine ⟨fun _ _ => Json.canonicalText_eq_iff, fun _ _ => canonicalText_eq_iff,
    fun config owner text saved hsaved howner => ?_⟩
  rw [Bond.passesHash_iff, ← hash_eq_iff]
  refine and_congr_right fun _ => ⟨?_, fun h => ⟨saved, hsaved, howner.trans h.symm⟩⟩
  rintro ⟨found, hfound, hhash⟩
  obtain rfl := Option.some.inj (hsaved.symm.trans hfound)
  exact hhash.symm.trans howner

/-- The order of members does not matter at any depth, one more decimal place of the token does, and
a saved bond passes under its own configuration. -/
theorem Config.sample_hash_identifies :
    (Json.obj [("b", .obj [("d", .int 3), ("c", .int 2)]), ("a", .int 1)]).canonicalText =
      (Json.obj [("a", .int 1), ("b", .obj [("c", .int 2), ("d", .int 3)])]).canonicalText ∧
    (encode Bond.sampleConfig).canonicalText ≠
      (encode { Bond.sampleConfig with tokenDecimals := 1 }).canonicalText ∧
    Bond.PassesHash Bond.sampleConfig (Bond.sampleBond.save 5) := by
  obtain ⟨htexts, hconfigs, hsaved⟩ := Config.hash_identifies
  have hone : (Json.int 1).FloatFree := .int (by decide) (by decide)
  have htwo : (Json.int 2).FloatFree := .int (by decide) (by decide)
  have hthree : (Json.int 3).FloatFree := .int (by decide) (by decide)
  refine ⟨(htexts _ _ ?_ ?_).mpr (Json.canonical_eq_iff.mp rfl),
    (not_congr (hconfigs _ _)).mpr (by decide), ?_⟩
  · refine .obj (List.forall_mem_cons.mpr ⟨.obj ?_, List.forall_mem_singleton.mpr hone⟩)
    exact List.forall_mem_cons.mpr ⟨hthree, List.forall_mem_singleton.mpr htwo⟩
  · refine .obj (List.forall_mem_cons.mpr ⟨hone, List.forall_mem_singleton.mpr (.obj ?_)⟩)
    exact List.forall_mem_cons.mpr ⟨htwo, List.forall_mem_singleton.mpr hthree⟩
  · have hconfig : Bond.sampleBond.config = Bond.sampleConfig := rfl
    have howner : (Bond.sampleBond.checkpoint 5).reread.configHash = Bond.sampleConfig.hash :=
      congrArg Config.hash hconfig
    exact (hsaved _ Bond.sampleConfig _ _ (Checkpoint.decodeText?_print _) howner).mpr
      ⟨rfl, .inl rfl⟩

end CouponBond
