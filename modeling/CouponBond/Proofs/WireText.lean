import CouponBond.Proofs.JsonText
import CouponBond.Wire.Basic
import Mathlib.Algebra.Ring.Nat

/-!
# Reading undoes writing: scalars

The texts of accounts, partitions, bonds and numbers stand for what they were written from,
alone and as the names of the members of a map.

## Main Results

* `Identifier.read_write` — accounts and partitions
* `BondId.parse?_text` — bonds
* `Word256.parse?_text` — numbers of 256 bits
* `readNumberKey?_keyText` — numbers as names
-/

namespace CouponBond

/-! ### Digits -/

namespace Hex

theorem exists_digit_of_mem_fixed {width n : Nat} {c : Char} (h : c ∈ fixed width n) :
    ∃ d < 16, c = digit d := by
  induction width generalizing n with
  | zero => cases h
  | succ w ih =>
    rw [fixed] at h
    rcases List.mem_append.mp h with h | h
    · exact ih h
    · exact ⟨n % 16, Nat.mod_lt _ (by decide), List.mem_singleton.mp h⟩

/-- A digit has four bits. -/
theorem capacity_eq (width : Nat) : capacity width = 2 ^ (4 * width) := by
  induction width with
  | zero => rfl
  | succ w ih =>
    rw [capacity, ih, Nat.mul_succ, Nat.pow_add]
    omega

/-- A width of digits holds every number of four times as many bits. -/
theorem toNat_lt_capacity {width size : Nat} (hsize : size = 4 * width) (bits : BitVec size) :
    bits.toNat < capacity width := by
  rw [capacity_eq, ← hsize]
  exact bits.isLt

end Hex

/-! ### Accounts and partitions -/

namespace Identifier

/-- The byte of a character that has only one. -/
def byteOf (c : Char) : UInt8 := UInt8.ofNat c.toNat

/-- Every digit is a character of one byte. -/
theorem toNat_lt_of_value? {c : Char} (h : (Hex.value? c).isSome) : c.toNat < 128 := by
  have hrange : ∀ last : Char, last.toNat < 128 → c ≤ last → c.toNat < 128 := fun last hlast hle =>
    Nat.lt_of_le_of_lt (UInt32.le_iff_toNat_le.mp hle) hlast
  unfold Hex.value? at h
  split at h
  · next hc => exact hrange '9' (by decide) hc.2
  split at h
  · next hc => exact hrange 'f' (by decide) hc.2
  split at h
  · next hc => exact hrange 'F' (by decide) hc.2
  · cases h

theorem utf8EncodeChar_of_lt {c : Char} (h : c.toNat < 128) :
    String.utf8EncodeChar c = [byteOf c] := by
  have hle : c.val.toNat ≤ 127 := Nat.le_of_lt_succ h
  simp only [String.utf8EncodeChar, hle, if_true]
  rfl

theorem byteValue?_byteOf {c : Char} (h : c.toNat < 128) :
    byteValue? (byteOf c) = Hex.value? c := by
  have hbyte : (byteOf c).toNat = c.toNat := by
    rw [byteOf, UInt8.toNat_ofNat']
    exact Nat.mod_eq_of_lt (Nat.lt_trans h (by decide))
  rw [byteValue?, hbyte, Char.ofNat_toNat]

theorem bytes_cons_of_lt {c : Char} (h : c.toNat < 128) (cs : List Char) :
    bytes (c :: cs) = byteOf c :: bytes cs := by
  rw [bytes, List.flatMap_cons, utf8EncodeChar_of_lt h]
  rfl

/-- Digits are one byte each. -/
theorem length_bytes {cs : List Char} (h : ∀ c ∈ cs, (Hex.value? c).isSome) :
    (bytes cs).length = cs.length := by
  induction cs with
  | nil => rfl
  | cons c cs ih =>
    rw [List.forall_mem_cons] at h
    rw [bytes_cons_of_lt (toNat_lt_of_value? h.1), List.length_cons, List.length_cons, ih h.2]

/-- Digits as bytes stand for the same number. -/
theorem digits_of_continue? {cs : List Char} {position acc n : Nat}
    (hn : Hex.continue? acc cs = some n) : digits position acc (bytes cs) = .ok n := by
  induction cs generalizing position acc with
  | nil =>
    cases hn
    rfl
  | cons c cs ih =>
    obtain ⟨d, hd, hrest⟩ := Option.bind_eq_some_iff.mp hn
    have hlt := toNat_lt_of_value? (Option.isSome_of_eq_some hd)
    rw [bytes_cons_of_lt hlt, digits, byteValue?_byteOf hlt, hd]
    exact ih hrest

/-- The text of an identifier stands for the identifier. -/
theorem read_write {size : Nat} (bits : BitVec (8 * size)) : read size (write bits) = .ok bits := by
  have hdigits : ∀ c ∈ Hex.fixed (2 * size) bits.toNat, (Hex.value? c).isSome := by
    intro c hc
    obtain ⟨d, hd, rfl⟩ := Hex.exists_digit_of_mem_fixed hc
    rw [Hex.value?_digit hd]
    rfl
  have hlength : (bytes (Hex.fixed (2 * size) bits.toNat)).length = 2 * size := by
    rw [length_bytes hdigits, Hex.length_fixed]
  have hfits : bits.toNat < Hex.capacity (2 * size) :=
    Hex.toNat_lt_capacity (by omega) bits
  have hnumber : digits 0 0 (bytes (Hex.fixed (2 * size) bits.toNat)) = .ok bits.toNat :=
    digits_of_continue? (Hex.number?_fixed hfits)
  have heven : ¬ 2 * size % 2 = 1 := by omega
  unfold read write
  rw [String.toList_ofList]
  simp only [hlength, heven, hnumber, if_false, if_true]
  rw [BitVec.ofNat_toNat, BitVec.setWidth_eq]

end Identifier

theorem Address.parse_text (a : Address) : Address.parse a.text = .ok a := by
  unfold Address.parse Address.text
  rw [Identifier.read_write]
  rfl

theorem Partition.parse_text (p : Partition) : Partition.parse p.text = .ok p := by
  unfold Partition.parse Partition.text
  rw [Identifier.read_write]
  rfl

/-! ### Bonds -/

namespace BondId

theorem groups_append {α : Type} {l : List α} {n : Nat} (h : l.length = n) (ns : List Nat)
    (rest : List α) : groups (n :: ns) (l ++ rest) = l :: groups ns rest := by
  subst h
  rw [groups, List.take_left, List.drop_left]

/-- Thirty-two digits fall into groups of 8, 4, 4, 4 and 12. -/
theorem exists_groups {α : Type} {l : List α} (h : l.length = 32) :
    ∃ a b c d e : List α, a.length = 8 ∧ b.length = 4 ∧ c.length = 4 ∧ d.length = 4 ∧
      e.length = 12 ∧ l = a ++ (b ++ (c ++ (d ++ e))) := by
  refine ⟨l.take 8, (l.drop 8).take 4, ((l.drop 8).drop 4).take 4,
    (((l.drop 8).drop 4).drop 4).take 4, (((l.drop 8).drop 4).drop 4).drop 4,
    ?_, ?_, ?_, ?_, ?_, ?_⟩
  · simp [h]
  · simp [h]
  · simp [h]
  · simp [h]
  · simp [h]
  · rw [List.take_append_drop, List.take_append_drop, List.take_append_drop,
      List.take_append_drop]

variable (id : BondId)

theorem plain?_fixed : plain? (Hex.fixed 32 id.bits.toNat) = some id := by
  have hlength : (Hex.fixed 32 id.bits.toNat).length = 32 := Hex.length_fixed _ _
  have hfits : id.bits.toNat < Hex.capacity 32 := Hex.toNat_lt_capacity (by decide) id.bits
  unfold plain?
  rw [if_pos hlength, Hex.number?_fixed hfits, Option.map_some, BitVec.ofNat_toNat,
    BitVec.setWidth_eq]

/-- The text of a bond identifier is its digits in groups with hyphens between them. -/
theorem exists_groups_text : ∃ a b c d e : List Char,
    (a.length = 8 ∧ b.length = 4 ∧ c.length = 4 ∧ d.length = 4 ∧ e.length = 12) ∧
      Hex.fixed 32 id.bits.toNat = a ++ (b ++ (c ++ (d ++ e))) ∧
      id.text.toList =
        a ++ (['-'] ++ (b ++ (['-'] ++ (c ++ (['-'] ++ (d ++ (['-'] ++ e))))))) := by
  have hlength : (Hex.fixed 32 id.bits.toNat).length = 32 := Hex.length_fixed _ _
  obtain ⟨a, b, c, d, e, ha, hb, hc, hd, he, hsplit⟩ := exists_groups hlength
  refine ⟨a, b, c, d, e, ⟨ha, hb, hc, hd, he⟩, hsplit, ?_⟩
  unfold text
  rw [String.toList_ofList, hsplit, groups_append ha, groups_append hb, groups_append hc,
    groups_append hd]
  simp [groups, List.intercalate, List.intersperse]

theorem length_text : id.text.toList.length = 36 := by
  obtain ⟨a, b, c, d, e, ⟨ha, hb, hc, hd, he⟩, -, htext⟩ := id.exists_groups_text
  rw [htext]
  simp [ha, hb, hc, hd, he]

theorem exists_text_eq_cons : ∃ n < 16, ∃ cs, id.text.toList = Hex.digit n :: cs := by
  obtain ⟨a, b, c, d, e, ⟨ha, -⟩, hsplit, htext⟩ := id.exists_groups_text
  cases a with
  | nil => cases ha
  | cons x a =>
    have hmem : x ∈ Hex.fixed 32 id.bits.toNat := by
      rw [hsplit]
      exact List.mem_append_left _ List.mem_cons_self
    obtain ⟨n, hn, rfl⟩ := Hex.exists_digit_of_mem_fixed hmem
    exact ⟨n, hn, _, htext⟩

theorem hyphenated?_text : hyphenated? id.text.toList = some id := by
  obtain ⟨a, b, c, d, e, ⟨ha, hb, hc, hd, he⟩, hsplit, htext⟩ := id.exists_groups_text
  have hmark : ['-'].length = 1 := rfl
  unfold hyphenated?
  rw [htext, groups_append ha, groups_append hmark, groups_append hb, groups_append hmark,
    groups_append hc, groups_append hmark, groups_append hd, groups_append hmark, groups]
  show plain? (a ++ b ++ c ++ d ++ e) = some id
  rw [List.append_assoc, List.append_assoc, List.append_assoc, ← hsplit]
  exact id.plain?_fixed

/-- The text of a bond identifier stands for the identifier. -/
theorem parse?_text : parse? id.text = some id := by
  -- the first character is a digit: neither a brace nor the start of a name
  obtain ⟨n, hn, cs, hcs⟩ := id.exists_text_eq_cons
  have hfirst : ∀ n < 16, Hex.digit n ≠ '\x7b' ∧ (Hex.digit n).toLower ≠ 'u' := by decide
  unfold parse?
  split
  · next heq =>
    rw [hcs] at heq
    exact absurd (List.cons.inj heq).1 (hfirst n hn).1
  · rw [if_neg (by rw [length_text]; decide), if_neg ?_]
    · exact id.hyphenated?_text
    · intro hname
      rw [hcs] at hname
      exact absurd (List.cons.inj hname).1 (hfirst n hn).2

end BondId

/-! ### Numbers of 256 bits -/

namespace Hex

/-- Leading zeros do not count. -/
theorem continue?_dropWhile (cs : List Char) :
    continue? 0 (cs.dropWhile (· == '0')) = continue? 0 cs := by
  induction cs with
  | nil => rfl
  | cons c rest ih =>
    rw [List.dropWhile_cons]
    split
    · next hzero =>
      rw [ih, beq_iff_eq.mp hzero]
      rfl
    · rfl

/-- A number that fits its width is read back without its leading zeros. -/
theorem number?_trimmed {width n : Nat} (h : n < capacity width) :
    number? (trimmed width n) = some n := by
  have hnumber : number? ((fixed width n).dropWhile (· == '0')) = some n :=
    (continue?_dropWhile _).trans (number?_fixed h)
  unfold trimmed
  split
  · next hnone =>
    rw [hnone] at hnumber
    exact hnumber
  · exact hnumber

theorem exists_digit_of_mem_trimmed {width n : Nat} {c : Char} (h : c ∈ trimmed width n) :
    ∃ d < 16, c = digit d := by
  unfold trimmed at h
  split at h
  · exact ⟨0, by decide, List.mem_singleton.mp h⟩
  · exact exists_digit_of_mem_fixed ((List.dropWhile_suffix _).subset h)

theorem trimmed_ne_nil (width n : Nat) : trimmed width n ≠ [] := by
  unfold trimmed
  split
  · exact List.cons_ne_nil _ _
  · next hsome => exact hsome

theorem length_trimmed_le {width : Nat} (hwidth : 0 < width) (n : Nat) :
    (trimmed width n).length ≤ width := by
  unfold trimmed
  split
  · exact hwidth
  · have hle := (List.dropWhile_suffix (· == '0') : _ <:+ fixed width n).length_le
    rwa [length_fixed] at hle

end Hex

namespace Word256

/-- Without blanks all digits count. -/
theorem counted_of_digits {cs : List Char} (h : ∀ c ∈ cs, isBlank c = false) :
    counted cs = cs := by
  have hfilter : cs.filter (fun c => !isBlank c) = cs :=
    List.filter_eq_self.mpr fun c hc => by rw [h c hc]; rfl
  unfold counted
  dsimp only
  rw [hfilter, Nat.sub_self, if_neg (by decide)]

/-- The text of a number stands for the number. -/
theorem parse?_text (w : Word256) : parse? w.text = some w := by
  have hdigits : ∀ c ∈ Hex.trimmed 64 w.toNat,
      isBlank c = false ∧ (Hex.value? c).isSome = true := by
    intro c hc
    obtain ⟨d, hd, rfl⟩ := Hex.exists_digit_of_mem_trimmed hc
    have hvalues : ∀ d < 16, isBlank (Hex.digit d) = false ∧
        (Hex.value? (Hex.digit d)).isSome = true := by decide
    exact hvalues d hd
  have hfits : w.toNat < Hex.capacity 64 := Hex.toNat_lt_capacity (by decide) w
  have hlength : ¬ 64 < (Hex.trimmed 64 w.toNat).length :=
    Nat.not_lt.mpr (Hex.length_trimmed_le (by decide) _)
  have hsome : (Hex.trimmed 64 w.toNat).isEmpty = false :=
    List.isEmpty_eq_false_iff.mpr (Hex.trimmed_ne_nil _ _)
  have hall : ((Hex.trimmed 64 w.toNat).all fun c => isBlank c || (Hex.value? c).isSome) = true :=
    List.all_eq_true.mpr fun c hc => by rw [(hdigits c hc).2, Bool.or_true]
  unfold parse? text
  rw [String.toList_ofList, unmarked]
  dsimp only
  rw [hsome, decide_eq_false hlength, if_neg (by decide), hall, if_pos rfl,
    counted_of_digits fun c hc => (hdigits c hc).1, Hex.number?_trimmed hfits, Option.map_some,
    BitVec.ofNat_toNat, BitVec.setWidth_eq]

end Word256

/-! ### Numbers as names -/

/-- Digits are written in a string as they are. -/
theorem isPlain_of_isDigit {c : Char} (h : c.isDigit = true) : Json.isPlain c = true := by
  have hlow : 48 ≤ c.toNat := by
    simp only [Char.isDigit, Bool.and_eq_true, decide_eq_true_eq] at h
    exact UInt32.le_iff_toNat_le.mp h.1
  unfold Json.isPlain
  have hquote : c ≠ '"' := by rintro rfl; exact absurd h (by decide)
  have hescape : c ≠ '\\' := by rintro rfl; exact absurd h (by decide)
  simp [hquote, hescape]
  omega

/-- No digit is a letter. -/
theorem isAlpha_of_isDigit {c : Char} (h : c.isDigit = true) : c.isAlpha = false := by
  simp only [Char.isDigit, Bool.and_eq_true, decide_eq_true_eq, UInt32.le_iff_toNat_le] at h
  delta Char.isAlpha Char.isUpper Char.isLower
  simp only [Bool.or_eq_false_iff, Bool.and_eq_false_iff, decide_eq_false_iff_not,
    UInt32.le_iff_toNat_le]
  have hnine : ('9' : Char).val.toNat = 57 := rfl
  simp_all
  omega

theorem readNumberKey?_renderNat (n : UInt64) :
    readNumberKey? (String.ofList (Json.renderNat n.toNat)) = some n := by
  have hall : (Json.renderNat n.toNat).all Char.isDigit = true :=
    List.all_eq_true.mpr Json.isDigit_of_mem_renderNat
  have hne : (Json.renderNat n.toNat).isEmpty = false :=
    List.isEmpty_eq_false_iff.mpr Nat.toDigits_ne_nil
  have hhead : ((Json.renderNat n.toNat).head? != some '0' ||
      Json.renderNat n.toNat == ['0']) = true := by
    by_cases h0 : n.toNat = 0
    · rw [h0]
      rfl
    · cases hds : Json.renderNat n.toNat with
      | nil => rfl
      | cons d ds =>
        have hd : d ≠ '0' := by
          rintro rfl
          exact Json.head_renderNat h0 ds hds
        simp [hd]
  have hlt : decide (n.toNat < UInt64.size) = true := decide_eq_true n.toNat_lt
  unfold readNumberKey?
  rw [String.toList_ofList]
  dsimp only
  rw [Json.ofDigitChars_renderNat, hall, hne, hhead, hlt, UInt64.ofNat_toNat]
  rfl

end CouponBond
