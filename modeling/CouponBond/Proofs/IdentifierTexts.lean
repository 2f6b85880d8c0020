import CouponBond.Proofs.WireText
import Mathlib.Data.List.Induction

/-!
# The texts of identifiers

An identifier is read of exactly one kind of text: the mark `0x` and two digits for each byte.  Of
the texts that are no identifiers, each is refused for the first thing that is wrong with it, in
this order: the mark is missing, the digits do not come in pairs, a byte is no digit, there are too
many or too few of them.

A text is judged by its bytes, and only the digits that are counted in the end are characters.  No
part of a character of several bytes is a digit, so the two ways of looking at a text agree on what
an identifier is.

## Main Definitions

* `Hex.IsDigit` — a hexadecimal digit in either case
* `Identifier.IsText` — the texts of identifiers of a size
* `Identifier.FirstBad` — the first byte of a text that is no digit
* `Identifier.ReadsTexts` — a reader of identifiers accepts their texts and refuses all others

## Main Results

* `Identifier.exists_digits_eq_error` — the byte that is reported
* `Hex.fixed_of_continue?` — digits are written as they were read, in lower case
* `Identifier.texts_read_exactly` — accounts and partitions
-/

namespace CouponBond

/-! ### Digits -/

namespace Hex

/-- A digit in either case. -/
def IsDigit (c : Char) : Prop :=
  '0' ≤ c ∧ c ≤ '9' ∨ 'a' ≤ c ∧ c ≤ 'f' ∨ 'A' ≤ c ∧ c ≤ 'F'

theorem isSome_value?_iff {c : Char} : (value? c).isSome ↔ IsDigit c := by
  unfold value? IsDigit
  split
  · next h => simp [h]
  split
  · next h => simp [h]
  split
  · next h => simp [h]
  · next h₁ h₂ h₃ => simp [h₁, h₂, h₃]

/-- A digit is written back in lower case. -/
theorem digit_of_value? {c : Char} {d : Nat} (h : value? c = some d) :
    d < 16 ∧ digit d = c.toLower := by
  have hlow : ∀ code < 128, ∀ d ∈ value? (Char.ofNat code),
      d < 16 ∧ digit d = (Char.ofNat code).toLower := by decide
  have hc := hlow c.toNat (Identifier.toNat_lt_of_value? (Option.isSome_of_eq_some h))
  rw [Char.ofNat_toNat] at hc
  exact hc d h

/-- Characters that stand for a number are digits. -/
theorem isDigit_of_continue? {acc n : Nat} {cs : List Char} (h : continue? acc cs = some n) :
    ∀ c ∈ cs, IsDigit c := by
  induction cs generalizing acc with
  | nil => exact fun _ hc => nomatch hc
  | cons c cs ih =>
    obtain ⟨d, hd, hrest⟩ := Option.bind_eq_some_iff.mp h
    exact List.forall_mem_cons.mpr
      ⟨isSome_value?_iff.mp (Option.isSome_of_eq_some hd), ih hrest⟩

/-- Digits stand for a number. -/
theorem exists_number? {cs : List Char} (h : ∀ c ∈ cs, (value? c).isSome) :
    ∃ n, number? cs = some n := by
  have general : ∀ acc, ∃ n, continue? acc cs = some n := by
    induction cs with
    | nil => exact fun acc => ⟨acc, rfl⟩
    | cons c cs ih =>
      intro acc
      rw [List.forall_mem_cons] at h
      obtain ⟨d, hd⟩ := Option.isSome_iff_exists.mp h.1
      rw [continue?, hd]
      exact ih h.2 _
  exact general 0

/-- Digits are written as they were read, in lower case, and what they stand for fits them. -/
theorem fixed_of_continue? {cs : List Char} {n : Nat} (h : number? cs = some n) :
    fixed cs.length n = cs.map Char.toLower ∧ n < capacity cs.length := by
  induction cs using List.reverseRecOn generalizing n with
  | nil =>
    cases h
    exact ⟨rfl, Nat.one_pos⟩
  | append_singleton cs c ih =>
    -- the last digit is the one that is written last
    rw [number?, continue?_append] at h
    obtain ⟨front, hfront, hlast⟩ := Option.bind_eq_some_iff.mp h
    obtain ⟨d, hd, hn⟩ := Option.bind_eq_some_iff.mp hlast
    obtain rfl : 16 * front + d = n := Option.some.inj hn
    obtain ⟨hlt, hdigit⟩ := digit_of_value? hd
    obtain ⟨hfixed, hfits⟩ := ih hfront
    have hquot : (16 * front + d) / 16 = front := by omega
    have hrem : (16 * front + d) % 16 = d := by omega
    rw [List.length_append, List.length_singleton]
    constructor
    · rw [fixed, hquot, hrem, hfixed, hdigit, List.map_append, List.map_singleton]
    · rw [capacity]
      omega

end Hex

namespace Identifier

/-! ### Texts -/

/-- The texts of identifiers of so many bytes: the mark, and two digits for each byte. -/
def IsText (size : Nat) (s : String) : Prop :=
  ∃ digits : String, s = "0x" ++ digits ∧ digits.length = 2 * size ∧
    ∀ c ∈ digits.toList, Hex.IsDigit c

/-- A byte that is the code of a digit. -/
def IsDigitByte (b : UInt8) : Prop := Hex.IsDigit (Char.ofNat b.toNat)

/-- The first byte of a text that is no digit. -/
structure FirstBad (digits : String) (position : Nat) (b : UInt8) : Prop where
  here : digits.toUTF8.data[position]? = some b
  bad : ¬ IsDigitByte b
  before : ∀ i c, i < position → digits.toUTF8.data[i]? = some c → IsDigitByte c

/-- A reader accepts the texts of identifiers of a size, and undoes the writer up to the case of the
digits.  Every other text it refuses for the first thing that is wrong with it. -/
structure ReadsTexts {α : Type} (size : Nat) (parse : String → Except ParseIdError α)
    (text : α → String) : Prop where
  accepts_iff : ∀ s, (∃ a, parse s = .ok a) ↔ IsText size s
  text_of_parse : ∀ s a, parse s = .ok a → text a = s.toLower
  parse_text : ∀ a, parse (text a) = .ok a
  missingMark : ∀ s, (∀ digits, s ≠ "0x" ++ digits) → parse s = .error (.missingMark s)
  oddLength : ∀ digits : String, digits.utf8ByteSize % 2 = 1 →
    parse ("0x" ++ digits) = .error (.invalidHex .oddLength)
  badDigit : ∀ digits : String, digits.utf8ByteSize % 2 = 0 →
    (∃ b ∈ digits.toUTF8.data, ¬ IsDigitByte b) → ∃ position b, FirstBad digits position b ∧
      parse ("0x" ++ digits) = .error (.invalidHex (.badDigit b position))
  wrongLength : ∀ digits : String, digits.utf8ByteSize % 2 = 0 →
    (∀ b ∈ digits.toUTF8.data, IsDigitByte b) → digits.utf8ByteSize ≠ 2 * size →
      parse ("0x" ++ digits) = .error (.wrongLength size (digits.utf8ByteSize / 2))

/-! ### Bytes -/

theorem toByteArray_bytes (s : String) : (bytes s.toList).toByteArray = s.toUTF8 :=
  String.utf8Encode_toList

theorem data_toUTF8 (s : String) : s.toUTF8.data = (bytes s.toList).toArray := by
  rw [← toByteArray_bytes, List.data_toByteArray]

theorem utf8ByteSize_eq_length (s : String) : s.utf8ByteSize = (bytes s.toList).length := by
  rw [← List.size_toArray, ← data_toUTF8]
  rfl

theorem isSome_byteValue?_iff {b : UInt8} : (byteValue? b).isSome ↔ IsDigitByte b :=
  Hex.isSome_value?_iff

/-- No byte outside the lower half is a digit. -/
theorem byteValue?_of_le {b : UInt8} (h : 128 ≤ b.toNat) : byteValue? b = none := by
  have hhigh : ∀ code < 128, byteValue? (UInt8.ofNat (128 + code)) = none := by decide
  have hb := hhigh (b.toNat - 128) (by have := b.toNat_lt; omega)
  rwa [Nat.add_sub_of_le h, UInt8.ofNat_toNat] at hb

/-- A character of several bytes starts with one that is no digit. -/
theorem exists_bytes_cons_eq {c : Char} (h : 128 ≤ c.toNat) (cs : List Char) :
    ∃ b rest, bytes (c :: cs) = b :: rest ∧ byteValue? b = none := by
  have hlead : ∀ lead < 256, 128 ≤ lead → byteValue? (UInt8.ofNat lead) = none := by
    intro lead hlt hle
    refine byteValue?_of_le ?_
    rwa [UInt8.toNat_ofNat', Nat.mod_eq_of_lt hlt]
  have hhigh : ¬ c.val.toNat ≤ 127 := Nat.not_le_of_gt h
  simp only [bytes, List.flatMap_cons, String.utf8EncodeChar, hhigh, if_false]
  split
  · exact ⟨_, _, rfl, hlead _ (by omega) (by omega)⟩
  split
  · exact ⟨_, _, rfl, hlead _ (by omega) (by omega)⟩
  · exact ⟨_, _, rfl, hlead _ (by omega) (by omega)⟩

/-! ### Digits as bytes -/

/-- Bytes that stand for a number are those of characters that do. -/
theorem continue?_of_digits {cs : List Char} {position acc n : Nat}
    (h : digits position acc (bytes cs) = .ok n) : Hex.continue? acc cs = some n := by
  induction cs generalizing position acc with
  | nil =>
    cases h
    rfl
  | cons c cs ih =>
    by_cases hlow : c.toNat < 128
    · rw [bytes_cons_of_lt hlow, digits, byteValue?_byteOf hlow] at h
      cases hd : Hex.value? c with
      | none =>
        rw [hd] at h
        cases h
      | some d =>
        rw [hd] at h
        rw [Hex.continue?, hd]
        exact ih h
    · obtain ⟨b, rest, hbytes, hb⟩ := exists_bytes_cons_eq (Nat.not_lt.mp hlow) cs
      rw [hbytes, digits, hb] at h
      cases h

/-- Bytes that are all digits stand for a number. -/
theorem exists_digits_eq_ok {bs : List UInt8} (h : ∀ b ∈ bs, IsDigitByte b) (position acc : Nat) :
    ∃ n, digits position acc bs = .ok n := by
  induction bs generalizing position acc with
  | nil => exact ⟨acc, rfl⟩
  | cons b bs ih =>
    rw [List.forall_mem_cons] at h
    obtain ⟨d, hd⟩ := Option.isSome_iff_exists.mp (isSome_byteValue?_iff.mpr h.1)
    rw [digits, hd]
    exact ih h.2 _ _

/-- Of bytes that are not all digits, the first one that is none is reported. -/
theorem exists_digits_eq_error {bs : List UInt8} (h : ∃ b ∈ bs, ¬ IsDigitByte b)
    (position acc : Nat) : ∃ i b, bs[i]? = some b ∧ ¬ IsDigitByte b ∧
      (∀ j c, j < i → bs[j]? = some c → IsDigitByte c) ∧
      digits position acc bs = .error (.badDigit b (position + i)) := by
  induction bs generalizing position acc with
  | nil =>
    obtain ⟨b, hb, -⟩ := h
    cases hb
  | cons first bs ih =>
    cases hfirst : byteValue? first with
    | none =>
      have hbad : ¬ IsDigitByte first := fun hdigit => by
        have hsome := isSome_byteValue?_iff.mpr hdigit
        rw [hfirst] at hsome
        cases hsome
      refine ⟨0, first, rfl, hbad, fun _ _ hlt => absurd hlt (Nat.not_lt_zero _), ?_⟩
      rw [digits, hfirst]
      rfl
    | some d =>
      have hgood : IsDigitByte first :=
        isSome_byteValue?_iff.mp (Option.isSome_of_eq_some hfirst)
      have hlater : ∃ b ∈ bs, ¬ IsDigitByte b := by
        obtain ⟨b, hb, hbad⟩ := h
        rcases List.mem_cons.mp hb with rfl | hb
        · exact absurd hgood hbad
        · exact ⟨b, hb, hbad⟩
      obtain ⟨i, b, hat, hbad, hbefore, herror⟩ := ih hlater (position + 1) (16 * acc + d)
      refine ⟨i + 1, b, hat, hbad, fun j c hlt hc => ?_, ?_⟩
      · cases j with
        | zero =>
          cases hc
          exact hgood
        | succ j => exact hbefore j c (Nat.lt_of_succ_lt_succ hlt) hc
      · rw [digits, hfirst]
        refine herror.trans ?_
        rw [Nat.add_assoc, Nat.add_comm 1 i]

/-! ### Reading -/

variable {size : Nat}

/-- What is read of a text behind the mark. -/
theorem read_marked (size : Nat) (digits : String) : read size ("0x" ++ digits) =
    if digits.utf8ByteSize % 2 = 1 then .error (.invalidHex .oddLength)
    else
      match Identifier.digits 0 0 (bytes digits.toList) with
      | .error e => .error (.invalidHex e)
      | .ok n =>
        if digits.utf8ByteSize = 2 * size then .ok (BitVec.ofNat (8 * size) n)
        else .error (.wrongLength size (digits.utf8ByteSize / 2)) := by
  have hmark : ("0x" ++ digits).toList = '0' :: 'x' :: digits.toList := String.toList_append
  rw [utf8ByteSize_eq_length]
  unfold read
  rw [hmark]
  rfl

theorem read_unmarked {s : String} (h : ∀ digits, s ≠ "0x" ++ digits) :
    read size s = .error (.missingMark s) := by
  unfold read
  split
  · next rest hs =>
    have hrest : (String.ofList rest).toList = rest := String.toList_ofList
    refine absurd (String.toList_inj.mp ?_) (h (String.ofList rest))
    rw [hs, String.toList_append, hrest]
    rfl
  · rfl

/-- A text that stands for an identifier is the mark and its digits. -/
theorem exists_number_of_read {s : String} {bits : BitVec (8 * size)}
    (h : read size s = .ok bits) : ∃ (digits : String) (n : Nat), s = "0x" ++ digits ∧
      digits.length = 2 * size ∧ Hex.number? digits.toList = some n ∧
      bits = BitVec.ofNat (8 * size) n := by
  by_cases hmarked : ∃ digits, s = "0x" ++ digits
  · obtain ⟨digits, rfl⟩ := hmarked
    rw [read_marked] at h
    split at h
    · cases h
    split at h
    · cases h
    next n hn =>
    split at h
    · next hsize =>
      have hnumber : Hex.number? digits.toList = some n := continue?_of_digits hn
      refine ⟨digits, n, rfl, ?_, hnumber, (Except.ok.inj h).symm⟩
      have hdigits := Hex.isDigit_of_continue? hnumber
      rw [← String.length_toList,
        ← length_bytes fun c hc => Hex.isSome_value?_iff.mpr (hdigits c hc),
        ← utf8ByteSize_eq_length, hsize]
    · cases h
  · rw [read_unmarked fun digits hs => hmarked ⟨digits, hs⟩] at h
    cases h

/-- What is read of an identifier's text is written as that text, in lower case. -/
theorem write_of_read {s : String} {bits : BitVec (8 * size)} (h : read size s = .ok bits) :
    write bits = s.toLower := by
  obtain ⟨digits, n, rfl, hlength, hnumber, rfl⟩ := exists_number_of_read h
  obtain ⟨hfixed, hfits⟩ := Hex.fixed_of_continue? hnumber
  rw [String.length_toList, hlength] at hfixed hfits
  have hbits : (BitVec.ofNat (8 * size) n).toNat = n := by
    rw [BitVec.toNat_ofNat]
    refine Nat.mod_eq_of_lt ?_
    rw [Hex.capacity_eq] at hfits
    rwa [show 8 * size = 4 * (2 * size) by omega]
  have hlower : ∀ s : String, s.toLower = s.map Char.toLower := fun _ => rfl
  refine String.toList_inj.mp ?_
  rw [write, hbits, hfixed, String.toList_ofList, hlower, String.toList_map,
    String.toList_append, List.map_append]
  rfl

/-- A text of the grammar stands for an identifier. -/
theorem IsText.exists_read {s : String} (h : IsText size s) : ∃ bits, read size s = .ok bits := by
  obtain ⟨digits, rfl, hlength, hdigits⟩ := h
  have hvalues : ∀ c ∈ digits.toList, (Hex.value? c).isSome := fun c hc =>
    Hex.isSome_value?_iff.mpr (hdigits c hc)
  obtain ⟨n, hn⟩ := Hex.exists_number? hvalues
  have hsize : digits.utf8ByteSize = 2 * size := by
    rw [utf8ByteSize_eq_length, length_bytes hvalues, String.length_toList, hlength]
  have heven : ¬ 2 * size % 2 = 1 := by omega
  refine ⟨BitVec.ofNat (8 * size) n, ?_⟩
  rw [read_marked, hsize, if_neg heven, digits_of_continue? hn]
  exact if_pos rfl

theorem isText_of_read {s : String} {bits : BitVec (8 * size)} (h : read size s = .ok bits) :
    IsText size s := by
  obtain ⟨digits, n, rfl, hlength, hnumber, -⟩ := exists_number_of_read h
  exact ⟨digits, rfl, hlength, Hex.isDigit_of_continue? hnumber⟩

theorem readsTexts_read (size : Nat) : ReadsTexts size (read size) write where
  accepts_iff s := ⟨fun ⟨_, h⟩ => isText_of_read h, IsText.exists_read⟩
  text_of_parse _ _ := write_of_read
  parse_text := read_write
  missingMark _ := read_unmarked
  oddLength digits hodd := by
    rw [read_marked, if_pos hodd]
  badDigit digits heven hbad := by
    have hbad : ∃ b ∈ bytes digits.toList, ¬ IsDigitByte b := by
      obtain ⟨b, hb, hnone⟩ := hbad
      rw [data_toUTF8, List.mem_toArray] at hb
      exact ⟨b, hb, hnone⟩
    obtain ⟨i, b, hat, hnone, hbefore, herror⟩ := exists_digits_eq_error hbad 0 0
    refine ⟨i, b, ⟨?_, hnone, fun j c hlt hc => ?_⟩, ?_⟩
    · rw [data_toUTF8, List.getElem?_toArray]
      exact hat
    · rw [data_toUTF8, List.getElem?_toArray] at hc
      exact hbefore j c hlt hc
    · rw [read_marked, if_neg (by omega), herror, Nat.zero_add]
  wrongLength digits heven hall hsize := by
    have hdigits : ∀ b ∈ bytes digits.toList, IsDigitByte b := fun b hb =>
      hall b (by rwa [data_toUTF8, List.mem_toArray])
    obtain ⟨n, hn⟩ := exists_digits_eq_ok hdigits 0 0
    rw [read_marked, if_neg (by omega), hn]
    exact if_neg hsize

/-- Values that are identifiers under another name are read of the same texts. -/
theorem ReadsTexts.map {α β : Type} {parse : String → Except ParseIdError α} {text : α → String}
    {mk : α → β} {bits : β → α} (h : ReadsTexts size parse text)
    (hmk : Function.LeftInverse mk bits) (hbits : Function.LeftInverse bits mk) :
    ReadsTexts size (fun s => (parse s).map mk) (fun b => text (bits b)) where
  accepts_iff s := by
    rw [← h.accepts_iff]
    cases parse s <;> simp [Except.map]
  text_of_parse s b hb := by
    cases hs : parse s with
    | error e =>
      rw [hs] at hb
      cases hb
    | ok a =>
      rw [hs] at hb
      obtain rfl : mk a = b := Except.ok.inj hb
      rw [hbits]
      exact h.text_of_parse s a hs
  parse_text b := by
    rw [h.parse_text, Except.map, hmk]
  missingMark s hs := by
    rw [h.missingMark s hs, Except.map]
  oddLength digits hodd := by
    rw [h.oddLength digits hodd, Except.map]
  badDigit digits heven hbad := by
    obtain ⟨position, b, hfirst, herror⟩ := h.badDigit digits heven hbad
    exact ⟨position, b, hfirst, by rw [herror, Except.map]⟩
  wrongLength digits heven hall hsize := by
    rw [h.wrongLength digits heven hall hsize, Except.map]

/-- Accounts and partitions are read of exactly their texts, and every other text is refused for
the first thing that is wrong with it. -/
theorem texts_read_exactly :
    ReadsTexts 20 Address.parse Address.text ∧ ReadsTexts 32 Partition.parse Partition.text :=
  ⟨(readsTexts_read 20).map (fun _ => rfl) fun _ => rfl,
    (readsTexts_read 32).map (fun _ => rfl) fun _ => rfl⟩

/-- A character of several bytes is reported by the first of them. -/
example : Address.parse "0xé" = .error (.invalidHex (.badDigit 195 0)) := rfl

end Identifier

end CouponBond
