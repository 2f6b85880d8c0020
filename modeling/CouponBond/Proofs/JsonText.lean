import Mathlib.Data.List.TakeDrop
import CouponBond.Json.Reader

/-!
# Reading undoes printing

The text that is printed for a JSON value is read as the tree of the value: no blank, escape
or digit is lost, and where one value ends is never in doubt.  The values are those whose whole
numbers fit in 64 bits, that hold no other numbers and are not nested too deeply.

## Main Definitions

* `Json.Fits` — the values whose text can be read back, by the levels they may nest

## Main Results

* `Json.readString_quote` — a string literal
* `Json.readNumber_renderInt` — a whole number
* `Json.parse?_print` — a value
-/

namespace CouponBond.Json

/-! ### Values that can be read back -/

mutual

/-- The values whose text can be read back where so many levels are allowed. -/
def Fits : (levels : Nat) → Json → Prop
  | _, .null => True
  | _, .bool _ => True
  | _, .str _ => True
  | _, .int n => -(negativeLimit : Int) ≤ n ∧ n < UInt64.size
  | _, .decimal _ => False
  | levels, .arr items => 0 < levels ∧ FitsItems (levels - 1) items
  | levels, .obj members => 0 < levels ∧ FitsMembers (levels - 1) members

/-- The items of an array whose text can be read back. -/
def FitsItems : (levels : Nat) → List Json → Prop
  | _, [] => True
  | levels, item :: rest => item.Fits levels ∧ FitsItems levels rest

/-- The values of an object whose text can be read back. -/
def FitsMembers : (levels : Nat) → List (String × Json) → Prop
  | _, [] => True
  | levels, (_, value) :: rest => value.Fits levels ∧ FitsMembers levels rest

end

/-! ### Strings -/

theorem readString_plain {c : Char} (h : isPlain c = true) (sofar : LiteralSoFar)
    (rest : List Char) : readString sofar (c :: rest) = readString (sofar.push c) rest := by
  have hquote : c ≠ '"' := by rintro rfl; exact absurd h (by decide)
  have hescape : c ≠ '\\' := by rintro rfl; exact absurd h (by decide)
  rw [readString.eq_def]
  split <;> simp_all

/-- A control character is below both kinds of surrogates. -/
theorem pushUnit_of_lt {u : Nat} (h : u < 32) {sofar : LiteralSoFar} (hlead : sofar.lead? = none) :
    sofar.pushUnit u = sofar.push (Char.ofNat u) := by
  have hleading : isLeading u = false := by
    unfold isLeading
    simp
    omega
  have htrailing : isTrailing u = false := by
    unfold isTrailing
    simp
    omega
  unfold LiteralSoFar.pushUnit
  rw [hlead]
  simp only [hleading, htrailing, Bool.false_eq_true, if_false]

/-- The four digits of a control character. -/
theorem readString_unit {n : Nat} (h : n < 32) {sofar : LiteralSoFar}
    (hlead : sofar.lead? = none) (rest : List Char) :
    readString sofar ('\\' :: 'u' :: (Hex.fixed 4 n ++ rest)) =
      readString (sofar.escaped.push (Char.ofNat n)) rest := by
  have hunit : ∀ a b c d, Hex.fixed 4 n = [a, b, c, d] → unit? a b c d = some n := by
    intro a b c d hdigits
    rw [unit?, ← hdigits]
    exact Hex.number?_fixed (Nat.lt_trans h (by decide))
  obtain ⟨a, b, c, d, hdigits⟩ : ∃ a b c d, Hex.fixed 4 n = [a, b, c, d] :=
    ⟨_, _, _, _, rfl⟩
  rw [hdigits]
  show readString sofar ('\\' :: 'u' :: a :: b :: c :: d :: rest) = _
  rw [readString, hunit a b c d hdigits]
  exact congrArg (fun s => readString s rest) (pushUnit_of_lt h hlead)

/-- A character as it stands in a literal is read as the character. -/
theorem readString_escape (c : Char) {sofar : LiteralSoFar} (hlead : sofar.lead? = none)
    (rest : List Char) :
    readString sofar (escape c ++ rest) =
      readString ((if isPlain c then sofar else sofar.escaped).push c) rest := by
  unfold escape
  split
  · next h => subst h; rfl
  split
  · next h => subst h; rfl
  split
  · next h => subst h; rfl
  split
  · next h => subst h; rfl
  split
  · next h => subst h; rfl
  split
  · next h => subst h; rfl
  split
  · next h => subst h; rfl
  split
  · next h =>
    -- the other control characters are written by their numbers
    have hplain : isPlain c = false := by
      unfold isPlain
      simp
      omega
    have hunit := readString_unit h hlead rest
    rw [Char.ofNat_toNat] at hunit
    rw [hplain]
    exact hunit
  · next hquote hescape _ _ _ _ _ hlow =>
    have hplain : isPlain c = true := by
      unfold isPlain
      simp [hquote, hescape]
      omega
    rw [hplain]
    exact readString_plain hplain sofar rest

/-- What is known of a literal of which only whole characters were read. -/
theorem readString_escaped (cs : List Char) (chars : List Char) (plain : Bool)
    (rest : List Char) :
    readString ⟨chars, none, false, plain⟩ (cs.flatMap escape ++ '"' :: rest) =
      some (⟨some (String.ofList (chars.reverse ++ cs)), plain && cs.all isPlain⟩, rest) := by
  induction cs generalizing chars plain with
  | nil =>
    show readString _ ('"' :: rest) = _
    rw [readString]
    simp [LiteralSoFar.finish, LiteralSoFar.settle]
  | cons c cs ih =>
    rw [List.flatMap_cons, List.append_assoc, readString_escape c rfl]
    have hstate : (if isPlain c then (⟨chars, none, false, plain⟩ : LiteralSoFar)
        else (⟨chars, none, false, plain⟩ : LiteralSoFar).escaped).push c =
          ⟨c :: chars, none, false, plain && isPlain c⟩ := by
      cases isPlain c <;> simp [LiteralSoFar.push, LiteralSoFar.settle, LiteralSoFar.escaped]
    rw [hstate, ih]
    simp [Bool.and_assoc]

/-- A string literal is read as the string, and escapes are noticed. -/
theorem readString_quote (s : String) (rest : List Char) :
    readString .start (s.toList.flatMap escape ++ '"' :: rest) =
      some (⟨some s, s.toList.all isPlain⟩, rest) := by
  rw [LiteralSoFar.start, readString_escaped]
  simp

/-! ### Numbers -/

/-- A character that can not belong to a number in front of it. -/
def EndsNumber (rest : List Char) : Prop :=
  ∀ c cs, rest = c :: cs → c.isDigit = false ∧ c ≠ '.' ∧ c ≠ 'e' ∧ c ≠ 'E'

theorem endsNumber_nil : EndsNumber [] := nofun

theorem endsNumber_cons {c : Char} (h : c ∈ [',', ']', '}']) (cs : List Char) :
    EndsNumber (c :: cs) := by
  intro d ds hd
  cases hd
  rcases List.mem_cons.mp h with rfl | h
  · decide
  rcases List.mem_cons.mp h with rfl | h
  · decide
  rcases List.mem_cons.mp h with rfl | h
  · decide
  · cases h

theorem span_digits {ds rest : List Char} (hds : ∀ c ∈ ds, c.isDigit = true)
    (hrest : EndsNumber rest) : (ds ++ rest).span Char.isDigit = (ds, rest) := by
  rw [List.span_eq_takeWhile_dropWhile]
  have htake : (ds ++ rest).takeWhile Char.isDigit = ds := by
    rw [List.takeWhile_append_of_pos hds]
    cases rest with
    | nil => simp
    | cons c cs => simp [(hrest c cs rfl).1]
  have hdrop : (ds ++ rest).dropWhile Char.isDigit = rest := by
    rw [List.dropWhile_append_of_pos hds]
    cases rest with
    | nil => simp
    | cons c cs => simp [(hrest c cs rfl).1]
  rw [htake, hdrop]

theorem fraction?_of_endsNumber {rest : List Char} (h : EndsNumber rest) :
    fraction? rest = some ([], rest) := by
  cases rest with
  | nil => rfl
  | cons c cs =>
    have hdot := (h c cs rfl).2.1
    rw [fraction?.eq_def]
    split
    · next heq => cases heq; exact absurd rfl hdot
    · rfl

theorem exponent?_of_endsNumber {rest : List Char} (h : EndsNumber rest) :
    exponent? rest = some ([], rest) := by
  cases rest with
  | nil => rfl
  | cons c cs =>
    obtain ⟨-, -, he, hE⟩ := h c cs rfl
    have hnone : ¬ (c = 'e' ∨ c = 'E') := not_or.mpr ⟨he, hE⟩
    cases cs with
    | nil => simp only [exponent?, if_neg hnone]
    | cons d ds => simp only [exponent?, if_neg hnone]

/-- The first digit of a number that is not zero is not a zero. -/
theorem head_renderNat {n : Nat} (h : n ≠ 0) : ∀ ds, renderNat n ≠ '0' :: ds := by
  induction n using Nat.strongRecOn with
  | ind n ih =>
    intro ds hzero
    unfold renderNat at ih hzero
    by_cases hlt : n < 10
    · rw [Nat.toDigits_of_lt_base hlt] at hzero
      have hhead : n.digitChar = '0' := (List.cons.inj hzero).1
      have : n = 1 ∨ n = 2 ∨ n = 3 ∨ n = 4 ∨ n = 5 ∨ n = 6 ∨ n = 7 ∨ n = 8 ∨ n = 9 := by omega
      rcases this with rfl | rfl | rfl | rfl | rfl | rfl | rfl | rfl | rfl <;>
        exact absurd hhead (by decide)
    · rw [Nat.toDigits_of_base_le (by decide) (by omega)] at hzero
      -- the digits in front of the last one are those of a smaller number
      cases hfront : Nat.toDigits 10 (n / 10) with
      | nil => exact Nat.toDigits_ne_nil hfront
      | cons d front =>
        rw [hfront] at hzero
        have hd : d = '0' := (List.cons.inj hzero).1
        subst hd
        exact ih (n / 10) (by omega) (by omega) front hfront

theorem isDigit_of_mem_renderNat {n : Nat} : ∀ c ∈ renderNat n, c.isDigit = true :=
  fun _ hc => Nat.isDigit_of_mem_toDigits (by decide) (by decide) hc

/-- The digits of a number do not start with a zero that another one follows. -/
theorem wholePart?_renderNat (n : Nat) {rest : List Char} (h : EndsNumber rest) :
    wholePart? (renderNat n ++ rest) = some (renderNat n, rest) := by
  by_cases h0 : n = 0
  · subst h0
    rfl
  · cases hds : renderNat n with
    | nil => exact absurd hds Nat.toDigits_ne_nil
    | cons d ds =>
      have hd : d ≠ '0' := by
        rintro rfl
        exact head_renderNat h0 ds hds
      have hspan := span_digits (isDigit_of_mem_renderNat (n := n)) h
      rw [hds] at hspan
      have hdigits : digits? (d :: ds ++ rest) = some (d :: ds, rest) := by
        unfold digits?
        rw [hspan]
      rw [wholePart?.eq_def]
      split
      · next heq => exact absurd (List.cons.inj heq).1 hd
      · exact hdigits

/-- The digits of a number stand for the number. -/
theorem ofDigitChars_renderNat (n : Nat) : Nat.ofDigitChars 10 (renderNat n) 0 = n :=
  Nat.ofDigitChars_ten_toDigits

/-- Digits do not start with a sign. -/
theorem renderNat_append_ne (n : Nat) (rest ds : List Char) : renderNat n ++ rest ≠ '-' :: ds := by
  intro hsign
  cases hds : renderNat n with
  | nil => exact Nat.toDigits_ne_nil hds
  | cons d front =>
    rw [hds] at hsign
    have hd : d.isDigit = true := isDigit_of_mem_renderNat d (by rw [hds]; exact List.mem_cons_self)
    rw [(List.cons.inj hsign).1] at hd
    exact absurd hd (by decide)

/-- A whole number of at most 64 bits is read as the number. -/
theorem readNumber_renderInt {n : Int} (hlow : -(negativeLimit : Int) ≤ n)
    (hhigh : n < UInt64.size) {rest : List Char} (h : EndsNumber rest) :
    readNumber (renderInt n ++ rest) = some (.int n, rest) := by
  cases n with
  | ofNat n =>
    have hn : n < UInt64.size := Int.ofNat_lt.mp hhigh
    show readNumber (renderNat n ++ rest) = _
    unfold readNumber
    split
    next negative cs heq =>
    -- the digits of a natural number do not start with a sign
    split at heq
    · next hsign => exact absurd hsign (renderNat_append_ne n rest _)
    · cases heq
      simp only [wholePart?_renderNat n h, fraction?_of_endsNumber h,
        exponent?_of_endsNumber h, Option.bind_eq_bind, Option.bind_some, Option.pure_def]
      simp [numberOf, ofDigitChars_renderNat, hn]
  | negSucc n =>
    have hn : ¬ negativeLimit < n + 1 := by
      rw [Int.negSucc_eq] at hlow
      omega
    show readNumber ('-' :: (renderNat (n + 1) ++ rest)) = _
    unfold readNumber
    simp only [wholePart?_renderNat (n + 1) h, fraction?_of_endsNumber h,
      exponent?_of_endsNumber h, Option.bind_eq_bind, Option.bind_some, Option.pure_def]
    simp [numberOf, ofDigitChars_renderNat, hn, Int.negSucc_eq, Int.negOfNat]

/-! ### Values -/

theorem skipBlanks_cons {c : Char} (h : isBlank c = false) (cs : List Char) :
    skipBlanks (c :: cs) = c :: cs := by
  simp [skipBlanks, h]

/-- A digit or a sign starts a number and nothing else. -/
theorem readValue_number {c : Char} (h : c.isDigit = true ∨ c = '-') (levels steps : Nat)
    (cs : List Char) : readValue levels (steps + 1) (c :: cs) = readNumber (c :: cs) := by
  have hother : ∀ d, d.isDigit = false → d ≠ '-' → c ≠ d := by
    rintro d hd hsign rfl
    rcases h with h | h
    · rw [hd] at h
      cases h
    · exact hsign h
  have hblank : isBlank c = false := by
    unfold isBlank
    simp [hother ' ' (by decide) (by decide), hother '\n' (by decide) (by decide),
      hother '\r' (by decide) (by decide), hother '\t' (by decide) (by decide)]
  rw [readValue.eq_def]
  dsimp only
  rw [skipBlanks_cons hblank]
  -- every other form of a value starts with a character of its own
  split
  · next heq => exact absurd (List.cons.inj heq).1 (hother 'n' (by decide) (by decide))
  · next heq => exact absurd (List.cons.inj heq).1 (hother 't' (by decide) (by decide))
  · next heq => exact absurd (List.cons.inj heq).1 (hother 'f' (by decide) (by decide))
  · next heq => exact absurd (List.cons.inj heq).1 (hother '"' (by decide) (by decide))
  · next heq => exact absurd (List.cons.inj heq).1 (hother '[' (by decide) (by decide))
  · next heq => exact absurd (List.cons.inj heq).1 (hother '\x7b' (by decide) (by decide))
  · rfl

theorem head_renderInt (n : Int) :
    ∃ c cs, renderInt n = c :: cs ∧ (c.isDigit = true ∨ c = '-') := by
  cases n with
  | ofNat n =>
    show ∃ c cs, renderNat n = c :: cs ∧ _
    cases hds : renderNat n with
    | nil => exact absurd hds Nat.toDigits_ne_nil
    | cons d ds =>
      refine ⟨d, ds, rfl, Or.inl ?_⟩
      exact isDigit_of_mem_renderNat d (by rw [hds]; exact List.mem_cons_self)
  | negSucc n => exact ⟨'-', renderNat (n + 1), rfl, Or.inr rfl⟩

/-- The text of a value starts neither with a blank nor with the end of an array. -/
theorem head_render {j : Json} {levels : Nat} (h : j.Fits levels) :
    ∃ c cs, j.render = c :: cs ∧ isBlank c = false ∧ c ≠ ']' := by
  cases j with
  | null => exact ⟨_, _, rfl, rfl, by decide⟩
  | bool b => cases b <;> exact ⟨_, _, rfl, rfl, by decide⟩
  | str s => exact ⟨_, _, rfl, rfl, by decide⟩
  | arr items => cases items <;> exact ⟨_, _, rfl, rfl, by decide⟩
  | obj members =>
    cases members with
    | nil => exact ⟨_, _, rfl, rfl, by decide⟩
    | cons m members => exact ⟨_, _, rfl, rfl, by decide⟩
  | decimal digits => exact absurd h (by simp [Fits])
  | int n =>
    obtain ⟨c, cs, hcs, hc⟩ := head_renderInt n
    refine ⟨c, cs, hcs, ?_, ?_⟩
    · unfold isBlank
      rcases hc with hc | rfl
      · simp only [Bool.or_eq_false_iff, beq_eq_false_iff_ne]
        refine ⟨⟨⟨?_, ?_⟩, ?_⟩, ?_⟩ <;>
          · rintro rfl
            exact absurd hc (by decide)
      · decide
    · rintro rfl
      exact absurd hc (by decide)

/-- An array that has an item is read from its first item on. -/
theorem readValue_array {c : Char} (hblank : isBlank c = false) (hend : c ≠ ']')
    (levels steps : Nat) (cs : List Char) :
    readValue levels (steps + 1) ('[' :: c :: cs) =
      (readItems (levels - 1) steps [] (c :: cs)).map fun (items, rest) =>
        (atLevel levels (.arr items), rest) := by
  unfold readValue
  rw [skipBlanks_cons (rfl : isBlank '[' = false)]
  simp only [skipBlanks_cons hblank]
  split
  · next heq => exact absurd (List.cons.inj heq).1 hend
  · rfl

/-- The members of an object as they are read. -/
def readAs (members : List (String × Json)) : List (Literal × Tree) :=
  members.map fun m => (⟨some m.1, m.1.toList.all isPlain⟩, m.2.tree)

theorem objectOf_readAs (members : List (String × Json)) :
    objectOf (readAs members) = .obj (treeMembers members) := by
  have hnames : ((readAs members).mapM fun m => m.1.name?.map fun name => (name, m.2)) =
      some (treeMembers members) := by
    induction members with
    | nil => rfl
    | cons m members ih =>
      rw [readAs] at ih ⊢
      rw [List.map_cons, List.mapM_cons, ih]
      rfl
  unfold objectOf
  rw [hnames]

theorem endsNumber_renderItems (items : List Json) (rest : List Char) :
    EndsNumber (renderItems items ++ rest) := by
  cases items <;> exact endsNumber_cons (by decide) _

theorem endsNumber_renderMembers (members : List (String × Json)) (rest : List Char) :
    EndsNumber (renderMembers members ++ rest) := by
  cases members <;> exact endsNumber_cons (by decide) _

mutual

/-- The text of a value is read as the tree of the value, whatever follows it. -/
theorem readValue_render : ∀ (j : Json) (levels steps : Nat) (rest : List Char),
    j.Fits levels → EndsNumber rest → j.render.length ≤ steps →
      readValue levels steps (j.render ++ rest) = some (j.tree, rest)
  | j, _, 0, _, hfits, _, hsteps => by
    -- no text is empty, so there is a step to spend on it
    obtain ⟨c, cs, hcs, -, -⟩ := head_render hfits
    rw [hcs] at hsteps
    cases hsteps
  | .null, _, steps + 1, rest, _, _, _ => rfl
  | .bool true, _, steps + 1, rest, _, _, _ => rfl
  | .bool false, _, steps + 1, rest, _, _, _ => rfl
  | .decimal _, _, _ + 1, _, hfits, _, _ => absurd hfits (by simp [Fits])
  | .int n, levels, steps + 1, rest, hfits, hrest, _ => by
    obtain ⟨c, cs, hcs, hc⟩ := head_renderInt n
    have hread := readNumber_renderInt hfits.1 hfits.2 hrest
    rw [hcs] at hread
    rw [render, hcs]
    exact (readValue_number hc levels steps (cs ++ rest)).trans hread
  | .str s, levels, steps + 1, rest, _, _, _ => by
    show readValue levels (steps + 1) ('"' :: (s.toList.flatMap escape ++ ['"'] ++ rest)) = _
    rw [readValue.eq_def, List.append_assoc]
    dsimp only
    rw [skipBlanks_cons (by decide)]
    show (readString .start (s.toList.flatMap escape ++ '"' :: rest)).map _ = _
    rw [readString_quote]
    rfl
  | .arr [], levels, steps + 1, rest, hfits, _, _ => by
    have hlevels : levels ≠ 0 := Nat.pos_iff_ne_zero.mp hfits.1
    show some (atLevel levels (.arr []), rest) = _
    rw [atLevel, if_neg hlevels]
    rfl
  | .arr (item :: items), levels, steps + 1, rest, hfits, _, hsteps => by
    have hlevels : levels ≠ 0 := Nat.pos_iff_ne_zero.mp hfits.1
    have hitems := readItems_render (item :: items) (levels - 1) steps [] rest (by simp) hfits.2
      (Nat.le_of_succ_le_succ hsteps)
    obtain ⟨c, cs, hcs, hblank, hend⟩ := head_render hfits.2.1
    change readItems (levels - 1) steps [] (item.render ++ renderItems items ++ rest) = _ at hitems
    show readValue levels (steps + 1) ('[' :: (item.render ++ renderItems items ++ rest)) = _
    rw [hcs] at hitems ⊢
    refine (readValue_array hblank hend levels steps _).trans ?_
    refine (congrArg (Option.map _) hitems).trans ?_
    show some (atLevel levels (.arr (treeItems (item :: items))), rest) = _
    rw [atLevel, if_neg hlevels]
    rfl
  | .obj [], levels, steps + 1, rest, hfits, _, _ => by
    have hlevels : levels ≠ 0 := Nat.pos_iff_ne_zero.mp hfits.1
    show some (atLevel levels (.obj []), rest) = _
    rw [atLevel, if_neg hlevels]
    rfl
  | .obj ((name, value) :: members), levels, steps + 1, rest, hfits, _, hsteps => by
    have hlevels : levels ≠ 0 := Nat.pos_iff_ne_zero.mp hfits.1
    have hmembers := readMembers_render ((name, value) :: members) (levels - 1) steps [] rest
      (by simp) hfits.2 (Nat.le_of_succ_le_succ hsteps)
    show (readMembers (levels - 1) steps [] _).map
      (fun (members, rest) => (atLevel levels (objectOf members), rest)) = _
    refine (congrArg (Option.map _) hmembers).trans ?_
    show some (atLevel levels (objectOf (readAs ((name, value) :: members))), rest) = _
    rw [objectOf_readAs, atLevel, if_neg hlevels]
    rfl

/-- The items of an array from the first one on. -/
theorem readItems_render : ∀ (items : List Json) (levels steps : Nat) (acc : List Tree)
    (rest : List Char), items ≠ [] → FitsItems levels items →
      (renderItems items).tail.length ≤ steps →
      readItems levels steps acc ((renderItems items).tail ++ rest) =
        some (acc.reverse ++ treeItems items, rest)
  | [], _, _, _, _, hne, _, _ => absurd rfl hne
  | item :: items, _, 0, _, _, _, hfits, hsteps => by
    obtain ⟨c, cs, hcs, -, -⟩ := head_render hfits.1
    have hlength : (item.render ++ renderItems items).length ≤ 0 := hsteps
    rw [hcs] at hlength
    cases hlength
  | item :: items, levels, steps + 1, acc, rest, _, hfits, hsteps => by
    have hlength : item.render.length + (renderItems items).length ≤ steps + 1 := by
      rw [← List.length_append]
      exact hsteps
    -- a separator or the end of the array follows, which pays for the step of this item
    have hnext : 0 < (renderItems items).length := by cases items <;> exact Nat.succ_pos _
    have hitem := readValue_render item levels steps (renderItems items ++ rest) hfits.1
      (endsNumber_renderItems items rest) (by omega)
    show readItems levels (steps + 1) acc (item.render ++ renderItems items ++ rest) = _
    rw [readItems, List.append_assoc, hitem]
    cases items with
    | nil =>
      show some ((item.tree :: acc).reverse, rest) = _
      rw [List.reverse_cons]
      rfl
    | cons next items =>
      show readItems levels steps (item.tree :: acc) ((renderItems (next :: items)).tail ++ rest) =
        _
      rw [readItems_render (next :: items) levels steps (item.tree :: acc) rest (by simp) hfits.2
        (Nat.le_of_succ_le_succ (Nat.le_trans (Nat.le_add_left _ _) hlength))]
      rw [List.reverse_cons, List.append_assoc]
      rfl

/-- The members of an object from the first one on. -/
theorem readMembers_render : ∀ (members : List (String × Json)) (levels steps : Nat)
    (acc : List (Literal × Tree)) (rest : List Char), members ≠ [] → FitsMembers levels members →
      (renderMembers members).tail.length ≤ steps →
      readMembers levels steps acc ((renderMembers members).tail ++ rest) =
        some (acc.reverse ++ readAs members, rest)
  | [], _, _, _, _, hne, _, _ => absurd rfl hne
  | (_, _) :: _, _, 0, _, _, _, _, hsteps => absurd hsteps (Nat.not_succ_le_zero _)
  | (name, value) :: members, levels, steps + 1, acc, rest, _, hfits, hsteps => by
    have hlength : (quote name).length + (1 + (value.render.length +
        (renderMembers members).length)) ≤ steps + 1 := by
      have : (quote name ++ ':' :: (value.render ++ renderMembers members)).length ≤ steps + 1 :=
        hsteps
      rw [List.length_append, List.length_cons, List.length_append] at this
      omega
    have hnext : 0 < (renderMembers members).length := by cases members <;> exact Nat.succ_pos _
    have hvalue := readValue_render value levels steps (renderMembers members ++ rest) hfits.1
      (endsNumber_renderMembers members rest) (by omega)
    have hname := readString_quote name (':' :: (value.render ++ (renderMembers members ++ rest)))
    have htext : (renderMembers ((name, value) :: members)).tail ++ rest = '"' ::
        (name.toList.flatMap escape ++ '"' :: ':' ::
          (value.render ++ (renderMembers members ++ rest))) := by
      show quote name ++ ':' :: (value.render ++ renderMembers members) ++ rest = _
      simp [quote]
    have hmark : isBlank '"' = false := by decide
    have hcolon : isBlank ':' = false := by decide
    rw [htext]
    simp only [readMembers, skipBlanks_cons hmark, hname, skipBlanks_cons hcolon, hvalue]
    cases members with
    | nil =>
      show some ((_ :: acc).reverse, rest) = _
      rw [List.reverse_cons]
      rfl
    | cons next members =>
      show readMembers levels steps (_ :: acc) ((renderMembers (next :: members)).tail ++ rest) = _
      rw [readMembers_render (next :: members) levels steps _ rest (by simp) hfits.2 (by
        have : (renderMembers (next :: members)).tail.length <
          (renderMembers (next :: members)).length := by
            rw [List.length_tail]
            omega
        omega)]
      rw [List.reverse_cons, List.append_assoc]
      rfl

end

/-- Reading a text that was printed gives the tree of the value. -/
theorem parse?_print {j : Json} (h : j.Fits levelLimit) : Tree.parse? j.print = some j.tree := by
  have hread := readValue_render j levelLimit (2 * j.render.length + 2) [] h endsNumber_nil
    (by omega)
  rw [List.append_nil] at hread
  unfold Tree.parse? print
  rw [String.toList_ofList]
  dsimp only
  rw [hread]
  rfl

end CouponBond.Json
