import CouponBond.SortedMap
import CouponBond.Text.Hex
import CouponBond.Text.Quoted

/-!
# Account and partition identifiers

Accounts are known by 20-byte addresses and tranches of the bond by 32-byte
partitions.  Both are written as `0x` and lower-case hexadecimal digits, two per
byte, and read in either case.

## Main Definitions

* `Address`, `Partition` — the identifiers, ordered as numbers
* `Identifier.read` — the bits behind an identifier text, or why it is none
* `ParseIdError` — the three ways in which a text is no identifier

## Design Notes

A text is judged by its bytes: an odd count is reported before any byte is looked
at, then the first byte that is no digit, and only then the length.
-/

namespace CouponBond

/-! ### Reading and writing -/

/-- What is wrong with the digits of an identifier. -/
inductive HexError where
  /-- Digits come in pairs. -/
  | oddLength
  /-- A byte is no digit; bytes are counted from the start of the digits. -/
  | badDigit (byte : UInt8) (position : Nat)
deriving DecidableEq, Repr

/-- The text of a digit error. -/
def HexError.message : HexError → String
  | .oddLength => "Odd number of digits"
  | .badDigit byte position =>
    "Invalid character " ++ Quoted.char (Char.ofNat byte.toNat) ++ " at position " ++
      toString position

/-- Why a text is no identifier. -/
inductive ParseIdError where
  | missingMark (text : String)
  | invalidHex (cause : HexError)
  | wrongLength (expected actual : Nat)
deriving DecidableEq, Repr

/-- The text of an identifier error. -/
def ParseIdError.message : ParseIdError → String
  | .missingMark text => "Identifier must start with 0x: " ++ text
  | .invalidHex cause => "Invalid hex: " ++ cause.message
  | .wrongLength expected actual =>
    "Expected " ++ toString expected ++ " bytes, got " ++ toString actual

namespace Identifier

/-- The bytes of a text. -/
def bytes (cs : List Char) : List UInt8 := cs.flatMap String.utf8EncodeChar

/-- The value of a byte that is a digit. -/
def byteValue? (b : UInt8) : Option Nat := Hex.value? (Char.ofNat b.toNat)

/-- The number behind digit bytes, or the first byte that is no digit. -/
def digits : (position acc : Nat) → List UInt8 → Except HexError Nat
  | _, acc, [] => .ok acc
  | position, acc, b :: rest =>
    match byteValue? b with
    | some d => digits (position + 1) (16 * acc + d) rest
    | none => .error (.badDigit b position)

/-- The bits of a `size`-byte identifier text. -/
def read (size : Nat) (text : String) : Except ParseIdError (BitVec (8 * size)) :=
  match text.toList with
  | '0' :: 'x' :: rest =>
    let bs := bytes rest
    if bs.length % 2 = 1 then .error (.invalidHex .oddLength)
    else
      match digits 0 0 bs with
      | .error e => .error (.invalidHex e)
      | .ok n =>
        if bs.length = 2 * size then .ok (BitVec.ofNat (8 * size) n)
        else .error (.wrongLength size (bs.length / 2))
  | _ => .error (.missingMark text)

/-- The text of a `size`-byte identifier. -/
def write {size : Nat} (bits : BitVec (8 * size)) : String :=
  String.ofList ('0' :: 'x' :: Hex.fixed (2 * size) bits.toNat)

/-- The bytes of an identifier, most significant first. -/
def toBytes {size : Nat} (bits : BitVec (8 * size)) : List UInt8 :=
  (List.range size).map fun i => UInt8.ofNat (bits.toNat >>> (8 * (size - 1 - i)))

/-- The identifier with the given bytes, most significant first. -/
def ofBytes (size : Nat) (bs : List UInt8) : BitVec (8 * size) :=
  BitVec.ofNat _ (bs.foldl (fun acc b => 256 * acc + b.toNat) 0)

end Identifier

/-! ### Addresses -/

/-- A 20-byte account identifier. -/
structure Address where
  /-- The identifier as a number. -/
  bits : BitVec (8 * 20)
deriving DecidableEq, Repr

namespace Address

instance : Ranked Address where
  rank a := a.bits.toNat
  rank_injective h := by
    rename_i a b
    cases a
    cases b
    exact congrArg _ (BitVec.eq_of_toNat_eq h)

/-- The zero address, which is never a holder. -/
def zero : Address := ⟨0⟩

instance : Inhabited Address := ⟨zero⟩

/-- The address whose last eight bytes are `value`. -/
def ofLow (value : UInt64) : Address := ⟨BitVec.ofNat _ value.toNat⟩

/-- Whether this is the zero address. -/
def isZero (a : Address) : Bool := a == zero

/-- The written form. -/
def text (a : Address) : String := Identifier.write a.bits

/-- The address that a text stands for. -/
def parse (text : String) : Except ParseIdError Address :=
  (Identifier.read 20 text).map Address.mk

/-- The bytes, most significant first. -/
def toBytes (a : Address) : List UInt8 := Identifier.toBytes a.bits

/-- The address with the given bytes. -/
def ofBytes (bs : List UInt8) : Address := ⟨Identifier.ofBytes 20 bs⟩

/-- The written form with the kind of identifier. -/
def describe (a : Address) : String := "Address(" ++ a.text ++ ")"

instance : ToString Address := ⟨text⟩

end Address

/-! ### Partitions -/

/-- A 32-byte tranche identifier. -/
structure Partition where
  /-- The identifier as a number. -/
  bits : BitVec (8 * 32)
deriving DecidableEq, Repr

namespace Partition

instance : Ranked Partition where
  rank p := p.bits.toNat
  rank_injective h := by
    rename_i a b
    cases a
    cases b
    exact congrArg _ (BitVec.eq_of_toNat_eq h)

/-- The only partition of a bond with a single one. -/
def default : Partition := ⟨1⟩

instance : Inhabited Partition := ⟨default⟩

/-- The partition whose last eight bytes are `value`. -/
def ofLow (value : UInt64) : Partition := ⟨BitVec.ofNat _ value.toNat⟩

/-- Whether this is the default partition. -/
def isDefault (p : Partition) : Bool := p == default

/-- The written form. -/
def text (p : Partition) : String := Identifier.write p.bits

/-- The partition that a text stands for. -/
def parse (text : String) : Except ParseIdError Partition :=
  (Identifier.read 32 text).map Partition.mk

/-- The bytes, most significant first. -/
def toBytes (p : Partition) : List UInt8 := Identifier.toBytes p.bits

/-- The partition with the given bytes. -/
def ofBytes (bs : List UInt8) : Partition := ⟨Identifier.ofBytes 32 bs⟩

/-- The written form with the kind of identifier. -/
def describe (p : Partition) : String := "Partition(" ++ p.text ++ ")"

instance : ToString Partition := ⟨text⟩

end Partition

end CouponBond
