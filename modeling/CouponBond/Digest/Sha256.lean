import CouponBond.Text.Hex

/-!
# SHA-256

The digest by which a saved state names the configuration it was taken under.

## Main Definitions

* `Sha256.digest` — the 32 bytes of the digest of a byte string
* `Sha256.hexDigest` — the digest as 64 lower-case hexadecimal digits

## Design Notes

The message is padded to whole blocks (`padded`), each block is expanded to 64 words
(`schedule`), and the blocks are folded into the chaining value (`compress`).
-/

namespace CouponBond.Sha256

/-- The eight words that the compression carries from block to block. -/
structure Chaining where
  a : UInt32
  b : UInt32
  c : UInt32
  d : UInt32
  e : UInt32
  f : UInt32
  g : UInt32
  h : UInt32
deriving DecidableEq

/-- The value before the first block: fractional parts of the square roots of the
first eight primes. -/
def initial : Chaining :=
  ⟨0x6a09e667, 0xbb67ae85, 0x3c6ef372, 0xa54ff53a, 0x510e527f, 0x9b05688c,
   0x1f83d9ab, 0x5be0cd19⟩

/-- The constants of the rounds: fractional parts of the cube roots of the first 64
primes. -/
def roundConstants : List UInt32 :=
  [0x428a2f98, 0x71374491, 0xb5c0fbcf, 0xe9b5dba5, 0x3956c25b, 0x59f111f1,
   0x923f82a4, 0xab1c5ed5, 0xd807aa98, 0x12835b01, 0x243185be, 0x550c7dc3,
   0x72be5d74, 0x80deb1fe, 0x9bdc06a7, 0xc19bf174, 0xe49b69c1, 0xefbe4786,
   0x0fc19dc6, 0x240ca1cc, 0x2de92c6f, 0x4a7484aa, 0x5cb0a9dc, 0x76f988da,
   0x983e5152, 0xa831c66d, 0xb00327c8, 0xbf597fc7, 0xc6e00bf3, 0xd5a79147,
   0x06ca6351, 0x14292967, 0x27b70a85, 0x2e1b2138, 0x4d2c6dfc, 0x53380d13,
   0x650a7354, 0x766a0abb, 0x81c2c92e, 0x92722c85, 0xa2bfe8a1, 0xa81a664b,
   0xc24b8b70, 0xc76c51a3, 0xd192e819, 0xd6990624, 0xf40e3585, 0x106aa070,
   0x19a4c116, 0x1e376c08, 0x2748774c, 0x34b0bcb5, 0x391c0cb3, 0x4ed8aa4a,
   0x5b9cca4f, 0x682e6ff3, 0x748f82ee, 0x78a5636f, 0x84c87814, 0x8cc70208,
   0x90befffa, 0xa4506ceb, 0xbef9a3f7, 0xc67178f2]

/-- Rotate to the right by fewer than 32 places. -/
def rotate (x n : UInt32) : UInt32 := (x >>> n) ||| (x <<< (32 - n))

/-- The bytes of a number, most significant first. -/
def bigEndian : (count n : Nat) → List UInt8
  | 0, _ => []
  | count + 1, n => bigEndian count (n / 256) ++ [UInt8.ofNat n]

/-- The message with a one bit, zeros and its length in bits: a whole number of blocks. -/
def padded (message : List UInt8) : List UInt8 :=
  let zeros := (119 - message.length % 64) % 64
  message ++ 0x80 :: (List.replicate zeros 0 ++ bigEndian 8 (8 * message.length))

/-- Four bytes a word, most significant first. -/
def words : List UInt8 → List UInt32
  | a :: b :: c :: d :: rest =>
    (a.toUInt32 <<< 24 ||| b.toUInt32 <<< 16 ||| c.toUInt32 <<< 8 ||| d.toUInt32) :: words rest
  | _ => []

/-- The first `count` blocks of sixteen words. -/
def blocks : (count : Nat) → List UInt32 → List (List UInt32)
  | 0, _ => []
  | count + 1, ws => ws.take 16 :: blocks count (ws.drop 16)

/-- Put `count` more words in front of the words so far, which stand newest first. -/
def extend : (count : Nat) → List UInt32 → List UInt32
  | 0, ws => ws
  | count + 1, ws =>
    let x := ws.getD 1 0
    let y := ws.getD 14 0
    let s1 := rotate x 17 ^^^ rotate x 19 ^^^ (x >>> 10)
    let s0 := rotate y 7 ^^^ rotate y 18 ^^^ (y >>> 3)
    extend count ((s1 + ws.getD 6 0 + s0 + ws.getD 15 0) :: ws)

/-- The 64 words of a block. -/
def schedule (block : List UInt32) : List UInt32 := (extend 48 block.reverse).reverse

/-- One round with its constant and its word of the schedule. -/
def round (s : Chaining) (kw : UInt32 × UInt32) : Chaining :=
  let s1 := rotate s.e 6 ^^^ rotate s.e 11 ^^^ rotate s.e 25
  let choice := (s.e &&& s.f) ^^^ (~~~s.e &&& s.g)
  let t1 := s.h + s1 + choice + kw.1 + kw.2
  let s0 := rotate s.a 2 ^^^ rotate s.a 13 ^^^ rotate s.a 22
  let majority := (s.a &&& s.b) ^^^ (s.a &&& s.c) ^^^ (s.b &&& s.c)
  ⟨t1 + (s0 + majority), s.a, s.b, s.c, s.d + t1, s.e, s.f, s.g⟩

/-- Fold one block into the chaining value. -/
def compress (s : Chaining) (block : List UInt32) : Chaining :=
  let t := (roundConstants.zip (schedule block)).foldl round s
  ⟨s.a + t.a, s.b + t.b, s.c + t.c, s.d + t.d, s.e + t.e, s.f + t.f, s.g + t.g, s.h + t.h⟩

/-- The 32 bytes of the digest of a message. -/
def digest (message : List UInt8) : List UInt8 :=
  let ws := words (padded message)
  let s := (blocks (ws.length / 16) ws).foldl compress initial
  [s.a, s.b, s.c, s.d, s.e, s.f, s.g, s.h].flatMap fun w => bigEndian 4 w.toNat

/-- The digest of a message in hexadecimal. -/
def hexDigest (message : List UInt8) : String :=
  String.ofList ((digest message).flatMap fun b => Hex.fixed 2 b.toNat)

end CouponBond.Sha256
