import Reshape.Binary64.FixedPoint
import Reshape.Digest.Basic

/-!
# The MD5 digest

Blocks of sixteen words of 32 bits, the lowest byte first, are mixed into a state of
four words in four passes.  Each pass has a function of three words, an order in which
it takes the words of the block, and four amounts of rotation; the constants of the
rounds are bits of sines.

Main results:

- Definition `md5`.
-/

namespace Reshape

namespace Digest

namespace Md5

/-- The four words of a state. -/
structure State where
  a : BitVec 32
  b : BitVec 32
  c : BitVec 32
  d : BitVec 32

/-- The first state. -/
def start : State :=
  ⟨0x67452301, 0xefcdab89, 0x98badcfe, 0x10325476⟩

/-- The constants of the rounds: the first 32 bits behind the point of the sines of one,
two and so on, without their signs. -/
def constants : List (BitVec 32) :=
  (List.range 64).map fun i =>
    BitVec.ofNat 32 ((Fixed.sinCos ((i + 1) * Binary64.unitsPerOne : Nat)).1.natAbs >>> 1504)

/-- The function of a round and the index of the word of the block that it takes. -/
def mix (index : Nat) (s : State) : BitVec 32 × Nat :=
  if index < 16 then ((s.b &&& s.c) ||| (~~~s.b &&& s.d), index)
  else if index < 32 then ((s.d &&& s.b) ||| (~~~s.d &&& s.c), (5 * index + 1) % 16)
  else if index < 48 then (s.b ^^^ s.c ^^^ s.d, (3 * index + 5) % 16)
  else (s.c ^^^ (s.b ||| ~~~s.d), 7 * index % 16)

/-- The amounts of rotation, four for each pass. -/
def amounts : List Nat :=
  [7, 12, 17, 22, 5, 9, 14, 20, 4, 11, 16, 23, 6, 10, 15, 21]

/-- One round with a constant. -/
def round (words : List (BitVec 32)) (s : State) (input : BitVec 32 × Nat) : State :=
  let (value, word) := mix input.2 s
  let sum := s.a + value + input.1 + words.getD word 0
  let amount := amounts.getD (4 * (input.2 / 16) + input.2 % 4) 0
  ⟨s.d, s.b + sum.rotateLeft amount, s.b, s.c⟩

/-- Mixes a block into a state. -/
def compress (s : State) (block : List UInt8) : State :=
  let words := (blocks 4 block).map fun bytes => BitVec.ofNat 32 (ofLittleEndian bytes)
  let t := constants.zipIdx.foldl (round words) s
  ⟨s.a + t.a, s.b + t.b, s.c + t.c, s.d + t.d⟩

end Md5

/-- The digest of 128 bits. -/
def md5 : DigestFunction where
  blockSize := 64
  digest message :=
    let final := (blocks 64 (padded 64 8 littleEndian message)).foldl Md5.compress Md5.start
    [final.a, final.b, final.c, final.d].flatMap fun word => littleEndian 4 word.toNat

end Digest

end Reshape
