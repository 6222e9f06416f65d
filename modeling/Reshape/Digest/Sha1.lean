import Reshape.Digest.Basic

/-!
# The SHA-1 digest

Blocks of sixteen words of 32 bits are stretched to eighty words, and each is mixed
into a state of five words.  A function of three words and a constant change every
twenty rounds.

Main results:

- Definition `sha1`.
-/

namespace Reshape

namespace Digest

namespace Sha1

/-- The five words of a state. -/
structure State where
  a : BitVec 32
  b : BitVec 32
  c : BitVec 32
  d : BitVec 32
  e : BitVec 32

/-- The first state. -/
def start : State :=
  ⟨0x67452301, 0xefcdab89, 0x98badcfe, 0x10325476, 0xc3d2e1f0⟩

/-- One word for each round, each the exclusive sum of four earlier ones, rotated. -/
def schedule (block : List UInt8) : List (BitVec 32) :=
  let start := (blocks 4 block).map fun bytes => BitVec.ofNat 32 (ofBigEndian bytes)
  let extend (latest : List (BitVec 32)) : List (BitVec 32) :=
    let word (back : Nat) := latest.getD (back - 1) 0
    (word 3 ^^^ word 8 ^^^ word 14 ^^^ word 16).rotateLeft 1 :: latest
  ((List.range 64).foldl (fun latest _ => extend latest) start.reverse).reverse

/-- The function and the constant of a round. -/
def mix (index : Nat) (s : State) : BitVec 32 × BitVec 32 :=
  if index < 20 then ((s.b &&& s.c) ||| (~~~s.b &&& s.d), 0x5a827999)
  else if index < 40 then (s.b ^^^ s.c ^^^ s.d, 0x6ed9eba1)
  else if index < 60 then ((s.b &&& s.c) ||| (s.b &&& s.d) ||| (s.c &&& s.d), 0x8f1bbcdc)
  else (s.b ^^^ s.c ^^^ s.d, 0xca62c1d6)

/-- One round with a word of the schedule. -/
def round (s : State) (input : BitVec 32 × Nat) : State :=
  let (value, constant) := mix input.2 s
  ⟨s.a.rotateLeft 5 + value + s.e + constant + input.1, s.a, s.b.rotateLeft 30, s.c, s.d⟩

/-- Mixes a block into a state. -/
def compress (s : State) (block : List UInt8) : State :=
  let t := (schedule block).zipIdx.foldl round s
  ⟨s.a + t.a, s.b + t.b, s.c + t.c, s.d + t.d, s.e + t.e⟩

end Sha1

/-- The digest of 160 bits. -/
def sha1 : DigestFunction where
  blockSize := 64
  digest message :=
    let final := (blocks 64 (padded 64 8 bigEndian message)).foldl Sha1.compress Sha1.start
    [final.a, final.b, final.c, final.d, final.e].flatMap fun word => bigEndian 4 word.toNat

end Digest

end Reshape
