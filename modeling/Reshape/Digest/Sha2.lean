import Reshape.Binary64.Arithmetic
import Reshape.Digest.Basic

/-!
# The SHA-2 digests

The functions of this family differ in the width of their words, in the number of
rounds, in rotation amounts, in the first state and in how much of the last state is
given out.  Their constants are the first bits behind the point of square and cube
roots of the first primes, and are computed here as such.

Main results:

- Definitions `sha224`, `sha256`, `sha384`, `sha512`.
-/

namespace Reshape

namespace Digest

namespace Sha2

/-! ## Constants -/

/-- The first eighty primes. -/
def primes : List Nat :=
  (List.range 410).filter fun n => 2 ≤ n && (List.range n).all fun d => d < 2 || n % d != 0

/-- The greatest natural number whose cube is not above `n`. -/
def floorCbrt (n : Nat) : Nat :=
  if h : n = 0 then
    0
  else
    let root := 2 * floorCbrt (n / 8)
    if (root + 1) * (root + 1) * (root + 1) ≤ n then root + 1 else root
termination_by n
decreasing_by omega

/-- The first bits behind the point of the square root of a number. -/
def sqrtBits (width n : Nat) : BitVec width :=
  BitVec.ofNat width (Binary64.floorSqrt (n <<< (2 * width)))

/-- The first bits behind the point of the cube root of a number. -/
def cbrtBits (width n : Nat) : BitVec width :=
  BitVec.ofNat width (floorCbrt (n <<< (3 * width)))

/-! ## The family -/

/-- What a member of the family chooses.  Of the two small mixing functions the first two
amounts are rotations and the third is a shift. -/
structure Variant (width : Nat) where
  roundConstants : List (BitVec width)
  bigSigma0 : Nat × Nat × Nat
  bigSigma1 : Nat × Nat × Nat
  smallSigma0 : Nat × Nat × Nat
  smallSigma1 : Nat × Nat × Nat

/-- The eight words of a state. -/
structure State (width : Nat) where
  a : BitVec width
  b : BitVec width
  c : BitVec width
  d : BitVec width
  e : BitVec width
  f : BitVec width
  g : BitVec width
  h : BitVec width

namespace State

variable {width : Nat}

/-- The words in order. -/
def words (s : State width) : List (BitVec width) :=
  [s.a, s.b, s.c, s.d, s.e, s.f, s.g, s.h]

/-- The state of the first eight words of a list. -/
def ofWords (words : List (BitVec width)) : State width :=
  let word (i : Nat) := words.getD i 0
  ⟨word 0, word 1, word 2, word 3, word 4, word 5, word 6, word 7⟩

/-- The sum of two states, word by word. -/
def add (s t : State width) : State width :=
  ⟨s.a + t.a, s.b + t.b, s.c + t.c, s.d + t.d, s.e + t.e, s.f + t.f, s.g + t.g, s.h + t.h⟩

end State

variable {width : Nat}

/-- Three rotations of a word, mixed. -/
def rotations (amounts : Nat × Nat × Nat) (x : BitVec width) : BitVec width :=
  x.rotateRight amounts.1 ^^^ x.rotateRight amounts.2.1 ^^^ x.rotateRight amounts.2.2

/-- Two rotations and a shift of a word, mixed. -/
def rotationsAndShift (amounts : Nat × Nat × Nat) (x : BitVec width) : BitVec width :=
  x.rotateRight amounts.1 ^^^ x.rotateRight amounts.2.1 ^^^ x >>> amounts.2.2

/-- Adds the next word of the schedule to the words so far, the latest first. -/
def extendSchedule (v : Variant width) (latest : List (BitVec width)) : List (BitVec width) :=
  let word (back : Nat) := latest.getD (back - 1) 0
  (rotationsAndShift v.smallSigma1 (word 2) + word 7 +
    rotationsAndShift v.smallSigma0 (word 15) + word 16) :: latest

/-- One word for each round, the first sixteen of them from the block. -/
def schedule (v : Variant width) (block : List UInt8) : List (BitVec width) :=
  let start := (blocks (width / 8) block).map fun bytes => BitVec.ofNat width (ofBigEndian bytes)
  let further := v.roundConstants.length - start.length
  ((List.range further).foldl (fun latest _ => extendSchedule v latest) start.reverse).reverse

/-- One round with a word of the schedule and a constant. -/
def round (v : Variant width) (s : State width) (input : BitVec width × BitVec width) :
    State width :=
  let choice := (s.e &&& s.f) ^^^ (~~~s.e &&& s.g)
  let majority := (s.a &&& s.b) ^^^ (s.a &&& s.c) ^^^ (s.b &&& s.c)
  let first := s.h + rotations v.bigSigma1 s.e + choice + input.2 + input.1
  let second := rotations v.bigSigma0 s.a + majority
  ⟨first + second, s.a, s.b, s.c, s.d + first, s.e, s.f, s.g⟩

/-- Mixes a block into a state. -/
def compress (v : Variant width) (s : State width) (block : List UInt8) : State width :=
  s.add (((schedule v block).zip v.roundConstants).foldl (round v) s)

/-- The digest function with blocks of sixteen words that starts from the given words and
gives out `size` bytes. -/
def function (v : Variant width) (start : List (BitVec width)) (size : Nat) : DigestFunction where
  blockSize := 2 * width
  digest message :=
    let bytes := padded (2 * width) (width / 4) bigEndian message
    let final := (blocks (2 * width) bytes).foldl (compress v) (.ofWords start)
    (final.words.flatMap fun word => bigEndian (width / 8) word.toNat).take size

/-- The choices of the functions on words of 32 bits. -/
def narrow : Variant 32 where
  roundConstants := (primes.take 64).map (cbrtBits 32)
  bigSigma0 := (2, 13, 22)
  bigSigma1 := (6, 11, 25)
  smallSigma0 := (7, 18, 3)
  smallSigma1 := (17, 19, 10)

/-- The choices of the functions on words of 64 bits. -/
def wide : Variant 64 where
  roundConstants := (primes.take 80).map (cbrtBits 64)
  bigSigma0 := (28, 34, 39)
  bigSigma1 := (14, 18, 41)
  smallSigma0 := (1, 8, 7)
  smallSigma1 := (19, 61, 6)

end Sha2

/-! ## The functions -/

/-- The digest of 224 bits, which starts from the second 32 bits of square roots. -/
def sha224 : DigestFunction :=
  Sha2.function Sha2.narrow
    (((Sha2.primes.drop 8).take 8).map fun p => (Sha2.sqrtBits 64 p).truncate 32) 28

/-- The digest of 256 bits. -/
def sha256 : DigestFunction :=
  Sha2.function Sha2.narrow ((Sha2.primes.take 8).map (Sha2.sqrtBits 32)) 32

/-- The digest of 384 bits. -/
def sha384 : DigestFunction :=
  Sha2.function Sha2.wide (((Sha2.primes.drop 8).take 8).map (Sha2.sqrtBits 64)) 48

/-- The digest of 512 bits. -/
def sha512 : DigestFunction :=
  Sha2.function Sha2.wide ((Sha2.primes.take 8).map (Sha2.sqrtBits 64)) 64

end Digest

end Reshape
