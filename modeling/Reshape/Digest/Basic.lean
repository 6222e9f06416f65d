/-!
# Message digests

A digest function cuts its padded message into blocks and mixes the blocks one after
the other into a state.  This file holds what all such functions share: the bytes of
numbers, the padding, keyed digests and the hexadecimal form of a digest.

Main results:

- Definition `Digest.padded`: a message that fills its last block.
- Definition `DigestFunction.keyed`: the keyed digest of a message.
-/

namespace Reshape

namespace Digest

/-! ## Bytes -/

/-- The last bytes of a number, the lowest byte first. -/
def littleEndian : Nat → Nat → List UInt8
  | 0, _ => []
  | count + 1, n => UInt8.ofNat n :: littleEndian count (n / 256)

/-- The last bytes of a number, the highest byte first. -/
def bigEndian (count n : Nat) : List UInt8 :=
  (littleEndian count n).reverse

/-- The number that bytes stand for, the highest byte first. -/
def ofBigEndian (bytes : List UInt8) : Nat :=
  bytes.foldl (fun n byte => 256 * n + byte.toNat) 0

/-- The number that bytes stand for, the lowest byte first. -/
def ofLittleEndian (bytes : List UInt8) : Nat :=
  ofBigEndian bytes.reverse

/-- The whole blocks of a list. -/
def blocks {α : Type} (size : Nat) (xs : List α) : List (List α) :=
  (List.range (xs.length / size)).map fun i => (xs.drop (i * size)).take size

/-- A message with the padding that fills its last block: the byte `0x80`, zeros, and
the length of the message in bits. -/
def padded (blockSize lengthSize : Nat) (encode : Nat → Nat → List UInt8)
    (message : List UInt8) : List UInt8 :=
  let used := message.length + 1 + lengthSize
  let zeros := (blockSize - used % blockSize) % blockSize
  message ++ 0x80 :: List.replicate zeros 0 ++ encode lengthSize (8 * message.length)

/-- The two hexadecimal digits of each byte. -/
def hex (bytes : List UInt8) : List Char :=
  bytes.flatMap fun byte =>
    [Nat.digitChar (byte.toNat / 16), Nat.digitChar (byte.toNat % 16)]

end Digest

/-! ## Digest functions -/

/-- A digest function with the size of its blocks in bytes. -/
structure DigestFunction where
  blockSize : Nat
  digest : List UInt8 → List UInt8

namespace DigestFunction

/-- The key as one block: a key that is too long is replaced by its digest, and one that
is too short is filled with zeros. -/
def blockKey (f : DigestFunction) (key : List UInt8) : List UInt8 :=
  let short := if f.blockSize < key.length then f.digest key else key
  short ++ List.replicate (f.blockSize - short.length) 0

/-- The keyed digest of a message: the message is digested behind the key with one mask,
and the result behind the key with another. -/
def keyed (f : DigestFunction) (key message : List UInt8) : List UInt8 :=
  let block := f.blockKey key
  let inner := f.digest (block.map (· ^^^ 0x36) ++ message)
  f.digest (block.map (· ^^^ 0x5c) ++ inner)

end DigestFunction

end Reshape
