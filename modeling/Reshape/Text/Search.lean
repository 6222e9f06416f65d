/-!
# Occurrences in a text

Each operation reads a text once from left to right.  Where the sought text occurs,
the operation acts and goes on behind the occurrence, so occurrences do not overlap;
the number of characters still to be passed over is carried along.

Main results:

- Theorem `splitOn_ne_nil`: splitting yields at least one piece.
- Definitions `offset?`, `occurrences`, `splitOn`, `replace`: the four operations.
-/

namespace Reshape

namespace Text

/-! ## The first occurrence -/

/-- The number of characters before the first occurrence. -/
def offset? (needle : List Char) : List Char → Option Nat
  | [] => if needle.isEmpty then some 0 else none
  | c :: rest =>
    if needle.isPrefixOf (c :: rest) then some 0
    else (offset? needle rest).map (· + 1)

/-! ## All occurrences -/

/-- The number of occurrences of a text that is not empty, after `skip` characters. -/
def occurrencesFrom (needle : List Char) : Nat → List Char → Nat
  | _, [] => 0
  | skip + 1, _ :: rest => occurrencesFrom needle skip rest
  | 0, c :: rest =>
    if needle.isPrefixOf (c :: rest) then
      occurrencesFrom needle (needle.length - 1) rest + 1
    else
      occurrencesFrom needle 0 rest

/-- The number of occurrences.  The empty text occurs at every character and at the end. -/
def occurrences (needle cs : List Char) : Nat :=
  if needle.isEmpty then cs.length + 1 else occurrencesFrom needle 0 cs

/-- The pieces around a separator that is not empty, after `skip` characters. -/
def splitFrom (separator : List Char) : Nat → List Char → List (List Char)
  | _, [] => [[]]
  | skip + 1, _ :: rest => splitFrom separator skip rest
  | 0, c :: rest =>
    if separator.isPrefixOf (c :: rest) then
      [] :: splitFrom separator (separator.length - 1) rest
    else
      (splitFrom separator 0 rest).modifyHead (c :: ·)

/-- The pieces of a text around a separator that is not empty. -/
def splitOn (separator cs : List Char) : List (List Char) :=
  splitFrom separator 0 cs

/-- Replaces each occurrence of a text that is not empty, after `skip` characters. -/
def replaceFrom (old new : List Char) : Nat → List Char → List Char
  | _, [] => []
  | skip + 1, _ :: rest => replaceFrom old new skip rest
  | 0, c :: rest =>
    if old.isPrefixOf (c :: rest) then
      new ++ replaceFrom old new (old.length - 1) rest
    else
      c :: replaceFrom old new 0 rest

/-- Replaces each occurrence.  The empty text is replaced before every character and at
the end. -/
def replace (old new cs : List Char) : List Char :=
  if old.isEmpty then cs.flatMap (fun c => new ++ [c]) ++ new else replaceFrom old new 0 cs

/-! ## Pieces -/

/-- Splitting yields at least one piece. -/
theorem splitOn_ne_nil (separator cs : List Char) : splitOn separator cs ≠ [] := by
  unfold splitOn
  generalize 0 = skip
  induction cs generalizing skip with
  | nil => cases skip <;> simp [splitFrom]
  | cons c rest ih =>
    cases skip with
    | zero =>
      have := ih 0
      simp only [splitFrom]
      split
      · simp
      · cases h : splitFrom separator 0 rest <;> simp_all
    | succ skip => simpa [splitFrom] using ih skip

end Text

end Reshape
