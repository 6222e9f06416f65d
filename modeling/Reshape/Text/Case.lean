import Reshape.Text.Cased
import Reshape.Text.CaseTables

/-!
# Case mapping of texts

Texts are mapped to upper and lower case character by character, where one
character may become several.  The one mapping that looks at its surroundings is
that of the capital sigma, which has a form of its own at the end of a word.

Main results:

- Definitions `toLower`, `toUpper`, `capitalize`, `swapCase`.
-/

namespace Reshape

namespace Text

/-! ## Characters -/

/-- The image of a character under a table of runs and sequences; a character in
neither is its own image. -/
def imageIn (runs : List CaseRun) (sequences : List (Nat × List Nat)) (c : Char) : List Char :=
  match sequences.lookup c.toNat with
  | some image => image.map Char.ofNat
  | none =>
    match runs.findSome? (·.image? c.toNat) with
    | some image => [Char.ofNat image]
    | none => [c]

/-- The image of a character in lower case. -/
def lowerImage : Char → List Char :=
  imageIn lowercaseRuns lowercaseSequences

/-- The image of a character in upper case. -/
def upperImage : Char → List Char :=
  imageIn uppercaseRuns uppercaseSequences

/-! ## Texts -/

/-- Whether a cased character comes first once ignorable ones are skipped. -/
def meetsCased (cs : List Char) : Bool :=
  match cs.dropWhile isCaseIgnorable with
  | c :: _ => isCased c
  | [] => false

/-- Lower case of a text after the characters `before`, the nearest of them first.  A
capital sigma with a cased character before it and none after it ends a word. -/
def lowerAfter (before : List Char) : List Char → List Char
  | [] => []
  | c :: rest =>
    let image :=
      if c = 'Σ' then
        if meetsCased before && !meetsCased rest then ['ς'] else ['σ']
      else
        lowerImage c
    image ++ lowerAfter (c :: before) rest

/-- A text in lower case. -/
def toLower (cs : List Char) : List Char :=
  lowerAfter [] cs

/-- A text in upper case. -/
def toUpper (cs : List Char) : List Char :=
  cs.flatMap upperImage

/-- A text with its first character in upper case and the rest in lower case. -/
def capitalize : List Char → List Char
  | [] => []
  | c :: rest => upperImage c ++ toLower rest

/-- A text with the case of each character turned around. -/
def swapCase (cs : List Char) : List Char :=
  cs.flatMap fun c =>
    if isLowercase c then upperImage c
    else if isUppercase c then lowerImage c
    else [c]

end Text

end Reshape
