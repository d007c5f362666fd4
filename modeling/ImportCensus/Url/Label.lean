/-
ImportCensus/Url/Label.lean

What the labels of a domain name beyond ASCII have to look like.

  * A label does not start with a mark.
  * An invisible character that changes how its neighbours join stands only where they would join.
  * If some letter of the name is written from right to left, each label keeps to one direction: it
    starts with a letter, holds only what goes with it, and ends in a letter or a digit.
-/
import ImportCensus.Text.Ranges
import ImportCensus.Url.LabelTable

namespace ImportCensus.Url

open Text

/-- Is a character a mark, which belongs to the one before it? -/
def isMark (c : Char) : Bool :=
  inRanges markRanges c

/-! ### Joiners -/

/-- Does a mark take the vowel from the character before it? -/
def killsVowel (c : Char) : Bool :=
  inRanges vowelKillerRanges c

/-- Is the next character that counts one of those in a list of ranges?  Characters through which their
neighbours join do not count. -/
def meets (ranges : List (Nat × Nat)) (s : List Char) : Bool :=
  ((s.dropWhile (inRanges transparentRanges)).head?).any (inRanges ranges)

/-- The character that makes its neighbours join. -/
def joiner : Char :=
  Char.ofNat 0x200D

/-- The character that keeps its neighbours from joining. -/
def nonJoiner : Char :=
  Char.ofNat 0x200C

/-- Does every joiner stand where it may?  `before` is what stands before, the last character first. -/
def joinersFit (before : List Char) : List Char → Bool
  | [] => true
  | c :: r =>
    let fits :=
      if c = joiner then before.head?.any killsVowel
      else if c = nonJoiner then
        before.head?.any killsVowel || (meets joinsNextRanges before && meets joinsPreviousRanges r)
      else true
    fits && joinersFit (c :: before) r

/-! ### Directions -/

/-- What a character says about the direction of writing. -/
inductive Direction where
  /-- A letter that is written from left to right. -/
  | right
  /-- A letter that is written from right to left. -/
  | left
  /-- A digit that goes with letters from right to left. -/
  | arabicDigit
  | plainDigit
  | neutral
  /-- A mark, which goes with the character before it. -/
  | adopting
  deriving DecidableEq, Repr

/-- The direction of an ASCII character. -/
def asciiDirection (c : Char) : Direction :=
  if c.isAlpha then .right else if c.isDigit then .plainDigit else .neutral

/-- The direction of a character. -/
def direction (c : Char) : Direction :=
  if c.toNat < 0x80 then asciiDirection c
  else if inRanges rightToLeftRanges c then .left
  else if inRanges adoptingRanges c then .adopting
  else if inRanges neutralRanges c then .neutral
  else if inRanges arabicDigitRanges c then .arabicDigit
  else if inRanges plainDigitRanges c then .plainDigit
  else .right

/-- Does a character make a name one that goes from right to left? -/
def turnsName (c : Char) : Bool :=
  match direction c with
  | .left | .arabicDigit => true
  | _ => false

/-- May a label that is written from left to right hold a character? -/
def goesRight : Direction → Bool
  | .right | .plainDigit | .neutral | .adopting => true
  | .left | .arabicDigit => false

/-- May a label that is written from right to left hold a character? -/
def goesLeft : Direction → Bool
  | .right => false
  | _ => true

/-- Does a label keep to one direction? -/
def keepsDirection (label : List Char) : Bool :=
  let directions := label.map direction
  let last := (directions.reverse.dropWhile (· == .adopting)).head?
  match directions with
  | [] => true
  | .right :: rest => rest.all goesRight && (last == some .right || last == some .plainDigit)
  | .left :: rest =>
    rest.all goesLeft
      && (last == some .left || last == some .plainDigit || last == some .arabicDigit)
      && !(rest.contains .plainDigit && rest.contains .arabicDigit)
  | _ => false

/-! ### Labels -/

/-- Is a label beyond ASCII well formed, its direction apart? -/
def isWellFormed (label : List Char) : Bool :=
  !(label.head?.any isMark) && joinersFit [] label

/-- Do all labels of a name keep to their direction, where that matters? -/
def directionsFit (labels : List (List Char)) : Bool :=
  !(labels.any (·.any turnsName)) || labels.all keepsDirection

end ImportCensus.Url
