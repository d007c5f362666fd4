/-
ImportCensus/Text/Accent.lean

Characters with marks.  A character and a mark behind it may also be given as one character; the composed
form of a text uses one character wherever there is one.

It is found in three steps: every character is taken apart, the marks behind each character are put in
the order of their classes, and each character takes in the marks that it can.  A mark is out of reach
behind another one of the same class.

The syllables of Korean are not listed in the table, since they follow from their letters.
-/
import ImportCensus.Text.AccentTable
import ImportCensus.Text.Split

namespace ImportCensus.Text

/-- The class of a mark; zero for what is no mark. -/
def markClass (c : Char) : Nat :=
  ((markClasses.find? fun e => e.1 ≤ c.toNat && c.toNat ≤ e.2.1).map (·.2.2)).getD 0

/-- The characters that are made of two others, each with these two behind it. -/
def compositions : List (List Char) :=
  compositionLines.flatMap fun line => split ' ' line.toList

/-- The two characters that another one is made of. -/
def pairOf? (c : Char) : Option (Char × Char) :=
  match compositions.find? (·.head? == some c) with
  | some [_, a, b] => some (a, b)
  | _ => none

/-- The character that is made of two others. -/
def ofPair? (a b : Char) : Option Char :=
  (compositions.find? (·.tail == [a, b])).bind List.head?

/-! ### Korean syllables -/

/-- The syllables are numbered by their leading letter, vowel and closing letter, of which the last one
may be missing. -/
structure Syllable where
  leading : Nat
  vowel : Nat
  closing : Nat

/-- The syllable that a character is. -/
def syllable? (c : Char) : Option Syllable :=
  let n := c.toNat - 0xAC00
  if 0xAC00 ≤ c.toNat ∧ n < 11172 then some ⟨n / 588, n % 588 / 28, n % 28⟩ else none

/-- The letters of a syllable. -/
def Syllable.letters (s : Syllable) : List Char :=
  Char.ofNat (0x1100 + s.leading) :: Char.ofNat (0x1161 + s.vowel) ::
    if s.closing = 0 then [] else [Char.ofNat (0x11A7 + s.closing)]

/-- A syllable as a character. -/
def Syllable.toChar (s : Syllable) : Char :=
  Char.ofNat (0xAC00 + s.leading * 588 + s.vowel * 28 + s.closing)

/-- The syllable of two letters, or of a syllable and its closing letter. -/
def joinSyllable? (a b : Char) : Option Char :=
  if 0x1100 ≤ a.toNat ∧ a.toNat < 0x1113 ∧ 0x1161 ≤ b.toNat ∧ b.toNat < 0x1176 then
    some (Syllable.toChar ⟨a.toNat - 0x1100, b.toNat - 0x1161, 0⟩)
  else if 0x11A8 ≤ b.toNat ∧ b.toNat < 0x11C3 then
    match syllable? a with
    | some ⟨leading, vowel, 0⟩ => some (Syllable.toChar ⟨leading, vowel, b.toNat - 0x11A7⟩)
    | _ => none
  else none

/-! ### Taking apart -/

/-- What a character is made of, taken apart at most `depth` times. -/
def partsOf : (depth : Nat) → Char → List Char
  | 0, c => [c]
  | depth + 1, c =>
    match syllable? c with
    | some s => s.letters
    | none =>
      match pairOf? c with
      | some (a, b) => partsOf depth a ++ partsOf depth b
      | none => [c]

/-- No character has to be taken apart more often. -/
def partsDepth : Nat :=
  4

/-- Puts a character before marks of which those with a lower class go first. -/
def insertMark (c : Char) : List Char → List Char
  | [] => [c]
  | d :: r =>
    if 0 < markClass d ∧ markClass d < markClass c then d :: insertMark c r else c :: d :: r

/-- A text with its characters taken apart and its marks in order. -/
def decomposed (s : List Char) : List Char :=
  (s.flatMap (partsOf partsDepth)).foldr insertMark []

/-! ### Putting together -/

/-- The character that two characters make together. -/
def compose? (a b : Char) : Option Char :=
  joinSyllable? a b <|> ofPair? a b

/-- Puts a character together with what follows it.  The marks between, of which the last one has the
class `last`, were not taken in. -/
def composeFrom (c : Char) (between : List Char) (last : Nat) : List Char → List Char
  | [] => c :: between
  | d :: r =>
    let reachable := between.isEmpty || last < markClass d
    match if reachable then compose? c d else none with
    | some e => composeFrom e between last r
    | none =>
      if markClass d = 0 then c :: between ++ composeFrom d [] 0 r
      else composeFrom c (between ++ [d]) (markClass d) r

/-- Puts together what can be put together in a text that is taken apart. -/
def composeAll : List Char → List Char
  | [] => []
  | c :: r => if markClass c = 0 then composeFrom c [] 0 r else c :: composeAll r

/-- The composed form of a text. -/
def composed (s : List Char) : List Char :=
  composeAll (decomposed s)

end ImportCensus.Text
