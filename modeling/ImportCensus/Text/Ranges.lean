/-
ImportCensus/Text/Ranges.lean

Sets of characters given as lists of closed ranges of code points, and the two questions this library
asks of single characters: is it blank, and is it a word character.
-/
import ImportCensus.Text.WordTable

namespace ImportCensus.Text

/-- Does the code point of `c` lie in one of the closed ranges? -/
def inRanges (ranges : List (Nat × Nat)) (c : Char) : Bool :=
  ranges.any fun r => r.1 ≤ c.toNat && c.toNat ≤ r.2

/-! ### Blanks -/

/-- The white space of Unicode: the ASCII controls from tab to carriage return, the space, and the
blanks and line separators beyond ASCII. -/
def blankRanges : List (Nat × Nat) :=
  [(0x09, 0x0D), (0x20, 0x20), (0x85, 0x85), (0xA0, 0xA0), (0x1680, 0x1680), (0x2000, 0x200A),
   (0x2028, 0x2029), (0x202F, 0x202F), (0x205F, 0x205F), (0x3000, 0x3000)]

/-- Is `c` white space? -/
def isBlank (c : Char) : Bool :=
  inRanges blankRanges c

/-! ### Word characters -/

/-- Is `c` a word character: alphabetic, a mark, a decimal digit, a connector or a join control? -/
def isWord (c : Char) : Bool :=
  if c.toNat < 0x80 then c.isAlphanum || c == '_' else inRanges wordRanges c

end ImportCensus.Text
