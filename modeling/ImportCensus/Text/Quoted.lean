/-
ImportCensus/Text/Quoted.lean

The quoted form of a text in messages.  A text is put between double quotes; the quote and the
backslash are escaped, the common controls have short escapes, and every other character that would
not be seen is shown by its code point in lower-case hexadecimal digits.
-/
import ImportCensus.Text.Ranges
import ImportCensus.Text.HiddenTable

namespace ImportCensus.Text

/-- Is `c` a character that a quoted text shows by its code point? -/
def isHidden (c : Char) : Bool :=
  if c.toNat < 0x80 then c.toNat < 0x20 || c.toNat == 0x7F else inRanges hiddenRanges c

/-- One character inside a quoted text. -/
def quotedChar (c : Char) : List Char :=
  match c with
  | '"' => ['\\', '"']
  | '\\' => ['\\', '\\']
  | '\n' => ['\\', 'n']
  | '\r' => ['\\', 'r']
  | '\t' => ['\\', 't']
  | '\x00' => ['\\', '0']
  | c => if isHidden c then ['\\', 'u', '{'] ++ Nat.toDigits 16 c.toNat ++ ['}'] else [c]

/-- The quoted form of a text. -/
def quoted (s : String) : String :=
  String.ofList ('"' :: s.toList.flatMap quotedChar ++ ['"'])

end ImportCensus.Text
