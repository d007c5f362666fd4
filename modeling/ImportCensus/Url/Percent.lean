/-
ImportCensus/Url/Percent.lean

Percent escapes: a byte written as `%` and two hexadecimal digits.  Controls and everything beyond ASCII
are always escaped; each part of a URL names the further characters that it does not hold as they are.
-/
import ImportCensus.Text.Hex
import ImportCensus.Text.Utf8

namespace ImportCensus.Url

open Text

/-! ### Sets of characters to escape -/

/-- The characters of a fragment that are escaped. -/
def fragmentSet : List Char :=
  [' ', '"', '<', '>', '`']

/-- The characters of a path that are escaped. -/
def pathSet : List Char :=
  fragmentSet ++ ['#', '?', '{', '}']

/-- The characters of a user name or a password that are escaped. -/
def userSet : List Char :=
  pathSet ++ ['/', ':', ';', '=', '@', '[', '\\', ']', '^', '|']

/-- The characters of a query that are escaped. -/
def querySet : List Char :=
  [' ', '"', '#', '<', '>']

/-- The characters of a query behind a scheme of the web that are escaped. -/
def webQuerySet : List Char :=
  querySet ++ ['\'']

/-! ### Writing -/

/-- The escape of a byte. -/
def escapeByte (b : UInt8) : List Char :=
  ['%', capitalHexDigit (b.toNat / 16), capitalHexDigit (b.toNat % 16)]

/-- Is a character left as it is, if those of a set are escaped? -/
def isPlain (set : List Char) (c : Char) : Bool :=
  0x20 ≤ c.toNat && c.toNat < 0x7F && !set.contains c

/-- A character, escaped if it has to be. -/
def escapeChar (set : List Char) (c : Char) : List Char :=
  if isPlain set c then [c] else (String.utf8EncodeChar c).flatMap escapeByte

/-- A text, its characters escaped where they have to be. -/
def escape (set : List Char) (s : List Char) : List Char :=
  s.flatMap (escapeChar set)

/-! ### Reading -/

/-- The bytes that a text stands for.  A percent sign without two digits stands for itself. -/
def unescape : List Char → Bytes
  | [] => []
  | '%' :: a :: b :: r =>
    match hexValue? a, hexValue? b with
    | some x, some y => UInt8.ofNat (16 * x + y) :: unescape r
    | _, _ => encode ['%'] ++ unescape (a :: b :: r)
  | c :: r => encode [c] ++ unescape r

end ImportCensus.Url
