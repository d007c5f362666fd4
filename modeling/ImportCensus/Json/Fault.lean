/-
ImportCensus/Json/Fault.lean

What can be wrong with a JSON text, and where.  A position is a line and a column, both as editors
count them: lines from one, and in a line the bytes that have been taken in.  A fault is met either
behind the last character that was taken in or on the next byte, which then counts as taken in.
-/

namespace ImportCensus.Json

/-- What is wrong with a JSON text. -/
inductive FaultCause where
  | endInValue
  | endInList
  | endInObject
  | endInString
  | expectedColon
  | expectedListEnd
  | expectedObjectEnd
  | expectedWord
  | expectedValue
  | badEscape
  | badNumber
  | numberOutOfRange
  | loneSurrogate
  | cutSurrogatePair
  | controlCharacter
  | keyNotText
  | trailingComma
  | trailingCharacters
  | tooDeep
  | notUtf8
  deriving DecidableEq, Repr

/-- The wording of a cause. -/
def FaultCause.message : FaultCause → String
  | endInValue => "EOF while parsing a value"
  | endInList => "EOF while parsing a list"
  | endInObject => "EOF while parsing an object"
  | endInString => "EOF while parsing a string"
  | expectedColon => "expected `:`"
  | expectedListEnd => "expected `,` or `]`"
  | expectedObjectEnd => "expected `,` or `\x7d`"
  | expectedWord => "expected ident"
  | expectedValue => "expected value"
  | badEscape => "invalid escape"
  | badNumber => "invalid number"
  | numberOutOfRange => "number out of range"
  | loneSurrogate => "lone leading surrogate in hex escape"
  | cutSurrogatePair => "unexpected end of hex escape"
  | controlCharacter => "control character (\\u0000-\\u001F) found while parsing a string"
  | keyNotText => "key must be a string"
  | trailingComma => "trailing comma"
  | trailingCharacters => "trailing characters"
  | tooDeep => "recursion limit exceeded"
  | notUtf8 => "invalid unicode code point"

/-- A fault in a text that is read from left to right: what is left of the text behind the last
character that was taken in, and how many bytes of that count as taken in too. -/
structure Fault where
  cause : FaultCause
  rest : List Char
  ahead : Nat
  deriving DecidableEq, Repr

/-- A fault on the next byte. -/
def Fault.at (cause : FaultCause) (rest : List Char) : Fault :=
  ⟨cause, rest, 1⟩

/-- A fault behind the last character. -/
def Fault.behind (cause : FaultCause) (rest : List Char) : Fault :=
  ⟨cause, rest, 0⟩

/-- A line and a column. -/
structure Position where
  line : Nat
  column : Nat
  deriving DecidableEq, Repr

/-- The position behind the first `bytes` bytes of a text that starts at `p`. -/
def Position.advance (p : Position) : (bytes : Nat) → List Char → Position
  | _, [] => p
  | 0, _ => p
  | bytes + 1, c :: r =>
    if c = '\n' then advance ⟨p.line + 1, 0⟩ bytes r
    else if c.utf8Size ≤ bytes + 1 then
      advance ⟨p.line, p.column + c.utf8Size⟩ (bytes + 1 - c.utf8Size) r
    else ⟨p.line, p.column + bytes + 1⟩

/-- The number of bytes of a text. -/
def byteLength (s : List Char) : Nat :=
  s.foldr (fun c n => c.utf8Size + n) 0

/-- The position of a fault in the whole text. -/
def Fault.position (text : List Char) (f : Fault) : Position :=
  Position.advance ⟨1, 0⟩ (byteLength text - byteLength f.rest + f.ahead) text

/-- A message with the position it is about. -/
def located (message : String) (p : Position) : String :=
  message ++ " at line " ++ toString p.line ++ " column " ++ toString p.column

/-- The wording of a fault in the whole text. -/
def Fault.message (text : List Char) (f : Fault) : String :=
  located f.cause.message (f.position text)

end ImportCensus.Json
