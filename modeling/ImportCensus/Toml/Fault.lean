/-
ImportCensus/Toml/Fault.lean

What can be wrong with a TOML text, and where.  Places are kept as the number of characters that are
left of the text there.  A message shows the line, with a row of carets under the part it is about.

The wordings of the causes are this library's own and not those of the tool that it models: nothing is said here
about them but that a text is refused, and where.
-/

namespace ImportCensus.Toml

/-- What is wrong with a TOML text. -/
inductive FaultCause where
  | expectedKey
  | expectedEquals
  | expectedValue
  | expectedLineEnd
  | unclosedHeader
  | unclosedList
  | unclosedTable
  | unclosedText
  | badEscape
  | controlCharacter
  | badScalar
  | numberTooLarge
  | repeatedKey
  /-- A key leads through something that is no table or that may not grow. -/
  | notExtensible
  | tooDeep
  deriving DecidableEq, Repr

/-- The wording of a cause. -/
def FaultCause.message : FaultCause → String
  | expectedKey => "expected a key"
  | expectedEquals => "expected `=` behind a key"
  | expectedValue => "expected a value"
  | expectedLineEnd => "expected the end of the line"
  | unclosedHeader => "the header of a table is not closed"
  | unclosedList => "a list is not closed"
  | unclosedTable => "a table is not closed"
  | unclosedText => "a text is not closed"
  | badEscape => "unknown escape in a text"
  | controlCharacter => "control character"
  | badScalar => "neither a number nor a date nor a truth value"
  | numberTooLarge => "number is too large"
  | repeatedKey => "key is already there"
  | notExtensible => "key leads through something that cannot be extended"
  | tooDeep => "too deeply nested"

/-- A part of a text: how many characters are left where it starts and where it stops. -/
structure Span where
  start : Nat
  stop : Nat
  deriving DecidableEq, Repr

/-- The part of a text between two of its ends. -/
def Span.between (before behind : List Char) : Span :=
  ⟨before.length, behind.length⟩

/-- A fault in a text. -/
structure Fault where
  cause : FaultCause
  /-- How many characters are left of the text where the fault was met. -/
  left : Nat
  deriving DecidableEq, Repr

/-- The failure before what is left of a text. -/
def fail {α : Type} (cause : FaultCause) (rest : List Char) : Except Fault α :=
  .error ⟨cause, rest.length⟩

/-! ### Messages -/

/-- The number of bytes of a text. -/
def byteLength (s : List Char) : Nat :=
  s.foldr (fun c n => c.utf8Size + n) 0

/-- A message with the line that it is about.  There are as many carets as the part has bytes, but they
do not go beyond the line, and there is one at least. -/
def excerpt (text : List Char) (span : Span) (message : String) : String :=
  let before := text.take (text.length - span.start)
  let column := (before.reverse.takeWhile (· != '\n')).length
  let line := (text.drop (before.length - column)).takeWhile (· != '\n')
  let number := toString (before.count '\n' + 1)
  let part := (text.drop before.length).take (span.start - span.stop)
  let carets := max 1 (min (byteLength part) (byteLength line - column))
  let gutter := String.ofList (List.replicate (number.length + 1) ' ') ++ "|"
  "TOML parse error at line " ++ number ++ ", column " ++ toString (column + 1) ++ "\n"
    ++ gutter ++ "\n"
    ++ number ++ " | " ++ String.ofList line ++ "\n"
    ++ gutter ++ String.ofList (List.replicate (column + 1) ' ' ++ List.replicate carets '^') ++ "\n"
    ++ message ++ "\n"

/-- The wording of a fault in the whole text. -/
def Fault.message (text : List Char) (f : Fault) : String :=
  excerpt text ⟨f.left, f.left⟩ f.cause.message

end ImportCensus.Toml
