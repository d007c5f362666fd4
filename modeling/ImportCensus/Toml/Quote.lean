/-
ImportCensus/Toml/Quote.lean

Texts in TOML.  There are four ways to quote one: basic texts with double quotes, in which a backslash
escapes, and literal texts with single quotes, in which it does not; and each of them on one line or,
with three quotes at each end, on several.

A text is written in the first of these ways that needs no escape for what it holds.
-/
import ImportCensus.Text.Hex
import ImportCensus.Toml.Fault

namespace ImportCensus.Toml

open Text

/-! ### Reading escapes -/

/-- The number of so many hexadecimal digits at the head of a text. -/
def hexNumber? (count : Nat) (s : List Char) : Option Nat :=
  if (s.take count).length < count then none
  else
    (s.take count).foldl (fun sum c => do return 16 * (← sum) + (← hexValue? c)) (some 0)

/-- The character that an escape with digits stands for, and how long the escape is. -/
def numbered? (count : Nat) (digits : List Char) : Option (Char × Nat) :=
  (hexNumber? count digits).bind fun n =>
    if n.isValidChar then some (Char.ofNat n, count + 1) else none

/-- The character that an escape stands for, and how long the escape is behind its backslash. -/
def escaped? (s : List Char) : Option (Char × Nat) :=
  match s with
  | 'b' :: _ => some ('\x08', 1)
  | 't' :: _ => some ('\t', 1)
  | 'n' :: _ => some ('\n', 1)
  | 'f' :: _ => some ('\x0c', 1)
  | 'r' :: _ => some ('\r', 1)
  | 'e' :: _ => some ('\x1b', 1)
  | '"' :: _ => some ('"', 1)
  | '\\' :: _ => some ('\\', 1)
  | 'x' :: digits => numbered? 2 digits
  | 'u' :: digits => numbered? 4 digits
  | 'U' :: digits => numbered? 8 digits
  | _ => none

/-- Is every carriage return in a text followed by a line feed? -/
def hasWholeLineBreaks : List Char → Bool
  | [] => true
  | '\r' :: '\n' :: r => hasWholeLineBreaks r
  | '\r' :: _ => false
  | _ :: r => hasWholeLineBreaks r

/-- Is a character a blank or part of a line break? -/
def isGap (c : Char) : Bool :=
  c == ' ' || c == '\t' || c == '\n' || c == '\r'

/-- How many characters a backslash at the end of a line takes with it: the line break and all blanks
and line breaks around it. -/
def foldedBreak? (s : List Char) : Option Nat :=
  let gap := s.takeWhile isGap
  if gap.contains '\n' && hasWholeLineBreaks gap then some gap.length else none

/-! ### Reading texts -/

/-- Is a character a control that no text holds as it is? -/
def isRawControl (c : Char) : Bool :=
  (c.toNat < 0x20 && c != '\t') || c == '\x7f'

/-- Does a run of so many quotes end a text on several lines with its first three?  Up to two quotes
before the last three belong to the text. -/
def closesAt (run : Nat) : Bool :=
  run == 3 || 5 < run

/-- One character of a text that has not ended, and how many further characters it takes. -/
def readUnit (literal several : Bool) (c : Char) (r : List Char) : Except Fault (Char × Nat) :=
  if c = '\\' ∧ !literal then
    match escaped? r with
    | some (d, n) => .ok (d, n)
    | none => fail .badEscape (c :: r)
  else if several ∧ (c = '\n' ∨ (c = '\r' ∧ r.head? = some '\n')) then .ok (c, 0)
  else if c = '\n' ∨ c = '\r' then fail .unclosedText (c :: r)
  else if isRawControl c then fail .controlCharacter (c :: r)
  else .ok (c, 0)

/-- The characters of a text up to the quote that ends it, and what is behind its last quote.  The next
`skip` characters were taken in already. -/
def readBody (literal several : Bool) (skip : Nat) :
    List Char → Except Fault (List Char × List Char)
  | [] => fail .unclosedText []
  | c :: r =>
    match skip with
    | skip + 1 => readBody literal several skip r
    | 0 =>
      let quote := if literal then '\'' else '"'
      let run := ((c :: r).takeWhile (· == quote)).length
      if c = quote ∧ !several then .ok ([], r)
      else if c = quote ∧ closesAt run then .ok ([], r.drop 2)
      else
        match if c = '\\' ∧ !literal ∧ several then foldedBreak? r else none with
        | some n => readBody literal several n r
        | none =>
          match readUnit literal several c r with
          | .error f => .error f
          | .ok (d, n) =>
            match readBody literal several n r with
            | .error f => .error f
            | .ok (ds, rest) => .ok (d :: ds, rest)

/-- A text without the line break it starts with. -/
def dropFirstBreak (s : List Char) : List Char :=
  match s with
  | '\n' :: r => r
  | '\r' :: '\n' :: r => r
  | s => s

/-- A text at the head of another, with its quotes, and what is behind it. -/
def readText (s : List Char) : Except Fault (List Char × List Char) :=
  match s with
  | '"' :: '"' :: '"' :: r => readBody false true 0 (dropFirstBreak r)
  | '\'' :: '\'' :: '\'' :: r => readBody true true 0 (dropFirstBreak r)
  | '"' :: r => readBody false false 0 r
  | '\'' :: r => readBody true false 0 r
  | s => fail .expectedValue s

/-- A text on one line at the head of another, with its quotes, and what is behind it. -/
def readLine (s : List Char) : Except Fault (List Char × List Char) :=
  match s with
  | '"' :: r => readBody false false 0 r
  | '\'' :: r => readBody true false 0 r
  | s => fail .expectedKey s

/-! ### Writing -/

/-- The longest run of a character. -/
def longestRun (x : Char) (s : List Char) : Nat :=
  (s.foldl
    (fun (run, longest) c =>
      if c = x then (run + 1, max longest (run + 1)) else (0, longest))
    ((0, 0) : Nat × Nat)).2

/-- Is a character a control that has to be escaped, other than a line feed? -/
def isCode (c : Char) : Bool :=
  isRawControl c && c != '\n'

/-- The ways to quote a text. -/
inductive Quoting where
  | basic
  | literal
  | severalBasic
  | severalLiteral
  deriving DecidableEq, Repr

/-- The way in which a text is quoted. -/
def quotingFor (s : List Char) : Quoting :=
  let codes := s.any isCode
  let slashes := s.contains '\\'
  let breaks := s.contains '\n'
  let double := longestRun '"' s
  let single := longestRun '\'' s
  if !codes && !slashes && double == 0 && !breaks then .basic
  else if !codes && single == 0 && !breaks then .literal
  else if !codes && !slashes && double ≤ 2 then .severalBasic
  else if !codes && single ≤ 2 then .severalLiteral
  else if breaks then .severalBasic
  else .basic

/-- The escape of a character that a basic text does not hold as it is, quotes and line feeds apart. -/
def writeUnit (c : Char) : List Char :=
  match c with
  | '\x08' => ['\\', 'b']
  | '\t' => ['\\', 't']
  | '\x0c' => ['\\', 'f']
  | '\r' => ['\\', 'r']
  | '\\' => ['\\', '\\']
  | c =>
    if isRawControl c then
      ['\\', 'u', '0', '0', capitalHexDigit (c.toNat / 16), capitalHexDigit (c.toNat % 16)]
    else [c]

/-- The body of a basic text on one line. -/
def writeBasic (s : List Char) : List Char :=
  s.flatMap fun c =>
    if c = '"' then ['\\', '"'] else if c = '\n' then ['\\', 'n'] else writeUnit c

/-- The body of a basic text on several lines, behind `run` quotes: of each three quotes in a row the
third one is escaped. -/
def writeSeveral (run : Nat) : List Char → List Char
  | [] => []
  | c :: r =>
    if c = '"' then
      if run = 2 then '\\' :: '"' :: writeSeveral 0 r else '"' :: writeSeveral (run + 1) r
    else if c = '\n' then '\n' :: writeSeveral 0 r
    else writeUnit c ++ writeSeveral 0 r

/-- A text with its quotes.  If it goes over several lines, it starts on a line of its own. -/
def writeText (s : List Char) : List Char :=
  let opening := if s.contains '\n' then ['\n'] else []
  match quotingFor s with
  | .basic => '"' :: writeBasic s ++ ['"']
  | .literal => '\'' :: s ++ ['\'']
  | .severalBasic =>
    List.replicate 3 '"' ++ opening ++ writeSeveral 0 s ++ List.replicate 3 '"'
  | .severalLiteral => List.replicate 3 '\'' ++ opening ++ s ++ List.replicate 3 '\''

end ImportCensus.Toml
