/-
ImportCensus/Toml/Reader.lean

Reading TOML texts.

A text is a sequence of lines.  A line is empty, opens a table with a header, or gives a key a value; a
value in brackets or braces may go over several lines.  What is read is kept as a table that grows line by
line.
-/
import ImportCensus.Toml.Quote
import ImportCensus.Toml.Scalar

namespace ImportCensus.Toml

/-! ### Between the parts -/

/-- Is a character a blank inside a line? -/
def isBlank (c : Char) : Bool :=
  c == ' ' || c == '\t'

/-- The text without the blanks at its start. -/
def skipBlanks (s : List Char) : List Char :=
  s.dropWhile isBlank

/-- Takes in blanks, line breaks and comments. -/
def skipGap (inComment : Bool) : List Char → Except Fault (List Char)
  | [] => .ok []
  | c :: r =>
    if c = '\n' then skipGap false r
    else if c = '\r' then
      if r.head? = some '\n' then skipGap inComment r else fail .controlCharacter (c :: r)
    else if inComment then
      if isRawControl c then fail .controlCharacter (c :: r) else skipGap true r
    else if isBlank c then skipGap false r
    else if c = '#' then skipGap true r
    else .ok (c :: r)

/-- Takes in the rest of a line, which holds nothing but blanks and a comment. -/
def readLineEnd (inComment : Bool) : List Char → Except Fault (List Char)
  | [] => .ok []
  | c :: r =>
    if c = '\n' then .ok r
    else if c = '\r' then
      if r.head? = some '\n' then readLineEnd inComment r else fail .controlCharacter (c :: r)
    else if inComment then
      if isRawControl c then fail .controlCharacter (c :: r) else readLineEnd true r
    else if isBlank c then readLineEnd false r
    else if c = '#' then readLineEnd true r
    else fail .expectedLineEnd (c :: r)

/-! ### Keys -/

/-- Does a character belong to a key without quotes? -/
def isKeyChar (c : Char) : Bool :=
  c.isAlphanum || c == '_' || c == '-'

/-- A key between dots. -/
def readKey (s : List Char) : Except Fault (Key × List Char) :=
  let bare := s.takeWhile isKeyChar
  if bare.isEmpty then do
    let (name, rest) ← readLine s
    return (⟨.between s rest, String.ofList name⟩, rest)
  else
    let rest := s.drop bare.length
    .ok (⟨.between s rest, String.ofList bare⟩, rest)

/-- A key with further keys behind dots, at most `room` of them, and what is behind the blanks that
follow. -/
def readKeys : (room : Nat) → List Char → Except Fault (List Key × List Char)
  | 0, s => fail .expectedKey s
  | room + 1, s => do
    let (key, rest) ← readKey s
    match skipBlanks rest with
    | '.' :: r => do
      let (keys, rest) ← readKeys room (skipBlanks r)
      return (key :: keys, rest)
    | rest => return ([key], rest)

/-- A dotted key. -/
def readDottedKey (s : List Char) : Except Fault (List Key × List Char) :=
  readKeys (s.length + 1) s

/-- A dotted key with the equals sign behind it, and the blanks around that. -/
def readAssigned (s : List Char) : Except Fault (List Key × List Char) := do
  let (keys, rest) ← readDottedKey s
  match rest with
  | '=' :: r => return (keys, skipBlanks r)
  | rest => fail .expectedEquals rest

/-! ### Values -/

/-- The nesting of brackets and braces that a text may have. -/
def nestingLimit : Nat :=
  80

/-- A growth at a place of the text. -/
def growing {α : Type} (before : List Char) (r : Except FaultCause α) : Except Fault α :=
  r.mapError fun cause => ⟨cause, before.length⟩

mutual

/-- A value inside `depth` brackets and braces.  Every nested reading takes one from `room`. -/
def readValue : (room depth : Nat) → List Char → Except Fault (Item × List Char)
  | 0, _, s => fail .expectedValue s
  | room + 1, depth, s =>
    match s with
    | '[' :: r =>
      if nestingLimit ≤ depth then fail .tooDeep s
      else do
        let (items, rest) ← readItems room (depth + 1) r
        return (.list (.between s rest) items, rest)
    | '{' :: r =>
      if nestingLimit ≤ depth then fail .tooDeep s
      else do
        let (fields, rest) ← readFields room (depth + 1) [] r
        return (.table (.between s rest) .braced fields, rest)
    | '"' :: _ | '\'' :: _ => do
      let (value, rest) ← readText s
      return (.text (.between s rest) (String.ofList value), rest)
    | s => readScalar s

/-- The items of a list up to its bracket. -/
def readItems : (room depth : Nat) → List Char → Except Fault (List Item × List Char)
  | 0, _, s => fail .unclosedList s
  | room + 1, depth, s => do
    match ← skipGap false s with
    | ']' :: r => return ([], r)
    | s => do
      let (item, rest) ← readValue room depth s
      match ← skipGap false rest with
      | ',' :: r => do
        let (items, rest) ← readItems room depth r
        return (item :: items, rest)
      | ']' :: r => return ([item], r)
      | rest => fail .unclosedList rest

/-- The entries of a table up to its brace, added to those read so far. -/
def readFields : (room depth : Nat) → Fields → List Char → Except Fault (Fields × List Char)
  | 0, _, _, s => fail .unclosedTable s
  | room + 1, depth, fields, s => do
    match ← skipGap false s with
    | '}' :: r => return (fields, r)
    | s => do
      let (keys, rest) ← readAssigned s
      let (item, rest) ← readValue room depth rest
      let fields ← growing s (assign item keys fields)
      match ← skipGap false rest with
      | ',' :: r => readFields room depth fields r
      | '}' :: r => return (fields, r)
      | rest => fail .unclosedTable rest

end

/-- The room that is enough for all nested readings in a text. -/
def roomFor (s : List Char) : Nat :=
  2 * s.length + 2

/-! ### Lines -/

/-- What has been read of a text: all entries, and the keys of the header that the lines stand under. -/
structure Progress where
  fields : Fields
  header : List Key

/-- The header of a table or of one more table of a list, behind its bracket; `s` starts at the
bracket. -/
def readHeader (isElement : Bool) (progress : Progress) (s r : List Char) :
    Except Fault (Progress × List Char) := do
  let (keys, rest) ← readDottedKey (skipBlanks r)
  let rest ←
    match isElement, rest with
    | false, ']' :: rest => pure rest
    | true, ']' :: ']' :: rest => pure rest
    | _, rest => fail .unclosedHeader rest
  let span := Span.between s rest
  match keys.getLast? with
  | none => fail .expectedKey s
  | some last =>
    let grow := if isElement then openElement span last.name else openTable span last.name
    let fields ← growing s (through grow keys.dropLast progress.fields)
    return (⟨fields, keys⟩, rest)

/-- A key with its value. -/
def readPair (progress : Progress) (s : List Char) : Except Fault (Progress × List Char) := do
  let (keys, rest) ← readAssigned s
  let (item, rest) ← readValue (roomFor rest) 0 rest
  let fields ← growing s (through (assign item keys) progress.header progress.fields)
  return (⟨fields, progress.header⟩, rest)

/-- One line that is not empty. -/
def readEntry (progress : Progress) (s : List Char) : Except Fault (Progress × List Char) :=
  match s with
  | '[' :: '[' :: r => readHeader true progress s r
  | '[' :: r => readHeader false progress s r
  | s => readPair progress s

/-- The lines of a text, at most `room` of them. -/
def readLines : (room : Nat) → Progress → List Char → Except Fault Fields
  | 0, progress, _ => .ok progress.fields
  | room + 1, progress, s => do
    match ← skipGap false s with
    | [] => return progress.fields
    | s => do
      let (progress, rest) ← readEntry progress s
      readLines room progress (← readLineEnd false rest)

/-- The text without the mark that shows the order of bytes. -/
def dropMark (text : List Char) : List Char :=
  match text with
  | '\uFEFF' :: r => r
  | s => s

/-- Reads a text. -/
def read (text : List Char) : Except Fault Item := do
  let fields ← readLines (text.length + 1) ⟨[], []⟩ (dropMark text)
  return .table (.between text []) .headed fields

end ImportCensus.Toml
