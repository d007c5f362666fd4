/-
ImportCensus/Json/Direct.lean

Reading one known thing from a JSON text without building its data first.  What does not fit is then
reported where it stands: behind a scalar, and before a list or an object.  Values that nobody asks for
are skipped: only their shape is looked at, so they may be nested to any depth and hold numbers of any
size, and their texts may hold bytes that belong to no character.
-/
import ImportCensus.Datum.Mismatch
import ImportCensus.Json.Bytes

namespace ImportCensus.Json

/-! ### Complaints -/

/-- What is wrong with a text that should hold one known thing. -/
inductive Complaint where
  | fault (cause : FaultCause)
  | misfit (cause : Cause)
  /-- An entry of an object comes twice. -/
  | repeated (field : String)
  deriving DecidableEq, Repr

/-- The wording of a complaint. -/
def Complaint.message : Complaint → String
  | fault cause => cause.message
  | misfit cause => cause.message .scientific
  | repeated field => "duplicate field `" ++ field ++ "`"

/-- A complaint, what is left of the text behind the last character that was taken in, and how many
bytes of that count as taken in too. -/
structure Objection where
  complaint : Complaint
  rest : List Char
  ahead : Nat
  deriving DecidableEq, Repr

/-- A fault of the text as an objection. -/
def Fault.objection (f : Fault) : Objection :=
  ⟨.fault f.cause, f.rest, f.ahead⟩

/-- The position of an objection in the whole text. -/
def Objection.position (text : List Char) (o : Objection) : Position :=
  Fault.position text ⟨.expectedValue, o.rest, o.ahead⟩

/-- The wording of an objection in the whole text. -/
def Objection.message (text : List Char) (o : Objection) : String :=
  located o.complaint.message (o.position text)

/-- A fault on the next byte. -/
def faulty {α : Type} (cause : FaultCause) (s : List Char) : Except Objection α :=
  .error ⟨.fault cause, s, if s.isEmpty then 0 else 1⟩

/-- A misfit before what is left. -/
def misfit {α : Type} (cause : Cause) (rest : List Char) : Except Objection α :=
  .error ⟨.misfit cause, rest, 0⟩

/-- The text without the blanks at its start. -/
def skipSpace (s : List Char) : List Char :=
  s.dropWhile isSpace

/-! ### One unsigned integer -/

/-- The complaint about a value that is not what was wanted. -/
def unwanted {α : Type} (gaps : List Nat) (wanted : Wanted) (c : Char) (r : List Char) :
    Except Objection α :=
  let wrong (found : Found) (rest : List Char) : Except Objection α :=
    misfit (.wrongKind found wanted) rest
  if c = '"' then
    match readWholeText gaps r with
    | .ok (s, rest) => wrong (.text (String.ofList s)) rest
    | .error f => .error f.objection
  else if c = '-' ∨ c.isDigit then
    match readNumber (c :: r) with
    | .ok (d, rest) => wrong d.found rest
    | .error f => .error f.objection
  else if c = '[' then wrong .sequence (c :: r)
  else if c = '{' then wrong .map (c :: r)
  else
    match wordAt c with
    | some (word, d) =>
      match readWord word r with
      | .ok rest => wrong d.found rest
      | .error f => .error f.objection
    | none => faulty .expectedValue (c :: r)

/-- An unsigned integer of 64 bits behind blanks. -/
def readCount (gaps : List Nat) (s : List Char) : Except Objection (Nat × List Char) :=
  match skipSpace s with
  | [] => faulty .endInValue []
  | c :: r =>
    if c = '-' ∨ c.isDigit then
      match readNumber (c :: r) with
      | .ok (.int n, rest) =>
        if 0 ≤ n then .ok (n.toNat, rest) else misfit (.outOfRange n .word64) rest
      | .ok (d, rest) => misfit (.wrongKind d.found (.unsigned .word64)) rest
      | .error f => .error f.objection
    else unwanted gaps (.unsigned .word64) c r

/-- Nothing but blanks. -/
def readEnd {α : Type} (a : α) (s : List Char) : Except Objection α :=
  match skipSpace s with
  | [] => .ok a
  | rest => faulty .trailingCharacters rest

/-- A text that is one unsigned integer of 64 bits. -/
def countOf (text : List Char) : Except Objection Nat := do
  let (n, rest) ← readCount [] text
  readEnd n rest

/-! ### Values that are skipped -/

/-- Skips a text behind its opening quote.  The next `skip` characters are known to belong to it. -/
def skipBody (skip : Nat) : List Char → Except Objection (List Char)
  | [] => faulty .endInString []
  | c :: r =>
    match skip with
    | skip + 1 => skipBody skip r
    | 0 =>
      if c = '"' then .ok r
      else if c = '\\' then
        match r with
        | [] => faulty .endInString []
        | 'u' :: digits =>
          match readHex digits with
          | .ok _ => skipBody 5 r
          | .error f => .error f.objection
        | e :: _ => if "\"\\/bfnrt".toList.contains e then skipBody 1 r else faulty .badEscape r
      else if c.toNat < 0x20 then faulty .controlCharacter (c :: r)
      else skipBody 0 r

/-- Skips the digits of which there has to be one. -/
def skipDigits (s : List Char) : Except Objection (List Char) :=
  match s with
  | [] => faulty .endInValue []
  | c :: r => if c.isDigit then .ok (r.dropWhile Char.isDigit) else faulty .badNumber (c :: r)

/-- Skips an exponent part, if there is one. -/
def skipExponent (s : List Char) : Except Objection (List Char) :=
  match s with
  | 'e' :: r | 'E' :: r =>
    match r with
    | '+' :: r | '-' :: r => skipDigits r
    | r => skipDigits r
  | s => .ok s

/-- Skips a number behind its sign. -/
def skipUnsigned (s : List Char) : Except Objection (List Char) := do
  let rest ← skipDigits s
  let digits := s.take (s.length - rest.length)
  if digits.head? = some '0' ∧ 1 < digits.length then faulty .badNumber (s.drop 1)
  match rest with
  | '.' :: r => skipExponent (← skipDigits r)
  | rest => skipExponent rest

/-- Skips a scalar. -/
def skipScalar (c : Char) (r : List Char) : Except Objection (List Char) :=
  if c = '"' then skipBody 0 r
  else if c = '-' then skipUnsigned r
  else if c.isDigit then skipUnsigned (c :: r)
  else
    match wordAt c with
    | some (word, _) => (readWord word r).mapError Fault.objection
    | none => faulty .expectedValue (c :: r)

/-- What may come next in a value that is skipped. -/
inductive SkipMode where
  | value
  /-- The first entry of the innermost container, or its end. -/
  | first
  /-- A key of the innermost object. -/
  | key
  /-- The colon behind a key. -/
  | colon
  /-- A comma or the end of the innermost container. -/
  | behindValue

/-- The mode in which the entries of a container are skipped. -/
def entryMode (isObject : Bool) : SkipMode :=
  if isObject then .key else .value

/-- Skips a value inside open containers, of which it is known which ones are objects, innermost first.
The next `skip` characters were skipped already. -/
def skipFrom (mode : SkipMode) (opened : List Bool) (skip : Nat) :
    List Char → Except Objection (List Char)
  | [] =>
    match mode, opened with
    | .value, _ | .behindValue, [] => faulty .endInValue []
    | .first, isObject :: _ | .behindValue, isObject :: _ =>
      faulty (if isObject then .endInObject else .endInList) []
    | _, _ => faulty .endInObject []
  | c :: r =>
    match skip with
    | skip + 1 => skipFrom mode opened skip r
    | 0 =>
      let go (mode : SkipMode) (opened : List Bool) (rest : List Char) :=
        skipFrom mode opened (r.length - rest.length) r
      let close (outer : List Bool) :=
        if outer.isEmpty then .ok r else skipFrom .behindValue outer 0 r
      if isSpace c then skipFrom mode opened 0 r
      else
        match mode with
        | .value | .first =>
          match mode, c, opened with
          | .first, ']', false :: outer => close outer
          | .first, '}', true :: outer => close outer
          | .first, _, true :: _ =>
            if c = '"' then
              match skipBody 0 r with
              | .ok rest => go .colon opened rest
              | .error o => .error o
            else faulty .keyNotText (c :: r)
          | _, _, _ =>
            if c = '[' then skipFrom .first (false :: opened) 0 r
            else if c = '{' then skipFrom .first (true :: opened) 0 r
            else
              match skipScalar c r with
              | .ok rest => if opened.isEmpty then .ok rest else go .behindValue opened rest
              | .error o => .error o
        | .key =>
          if c = '"' then
            match skipBody 0 r with
            | .ok rest => go .colon opened rest
            | .error o => .error o
          else faulty .keyNotText (c :: r)
        | .colon => if c = ':' then skipFrom .value opened 0 r else faulty .expectedColon (c :: r)
        | .behindValue =>
          match opened with
          | [] => .ok (c :: r)
          | isObject :: outer =>
            if c = ',' then skipFrom (entryMode isObject) opened 0 r
            else if c = (if isObject then '}' else ']') then close outer
            else faulty (if isObject then .expectedObjectEnd else .expectedListEnd) (c :: r)

/-- Skips a value behind blanks. -/
def skipValue (s : List Char) : Except Objection (List Char) :=
  skipFrom .value [] 0 s

end ImportCensus.Json
