/-
ImportCensus/Json/Quote.lean

Texts in JSON: how they are read and how they are written.  A quote, a backslash and the controls below
U+0020 are written as escapes and everything else as it is; reading knows more escapes than writing.
-/
import ImportCensus.Json.Fault
import ImportCensus.Text.Hex

namespace ImportCensus.Json

open Text

/-! ### Reading -/

/-- The value of four hexadecimal digits. -/
def hexValue4? (a b c d : Char) : Option Nat := do
  return ((← hexValue? a) * 16 + (← hexValue? b)) * 256 + ((← hexValue? c) * 16 + (← hexValue? d))

/-- Four hexadecimal digits at the head of a text. -/
def readHex (s : List Char) : Except Fault (Nat × List Char) :=
  match s with
  | a :: b :: c :: d :: r =>
    match hexValue4? a b c d with
    | some n => .ok (n, r)
    | none => .error ⟨.badEscape, s, 4⟩
  | s =>
    if byteLength s < 4 then .error (.behind .endInString []) else .error ⟨.badEscape, s, 4⟩

/-- Does a code unit open a surrogate pair? -/
def isLeading (n : Nat) : Bool :=
  0xD800 ≤ n && n ≤ 0xDBFF

/-- Does a code unit close a surrogate pair? -/
def isTrailing (n : Nat) : Bool :=
  0xDC00 ≤ n && n ≤ 0xDFFF

/-- The character of an escape with hexadecimal digits, behind its letter, and how many characters it
takes.  A character beyond the basic plane is written as a pair of escapes. -/
def readHexEscape (s : List Char) : Except Fault (Char × Nat) := do
  let (n, r) ← readHex s
  if isTrailing n then .error (.behind .loneSurrogate r)
  else if !isLeading n then return (Char.ofNat n, 4)
  else
    match r with
    | [] => .error (.behind .endInString [])
    | '\\' :: r =>
      match r with
      | [] => .error (.behind .endInString [])
      | 'u' :: r =>
        let (m, r) ← readHex r
        if isTrailing m then
          return (Char.ofNat (0x10000 + (n - 0xD800) * 0x400 + (m - 0xDC00)), 10)
        else .error (.behind .loneSurrogate r)
      | r => .error (.at .cutSurrogatePair r)
    | r => .error (.at .cutSurrogatePair r)

/-- The character of an escape, behind the backslash, and how many characters it takes. -/
def readEscape (s : List Char) : Except Fault (Char × Nat) :=
  match s with
  | [] => .error (.behind .endInString [])
  | '"' :: _ => .ok ('"', 1)
  | '\\' :: _ => .ok ('\\', 1)
  | '/' :: _ => .ok ('/', 1)
  | 'b' :: _ => .ok ('\x08', 1)
  | 'f' :: _ => .ok ('\x0c', 1)
  | 'n' :: _ => .ok ('\n', 1)
  | 'r' :: _ => .ok ('\r', 1)
  | 't' :: _ => .ok ('\t', 1)
  | 'u' :: r => do
    let (c, n) ← readHexEscape r
    return (c, n + 1)
  | s => .error (.at .badEscape s)

/-- What a character inside a text stands for, and how many further characters belong to it. -/
def readUnit (c : Char) (r : List Char) : Except Fault (Char × Nat) :=
  if c = '\\' then readEscape r
  else if c.toNat < 0x20 then .error (.at .controlCharacter (c :: r))
  else .ok (c, 0)

/-- The characters of a text up to its closing quote, and what is behind it.  The next `skip`
characters belong to an escape that was already read. -/
def readBody (skip : Nat) : List Char → Except Fault (List Char × List Char)
  | [] => .error (.behind .endInString [])
  | c :: r =>
    match skip with
    | skip + 1 => readBody skip r
    | 0 =>
      if c = '"' then .ok ([], r)
      else
        match readUnit c r with
        | .error f => .error f
        | .ok (d, more) =>
          match readBody more r with
          | .error f => .error f
          | .ok (ds, behind) => .ok (d :: ds, behind)

/-- A text at the head of another, behind its opening quote. -/
def readText (s : List Char) : Except Fault (List Char × List Char) :=
  readBody 0 s

theorem length_lt_of_readBody {skip : Nat} {s ds rest : List Char}
    (h : readBody skip s = .ok (ds, rest)) : rest.length < s.length := by
  induction s generalizing skip ds with
  | nil => simp [readBody] at h
  | cons c r ih =>
    simp only [List.length_cons]
    simp only [readBody] at h
    split at h
    · exact Nat.lt_succ_of_lt (ih h)
    · split at h
      · obtain ⟨-, rfl⟩ := Prod.mk.inj (Except.ok.inj h)
        exact Nat.lt_succ_self _
      · split at h
        · cases h
        · split at h
          · cases h
          · next hb =>
            obtain ⟨-, rfl⟩ := Prod.mk.inj (Except.ok.inj h)
            exact Nat.lt_succ_of_lt (ih hb)

/-! ### Writing -/

/-- One character inside a text. -/
def writeChar (c : Char) : List Char :=
  match c with
  | '"' => ['\\', '"']
  | '\\' => ['\\', '\\']
  | '\x08' => ['\\', 'b']
  | '\x0c' => ['\\', 'f']
  | '\n' => ['\\', 'n']
  | '\r' => ['\\', 'r']
  | '\t' => ['\\', 't']
  | c =>
    if c.toNat < 0x20 then
      ['\\', 'u', '0', '0', hexDigit (c.toNat / 16), hexDigit (c.toNat % 16)]
    else [c]

/-- A text between its quotes. -/
def writeText (s : List Char) : List Char :=
  '"' :: s.flatMap writeChar ++ ['"']

end ImportCensus.Json
