/-
ImportCensus/Text/Utf8.lean

Texts as bytes.  Every text has one encoding; bytes that are no encoding are either refused, or read with
the replacement character in the place of every maximal run of bytes that starts like a character and
does not go on like one, or read one by one.

The readers share the rule for the head of the bytes (`head`), so they agree wherever nothing has to be
replaced.
-/

namespace ImportCensus.Text

/-- The bytes of a text. -/
abbrev Bytes : Type :=
  List UInt8

/-- The encoding of a text. -/
def encode (s : List Char) : Bytes :=
  s.flatMap String.utf8EncodeChar

/-! ### The head of a sequence of bytes -/

/-- Does a byte go on with a character? -/
def isContinuation (b : UInt8) : Bool :=
  0x80 ≤ b && b ≤ 0xBF

/-- The bytes that may stand behind the first byte of a character of three or four bytes. -/
def isSecond (first second : UInt8) : Bool :=
  if first = 0xE0 then 0xA0 ≤ second && second ≤ 0xBF
  else if first = 0xED then 0x80 ≤ second && second ≤ 0x9F
  else if first = 0xF0 then 0x90 ≤ second && second ≤ 0xBF
  else if first = 0xF4 then 0x80 ≤ second && second ≤ 0x8F
  else isContinuation second

/-- The six bits that a continuation byte carries. -/
def payload (b : UInt8) : Nat :=
  b.toNat % 64

/-- What stands at the head of bytes: the character, if they start with one, and how many bytes behind
the first one belong to it or to the run that takes its place. -/
def head (first : UInt8) (rest : Bytes) : Option Char × Nat :=
  if first < 0x80 then (some (Char.ofNat first.toNat), 0)
  else if 0xC2 ≤ first && first ≤ 0xDF then
    match rest with
    | b :: _ =>
      if isContinuation b then (some (Char.ofNat (first.toNat % 32 * 64 + payload b)), 1)
      else (none, 0)
    | [] => (none, 0)
  else if 0xE0 ≤ first && first ≤ 0xEF then
    match rest with
    | b :: rest =>
      if isSecond first b then
        match rest with
        | c :: _ =>
          if isContinuation c then
            (some (Char.ofNat (first.toNat % 16 * 4096 + payload b * 64 + payload c)), 2)
          else (none, 1)
        | [] => (none, 1)
      else (none, 0)
    | [] => (none, 0)
  else if 0xF0 ≤ first && first ≤ 0xF4 then
    match rest with
    | b :: rest =>
      if isSecond first b then
        match rest with
        | c :: rest =>
          if isContinuation c then
            match rest with
            | d :: _ =>
              if isContinuation d then
                (some (Char.ofNat (first.toNat % 8 * 262144 + payload b * 4096
                  + payload c * 64 + payload d)), 3)
              else (none, 2)
            | [] => (none, 2)
          else (none, 1)
        | [] => (none, 1)
      else (none, 0)
    | [] => (none, 0)
  else (none, 0)

/-! ### Readers -/

/-- The character that takes the place of what is no character. -/
def replacement : Char :=
  Char.ofNat 0xFFFD

/-- The text of bytes with replacements; the next `skip` bytes belong to what was read already. -/
def decodeLossyFrom (skip : Nat) : Bytes → List Char
  | [] => []
  | b :: r =>
    match skip with
    | skip + 1 => decodeLossyFrom skip r
    | 0 => (head b r).1.getD replacement :: decodeLossyFrom (head b r).2 r

/-- The text of bytes with replacements. -/
def decodeLossy (bytes : Bytes) : List Char :=
  decodeLossyFrom 0 bytes

/-- The characters of bytes, and nothing for each byte that belongs to none; the next `skip` bytes belong to
what was read already. -/
def decodeEachFrom (skip : Nat) : Bytes → List (Option Char)
  | [] => []
  | b :: r =>
    match skip with
    | skip + 1 => decodeEachFrom skip r
    | 0 =>
      match head b r with
      | (some c, more) => some c :: decodeEachFrom more r
      | (none, _) => none :: decodeEachFrom 0 r

/-- The characters of bytes, and nothing for each byte that belongs to none. -/
def decodeEach (bytes : Bytes) : List (Option Char) :=
  decodeEachFrom 0 bytes

/-- The text of bytes, if they are an encoding; the next `skip` bytes belong to what was read already. -/
def decodeFrom? (skip : Nat) : Bytes → Option (List Char)
  | [] => some []
  | b :: r =>
    match skip with
    | skip + 1 => decodeFrom? skip r
    | 0 =>
      match head b r with
      | (some c, more) => (decodeFrom? more r).map (c :: ·)
      | (none, _) => none

/-- The text of bytes, if they are an encoding. -/
def decode? (bytes : Bytes) : Option (List Char) :=
  decodeFrom? 0 bytes

end ImportCensus.Text
