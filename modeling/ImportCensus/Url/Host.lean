/-
ImportCensus/Url/Host.lean

Hosts: domain names, and numeric addresses of 32 and of 128 bits.  An address has many spellings and is
written in one: four decimal numbers, or eight groups of hexadecimal digits of which the first longest
run of zeros is left out.
-/
import ImportCensus.Url.Domain
import ImportCensus.Url.Percent

namespace ImportCensus.Url

open Text

/-! ### Faults -/

/-- What is wrong with a text that should be a URL. -/
inductive Fault where
  /-- There is no scheme, and nothing that the text could be relative to. -/
  | noBase
  | emptyHost
  | badPort
  | badAddress4
  | badAddress6
  | badName
  | badHostCharacter
  deriving DecidableEq, Repr

/-- The wording of a fault. -/
def Fault.message : Fault → String
  | noBase => "relative URL without a base"
  | emptyHost => "empty host"
  | badPort => "invalid port number"
  | badAddress4 => "invalid IPv4 address"
  | badAddress6 => "invalid IPv6 address"
  | badName => "invalid international domain name"
  | badHostCharacter => "invalid domain character"

/-- A host: a name or an address. -/
inductive Host where
  | name (text : List Char)
  | address4 (bits : Nat)
  | address6 (groups : List Nat)
  deriving DecidableEq, Repr

/-! ### Addresses of 32 bits -/

/-- The value of digits to a base, of which all have to be digits to that base. -/
def number? (base : Nat) (digits : List Char) : Option Nat :=
  digits.foldl
    (fun sum c => do
      let n ← sum
      let d ← hexValue? c
      if d < base then some (base * n + d) else none)
    (some 0)

/-- One number of an address: hexadecimal behind `0x`, octal behind a zero, decimal otherwise. -/
def addressNumber? (s : List Char) : Option Nat :=
  match s with
  | [] => none
  | '0' :: 'x' :: digits | '0' :: 'X' :: digits => number? 16 digits
  | '0' :: digits => number? 8 digits
  | digits => number? 10 digits

/-- The parts between the dots; a dot at the end does not count. -/
def dottedParts (s : List Char) : List (List Char) :=
  let parts := split '.' s
  if 1 < parts.length ∧ parts.getLast? = some [] then parts.dropLast else parts

/-- Is a domain an address?  It is one if its last part is a number. -/
def endsInNumber (domain : List Char) : Bool :=
  match (dottedParts domain).getLast? with
  | some last =>
    (!last.isEmpty && last.all Char.isDigit) || (addressNumber? last).isSome
  | none => false

/-- The address of numbers: all but the last one are single bytes, and the last one fills the rest. -/
def address4? (numbers : List Nat) : Option Nat :=
  match numbers.getLast? with
  | none => none
  | some last =>
    let leading := numbers.dropLast
    if 4 < numbers.length ∨ leading.any (255 < ·) ∨ Nat.pow 256 (4 - leading.length) ≤ last then none
    else some (leading.foldl (fun sum n => 256 * sum + n) 0 * Nat.pow 256 (4 - leading.length) + last)

/-- An address in any of its spellings. -/
def readAddress4 (domain : List Char) : Except Fault Host :=
  match ((dottedParts domain).mapM addressNumber?).bind address4? with
  | some bits => .ok (.address4 bits)
  | none => .error .badAddress4

/-! ### Addresses of 128 bits -/

/-- A group of one to four hexadecimal digits. -/
def group? (s : List Char) : Option Nat :=
  if s.isEmpty ∨ 4 < s.length then none else number? 16 s

/-- A byte in decimal digits without leading zeros. -/
def byte? (s : List Char) : Option Nat :=
  if s.isEmpty ∨ (1 < s.length ∧ s.head? = some '0') then none
  else (number? 10 s).bind fun n => if n < 256 then some n else none

/-- The last two groups of an address, written as four bytes. -/
def byteGroups? (s : List Char) : Option (List Nat) :=
  match (split '.' s).mapM byte? with
  | some [a, b, c, d] => some [256 * a + b, 256 * c + d]
  | _ => none

/-- The groups on one side; the last ones may be written as four bytes if `isEnd`. -/
def groups? (isEnd : Bool) : List (List Char) → Option (List Nat)
  | [] => some []
  | [last] =>
    if isEnd ∧ last.contains '.' then byteGroups? last else (group? last).map ([·])
  | part :: parts => do return (← group? part) :: (← groups? isEnd parts)

/-- The groups of a side that may be empty. -/
def side? (isEnd : Bool) (s : List Char) : Option (List Nat) :=
  if s.isEmpty then some [] else groups? isEnd (split ':' s)

/-- What stands before and behind the first pair of colons. -/
def splitAtGap : List Char → Option (List Char × List Char)
  | ':' :: ':' :: r => some ([], r)
  | c :: r => (splitAtGap r).map fun p => (c :: p.1, p.2)
  | [] => none

/-- The eight groups of an address. -/
def address6? (s : List Char) : Option (List Nat) :=
  match splitAtGap s with
  | some (before, behind) => do
    let first ← side? false before
    let last ← side? true behind
    if 7 < first.length + last.length then none
    else some (first ++ List.replicate (8 - first.length - last.length) 0 ++ last)
  | none => do
    let groups ← groups? true (split ':' s)
    if groups.length = 8 then some groups else none

/-- An address between brackets; the opening one is already off. -/
def readAddress6 (s : List Char) : Except Fault Host :=
  if s.getLast? = some ']' then
    match address6? s.dropLast with
    | some groups => .ok (.address6 groups)
    | none => .error .badAddress6
  else .error .badAddress6

/-- The length of the run of zeros at the head of groups. -/
def zeroRun (groups : List Nat) : Nat :=
  (groups.takeWhile (· == 0)).length

/-- The position and the length of the first longest run of zeros, the first group being number
`position`. -/
def longestZeros (position : Nat) : List Nat → Nat × Nat
  | [] => (position, 0)
  | g :: gs =>
    let here := zeroRun (g :: gs)
    let later := longestZeros (position + 1) gs
    if later.2 ≤ here then (position, here) else later

/-- Groups with colons between them. -/
def writeGroups (groups : List Nat) : List Char :=
  join ':' (groups.map (Nat.toDigits 16))

/-! ### Reading and writing hosts -/

/-- The text of a host. -/
def Host.toText : Host → List Char
  | name s => s
  | address4 bits =>
    join '.' (([16777216, 65536, 256, 1] : List Nat).map fun place =>
      Nat.toDigits 10 (bits / place % 256))
  | address6 groups =>
    let (position, length) := longestZeros 0 groups
    '[' :: (if length < 2 then writeGroups groups
      else writeGroups (groups.take position) ++ ':' :: ':' ::
        writeGroups (groups.drop (position + length))) ++ [']']

/-- The host of a URL of the web. -/
def readHost (s : List Char) : Except Fault Host :=
  match s with
  | '[' :: r => readAddress6 r
  | s =>
    match asciiDomain? (decodeLossy (unescape s)) with
    | none => .error .badName
    | some [] => .error .emptyHost
    | some domain => if endsInNumber domain then readAddress4 domain else .ok (.name domain)

/-- The ASCII characters that no host of another scheme holds. -/
def hostSeparators : List Char :=
  ['\x00', '\t', '\n', '\r', ' ', '#', '/', ':', '<', '>', '?', '@', '[', '\\', ']', '^', '|']

/-- The host of a URL with another scheme, which is not looked into. -/
def readOpaqueHost (s : List Char) : Except Fault Host :=
  match s with
  | '[' :: r => readAddress6 r
  | s =>
    if s.any hostSeparators.contains then .error .badHostCharacter
    else .ok (.name (escape [] s))

end ImportCensus.Url
