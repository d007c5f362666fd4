/-
ImportCensus/Registry/DownloadPoint.lean

The answer of a registry to the question how often a package was downloaded: an object with the count
under `downloads`, or a list with nothing but the count.  Other entries are skipped.
-/
import ImportCensus.Json.Direct

namespace ImportCensus.Registry

open Json

/-- The key of the count. -/
def downloadsKey : String :=
  "downloads"

/-- The title of the record. -/
def pointTitle : String :=
  "struct DownloadPoint"

/-- The count in a list, behind its bracket. -/
def readPointList (gaps : List Nat) (s : List Char) : Except Objection (Nat × List Char) :=
  match skipSpace s with
  | [] => faulty .endInList []
  | ']' :: r => misfit (.tooShort 0 pointTitle 1) r
  | s => do
    let (n, rest) ← readCount gaps s
    match skipSpace rest with
    | [] => faulty .endInList []
    | ']' :: r => return (n, r)
    | ',' :: r =>
      match skipSpace r with
      | [] => faulty .endInValue []
      | ']' :: r => faulty .trailingComma (']' :: r)
      | r => faulty .trailingCharacters r
    | rest => faulty .trailingCharacters rest

/-- One entry of an object behind the quote of its key: the count, if it is the one that is asked
for, and what is behind the entry. -/
def readPointEntry (gaps : List Nat) (seen : Option Nat) (s : List Char) :
    Except Objection (Option Nat × List Char) := do
  let (key, rest) ← (readWholeText gaps s).mapError Fault.objection
  if key = downloadsKey.toList ∧ seen.isSome then
    .error ⟨.repeated downloadsKey, skipSpace rest, 0⟩
  match skipSpace rest with
  | [] => faulty .endInObject []
  | ':' :: value =>
    if key = downloadsKey.toList then
      let (n, rest) ← readCount gaps value
      return (some n, rest)
    else return (seen, ← skipValue value)
  | rest => faulty .expectedColon rest

/-- The entries of an object up to its end; `isFirst` before the first one.  Each entry takes in a
character at least, so there are at most `room` of them. -/
def readPointEntries (gaps : List Nat) (room : Nat) (isFirst : Bool) (seen : Option Nat)
    (s : List Char) : Except Objection (Nat × List Char) :=
  match room, skipSpace s with
  | _, [] => faulty .endInObject []
  | _, '}' :: r =>
    match seen with
    | some n => .ok (n, r)
    | none => misfit (.missing downloadsKey) r
  | 0, rest => faulty .expectedObjectEnd rest
  | room + 1, c :: r =>
    let entry (s : List Char) : Except Objection (Nat × List Char) := do
      let (seen, rest) ← readPointEntry gaps seen s
      readPointEntries gaps room false seen rest
    if isFirst then if c = '"' then entry r else faulty .keyNotText (c :: r)
    else if c = ',' then
      match skipSpace r with
      | [] => faulty .endInValue []
      | '"' :: r => entry r
      | '}' :: r => faulty .trailingComma ('}' :: r)
      | r => faulty .keyNotText r
    else faulty .expectedObjectEnd (c :: r)

/-- How often a package was downloaded, from the text of an answer. -/
def downloadsOf (gaps : List Nat) (text : List Char) : Except Objection Nat := do
  let (n, rest) ←
    match skipSpace text with
    | [] => faulty .endInValue []
    | '[' :: r => readPointList gaps r
    | '{' :: r => readPointEntries gaps r.length true none r
    | c :: r => unwanted gaps (.record pointTitle) c r
  readEnd n rest

end ImportCensus.Registry
