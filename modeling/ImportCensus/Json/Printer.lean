/-
ImportCensus/Json/Printer.lean

Writing JSON texts: in one line, or with one entry on each line and two spaces for each level.  Empty
containers are written without a line break.
-/
import ImportCensus.Json.Quote
import ImportCensus.Number.Shortest
import ImportCensus.Datum

namespace ImportCensus.Json

/-- A value that is no container. -/
def writeScalar : Datum → List Char
  | .null => "null".toList
  | .bool true => "true".toList
  | .bool false => "false".toList
  | .int n => (toString n).toList
  | .float x => (x.toText .scientific).toList
  | .text s => writeText s.toList
  | .list _ | .table _ => []

/-! ### In one line -/

mutual

/-- A value in one line. -/
def compact : Datum → List Char
  | .list items => '[' :: compactItems items ++ [']']
  | .table fields => '{' :: compactFields fields ++ ['}']
  | d => writeScalar d

/-- The items of a list, each but the last followed by a comma. -/
def compactItems : List Datum → List Char
  | [] => []
  | [d] => compact d
  | d :: ds => compact d ++ ',' :: compactItems ds

/-- The entries of an object, each but the last followed by a comma. -/
def compactFields : List (String × Datum) → List Char
  | [] => []
  | [(k, d)] => writeText k.toList ++ ':' :: compact d
  | (k, d) :: fs => writeText k.toList ++ ':' :: compact d ++ ',' :: compactFields fs

end

/-! ### On several lines -/

/-- A line break and the spaces of a level. -/
def newline (level : Nat) : List Char :=
  '\n' :: List.replicate (2 * level) ' '

mutual

/-- A value on a level. -/
def pretty (level : Nat) : Datum → List Char
  | .list [] => ['[', ']']
  | .list (d :: ds) => '[' :: prettyItems (level + 1) (d :: ds) ++ newline level ++ [']']
  | .table [] => ['{', '}']
  | .table (f :: fs) => '{' :: prettyFields (level + 1) (f :: fs) ++ newline level ++ ['}']
  | d => writeScalar d

/-- The items of a list, each on a line of its own. -/
def prettyItems (level : Nat) : List Datum → List Char
  | [] => []
  | [d] => newline level ++ pretty level d
  | d :: ds => newline level ++ pretty level d ++ ',' :: prettyItems level ds

/-- The entries of an object, each on a line of its own. -/
def prettyFields (level : Nat) : List (String × Datum) → List Char
  | [] => []
  | [(k, d)] => newline level ++ writeText k.toList ++ ':' :: ' ' :: pretty level d
  | (k, d) :: fs =>
    newline level ++ writeText k.toList ++ ':' :: ' ' :: pretty level d ++ ',' :: prettyFields level fs

end

/-- The text of a value on several lines. -/
def print (d : Datum) : String :=
  String.ofList (pretty 0 d)

end ImportCensus.Json
