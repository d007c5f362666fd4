/-
ImportCensus/Datum.lean

Data as the two configuration and interchange formats of this library read it: null, truth values,
integers, floating-point numbers, texts, lists and tables.  A table keeps its entries in the order in
which they were read; if a key is repeated, its last entry counts.
-/
import ImportCensus.Number.Binary64
import ImportCensus.Order.SortedMap

namespace ImportCensus

/-- A value of a data format. -/
inductive Datum where
  | null
  | bool (value : Bool)
  | int (value : Int)
  | float (value : Binary64)
  | text (value : String)
  | list (items : List Datum)
  | table (fields : List (String × Datum))
  deriving Repr

namespace Datum

/-- The value at a key of a table's entries: the last one counts. -/
def lookup (key : String) (fields : List (String × Datum)) : Option Datum :=
  (fields.reverse.find? fun f => f.1 == key).map (·.2)

/-- The entries of a table in ascending order of their keys, repeated keys merged. -/
def sortedFields (fields : List (String × Datum)) : List (String × Datum) :=
  (SortedMap.ofList fields).entries

/-- The text of a textual value. -/
def text? : Datum → Option String
  | text s => some s
  | _ => none

/-- The entries of a table. -/
def fields? : Datum → Option (List (String × Datum))
  | table fields => some fields
  | _ => none

/-- The items of a list. -/
def items? : Datum → Option (List Datum)
  | list items => some items
  | _ => none

/-- The value at a key, if this is a table that has it. -/
def get? (d : Datum) (key : String) : Option Datum :=
  d.fields?.bind (lookup key)

end Datum

end ImportCensus
