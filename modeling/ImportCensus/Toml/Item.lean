/-
ImportCensus/Toml/Item.lean

The data of a TOML text with the part of the text that each value comes from, and how tables grow while
the text is read.

A table is opened by its own header or inside braces, or it comes about because a key leads through it.
What is inside braces is complete.  A header opens a table only once, and no table that keys have
spelled out; a key that leads through a table may extend it only if no header has opened it.
-/
import ImportCensus.Datum.Mismatch
import ImportCensus.Toml.Fault

namespace ImportCensus.Toml

/-- How a table came about. -/
inductive Origin where
  /-- The header of a table inside it leads through it. -/
  | passed
  /-- A dotted key leads through it. -/
  | dotted
  /-- It has a header of its own. -/
  | headed
  /-- It stands between braces. -/
  | braced
  deriving DecidableEq, Repr

/-- A value with the part of the text that it comes from. -/
inductive Item where
  | text (span : Span) (value : String)
  | int (span : Span) (value : Int)
  | float (span : Span) (value : Binary64)
  | bool (span : Span) (value : Bool)
  /-- A date, a time or both. -/
  | moment (span : Span)
  | list (span : Span) (items : List Item)
  /-- A list of tables, each with a header of its own. -/
  | tables (span : Span) (items : List Item)
  | table (span : Span) (origin : Origin) (fields : List (String × Item))
  deriving Repr

/-- The entries of a table. -/
abbrev Fields : Type :=
  List (String × Item)

/-- A key with the part of the text that it comes from. -/
structure Key where
  span : Span
  name : String
  deriving DecidableEq, Repr

namespace Item

/-- The part of the text that a value comes from. -/
def span : Item → Span
  | text s _ | int s _ | float s _ | bool s _ | moment s | list s _ | tables s _ | table s _ _ => s

mutual

/-- A value as data.  A moment is a table whose entries nobody asks for. -/
def toDatum : Item → Datum
  | text _ s => .text s
  | int _ n => .int n
  | float _ x => .float x
  | bool _ b => .bool b
  | moment _ => .table []
  | list _ items | tables _ items => .list (toData items)
  | table _ _ fields => .table (toEntries fields)

/-- Several values as data. -/
def toData : List Item → List Datum
  | [] => []
  | i :: is => i.toDatum :: toData is

/-- Several entries as data. -/
def toEntries : List (String × Item) → List (String × Datum)
  | [] => []
  | (k, i) :: fs => (k, i.toDatum) :: toEntries fs

end

/-- The value one step further in. -/
def child? (i : Item) (step : Step) : Option Item :=
  match i, step with
  | table _ _ fields, .key name => (fields.find? (·.1 == name)).map (·.2)
  | list _ items, .index n | tables _ items, .index n => items[n]?
  | _, _ => none

/-- The value at a place, or the last one on the way there. -/
def reach (i : Item) : List Step → Item
  | [] => i
  | step :: steps =>
    match i.child? step with
    | some j => j.reach steps
    | none => i

end Item

/-! ### Tables that grow -/

/-- A change of a table's entries that may fail. -/
abbrev Growth : Type :=
  Fields → Except FaultCause Fields

/-- The last table of a list of tables, changed. -/
def growLast (grow : Growth) : List Item → Except FaultCause (List Item)
  | [] => .error .notExtensible
  | [.table span origin fields] => do return [.table span origin (← grow fields)]
  | [_] => .error .notExtensible
  | i :: is => do return i :: (← growLast grow is)

/-- The value at a key, changed, or a new one in its place if there is none. -/
def changeAt (name : String) (new : Except FaultCause Item)
    (change : Item → Except FaultCause Item) : Growth
  | [] => do return [(name, ← new)]
  | (k, i) :: fields =>
    if k = name then do return (k, ← change i) :: fields
    else do return (k, i) :: (← changeAt name new change fields)

/-- The entries with a value at a dotted key. -/
def assign (value : Item) : List Key → Growth
  | [], _ => .error .expectedKey
  | [key], fields =>
    changeAt key.name (.ok value) (fun _ => .error .repeatedKey) fields
  | key :: keys, fields =>
    changeAt key.name
      ((assign value keys []).map fun inner => .table key.span .dotted inner)
      (fun i =>
        match i with
        | .table span origin inner =>
          if origin = .dotted ∨ origin = .passed then
            (assign value keys inner).map (.table span origin)
          else .error .notExtensible
        | _ => .error .notExtensible)
      fields

/-- The entries with `grow` applied where a header leads to: through tables that are made on the way if
they are not there, and always into the last one of a list of tables. -/
def through (grow : Growth) : List Key → Growth
  | [], fields => grow fields
  | key :: keys, fields =>
    changeAt key.name
      ((through grow keys []).map fun inner => .table key.span .passed inner)
      (fun i =>
        match i with
        | .table span origin inner =>
          if origin = .braced then .error .notExtensible
          else (through grow keys inner).map (.table span origin)
        | .tables span items => (growLast (through grow keys) items).map (.tables span)
        | _ => .error .notExtensible)
      fields

/-- The entries with a table that the header at `span` opens. -/
def openTable (span : Span) (name : String) : Growth :=
  changeAt name (.ok (.table span .headed []))
    fun i =>
      match i with
      | .table _ .passed inner => .ok (.table span .headed inner)
      | _ => .error .repeatedKey

/-- The entries with one more table in a list of tables. -/
def openElement (span : Span) (name : String) : Growth :=
  let new : Item := .table span .headed []
  changeAt name (.ok (.tables span [new]))
    fun i =>
      match i with
      | .tables listSpan items => .ok (.tables listSpan (items ++ [new]))
      | _ => .error .repeatedKey

end ImportCensus.Toml
