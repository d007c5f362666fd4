/-
ImportCensus/Datum/Decoder.lean

Reading structures from values.

A record is read from a table by the names of its fields, or from a list by their order.  From a table
the entries are looked at in ascending order of their keys, and the first one that does not fit is
reported; only if all fit are the missing fields looked for, in the order in which they are declared.
Entries with other keys do not matter.  From a list the fields are read one after the other.

A record reader is built from its fields with `<$>` and `<*>`, so that the order of declaration is the
order in which the fields are written down.
-/
import ImportCensus.Datum.Mismatch

namespace ImportCensus

/-- Reads an `α` from a value. -/
abbrev Decoder (α : Type) : Type :=
  Datum → Except Mismatch α

namespace Decoder

/-- The misfit of a value of the wrong kind. -/
def wrongKind {α : Type} (d : Datum) (wanted : Wanted) : Except Mismatch α :=
  .error (.here (.wrongKind d.found wanted))

/-! ### Scalars -/

/-- A text. -/
def text : Decoder String
  | .text s => .ok s
  | d => wrongKind d .text

/-- An unsigned integer below its limit. -/
def unsigned (kind : Unsigned) : Decoder Nat
  | .int n =>
    if 0 ≤ n ∧ n < kind.limit then .ok n.toNat else .error (.here (.outOfRange n kind))
  | d => wrongKind d (.unsigned kind)

/-- Any value. -/
def any : Decoder Datum :=
  .ok

/-- A value that may be null. -/
def nullable {α : Type} (decode : Decoder α) : Decoder (Option α)
  | .null => .ok none
  | d => (decode d).map some

/-! ### Lists and maps -/

/-- The items of a list, read from the left, the first one being number `position`. -/
def itemsFrom {α : Type} (decode : Decoder α) : Nat → List Datum → Except Mismatch (List α)
  | _, [] => .ok []
  | position, d :: ds => do
    let a ← (decode d).mapError (.within (.index position))
    let as ← itemsFrom decode (position + 1) ds
    return a :: as

/-- A list of values of one kind. -/
def list {α : Type} (decode : Decoder α) : Decoder (List α)
  | .list items => itemsFrom decode 0 items
  | d => wrongKind d .sequence

/-- A list of exactly two items. -/
def pair {α β : Type} (first : Decoder α) (second : Decoder β) : Decoder (α × β)
  | .list (a :: b :: more) => do
    let x ← (first a).mapError (.within (.index 0))
    let y ← (second b).mapError (.within (.index 1))
    if more.isEmpty then return (x, y)
    else .error (.here (.tooLong (2 + more.length)))
  | .list [a] => do
    let _ ← (first a).mapError (.within (.index 0))
    .error (.here (.tooShortPair 1))
  | .list [] => .error (.here (.tooShortPair 0))
  | d => wrongKind d .pair

/-- The entries of a map in the order given, each key before its value. -/
def entriesOf {κ α : Type} (key : String → Except Mismatch κ) (decode : Decoder α) :
    List (String × Datum) → Except Mismatch (List (κ × α))
  | [] => .ok []
  | (k, d) :: rest => do
    let k' ← key k
    let a ← (decode d).mapError (.within (.key k))
    let as ← entriesOf key decode rest
    return (k', a) :: as

/-- A map, its entries in ascending order of their keys as texts. -/
def entries {κ α : Type} (key : String → Except Mismatch κ) (decode : Decoder α) :
    Decoder (List (κ × α))
  | .table fields => entriesOf key decode (Datum.sortedFields fields)
  | d => wrongKind d .map

end Decoder

/-! ### Records -/

/-- What a record is read from. -/
inductive Entries where
  | named (fields : List (String × Datum))
  | positional (items : List Datum)

/-- What stands for a field that is not there. -/
inductive Fallback (α : Type) where
  /-- Nothing: the field has to be there. -/
  | required
  /-- A value, but only in a table. -/
  | inTable (value : α)
  /-- A value, in a table and at the end of a list. -/
  | always (value : α)

/-- What reading some of the fields has come to. -/
inductive Gathered (α : Type) where
  | value (value : α)
  | missing (field : String)
  | failed (field : String) (misfit : Mismatch) (more : List (String × Mismatch))

namespace Gathered

variable {α β : Type}

/-- Both results together: misfits before missing fields, and in each kind the earlier field first. -/
def combine (f : Gathered (α → β)) (x : Gathered α) : Gathered β :=
  match f, x with
  | failed k m more, failed k' m' more' => failed k m (more ++ (k', m') :: more')
  | failed k m more, _ => failed k m more
  | _, failed k m more => failed k m more
  | missing k, _ => missing k
  | _, missing k => missing k
  | value g, value a => value (g a)

/-- The entry with the least key. -/
def least (first : String × Mismatch) (more : List (String × Mismatch)) : String × Mismatch :=
  more.foldl (fun best e => if e.1 < best.1 then e else best) first

end Gathered

/-- Reads some of the fields of a record: how many they are, and what they come to in a record of the
given title and size, the first of them being field number `position`. -/
structure RecordReader (α : Type) where
  size : Nat
  read : (title : String) → (total : Nat) → Entries → (position : Nat) → Gathered α

namespace RecordReader

instance : Functor RecordReader where
  map f r := ⟨r.size, fun title total entries position =>
    match r.read title total entries position with
    | .value a => .value (f a)
    | .missing k => .missing k
    | .failed k m more => .failed k m more⟩

instance : Applicative RecordReader where
  pure a := ⟨0, fun _ _ _ _ => .value a⟩
  seq f x :=
    let r := x ()
    ⟨f.size + r.size, fun title total entries position =>
      (f.read title total entries position).combine
        (r.read title total entries (position + f.size))⟩

end RecordReader

namespace Decoder

variable {α : Type}

/-- One field of a record. -/
def field (name : String) (decode : Decoder α) (fallback : Fallback α := .required) :
    RecordReader α where
  size := 1
  read title total entries position :=
    match entries with
    | .named fields =>
      match Datum.lookup name fields with
      | some d =>
        match decode d with
        | .ok a => .value a
        | .error m => .failed name (m.within (.key name)) []
      | none =>
        match fallback with
        | .required => .missing name
        | .inTable a | .always a => .value a
    | .positional items =>
      match items[position]? with
      | some d =>
        match decode d with
        | .ok a => .value a
        | .error m => .failed name (m.within (.index position)) []
      | none =>
        match fallback with
        | .always a => .value a
        | _ => .failed name (.here (.tooShort position title total)) []

/-- What becomes of items behind the last field of a list. -/
inductive Surplus where
  | refused
  | ignored
  | refusedInNode
  deriving DecidableEq, Repr

/-- The fields of a record from a table. -/
def fromFields (title : String) (reader : RecordReader α) (fields : List (String × Datum)) :
    Except Mismatch α :=
  match reader.read title reader.size (.named fields) 0 with
  | .value a => .ok a
  | .missing name => .error (.here (.missing name))
  | .failed k m more => .error (Gathered.least (k, m) more).2

/-- The fields of a record from a list. -/
def fromItems (title : String) (surplus : Surplus) (reader : RecordReader α)
    (items : List Datum) : Except Mismatch α :=
  match reader.read title reader.size (.positional items) 0 with
  | .value a =>
    if items.length ≤ reader.size then .ok a
    else
      match surplus with
      | .refused => .error (.here (.tooLong items.length))
      | .refusedInNode => .error (.here (.surplus items.length reader.size))
      | .ignored => .ok a
  | .missing name => .error (.here (.missing name))
  | .failed _ m _ => .error m

/-- A record, from a table or from a list. -/
def record (title : String) (reader : RecordReader α) (surplus : Surplus := .refused) :
    Decoder α
  | .table fields => fromFields title reader fields
  | .list items => fromItems title surplus reader items
  | d => wrongKind d (.record title)

end Decoder

end ImportCensus
