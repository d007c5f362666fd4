/-
ImportCensus/Datum/Mismatch.lean

Why a value does not fit the structure that is read from it, and where in the value the misfit is.
The wording of every cause is in `Cause.message`; the formats differ only in how they lay out numbers
with a fraction.
-/
import ImportCensus.Datum
import ImportCensus.Number.Shortest
import ImportCensus.Text.Quoted

namespace ImportCensus

/-! ### What was found and what was wanted -/

/-- The unsigned integers that a structure can ask for: the size of a list, or a word of 32 or 64
bits.  A size has 64 bits too. -/
inductive Unsigned where
  | size
  | word32
  | word64
  deriving DecidableEq, Repr

/-- The least integer that is too large. -/
def Unsigned.limit : Unsigned → Nat
  | .size | .word64 => UInt64.size
  | .word32 => UInt32.size

/-- What a reader wanted to find in the place of a value. -/
inductive Wanted where
  | text
  | path
  | sequence
  | map
  | pair
  | unsigned (kind : Unsigned)
  | record (title : String)
  | taggedNode
  | tag
  deriving DecidableEq, Repr

/-- The words for what was wanted. -/
def Wanted.words : Wanted → String
  | .text => "a string"
  | .path => "path string"
  | .sequence => "a sequence"
  | .map => "a map"
  | .pair => "a tuple of size 2"
  | .unsigned .size => "usize"
  | .unsigned .word32 => "u32"
  | .unsigned .word64 => "u64"
  | .record title => title
  | .taggedNode => "internally tagged enum TreeNode"
  | .tag => "variant identifier"

/-- What was found: the kind of a value, and the value itself where a message shows it. -/
inductive Found where
  | null
  | bool (value : Bool)
  | int (value : Int)
  | float (value : Binary64)
  | text (value : String)
  | sequence
  | map
  deriving DecidableEq, Repr

/-- The kind of a value. -/
def Datum.found : Datum → Found
  | .null => .null
  | .bool b => .bool b
  | .int n => .int n
  | .float x => .float x
  | .text s => .text s
  | .list _ => .sequence
  | .table _ => .map

/-- The words for what was found. -/
def Found.words (layout : Binary64.Layout) : Found → String
  | .null => "null"
  | .bool b => "boolean `" ++ (if b then "true" else "false") ++ "`"
  | .int n => "integer `" ++ toString n ++ "`"
  | .float x => "floating point `" ++ x.toText layout ++ "`"
  | .text s => "string " ++ Text.quoted s
  | .sequence => "sequence"
  | .map => "map"

/-! ### Causes -/

/-- Why a value does not fit. -/
inductive Cause where
  /-- The value is of the wrong kind. -/
  | wrongKind (found : Found) (wanted : Wanted)
  /-- The integer is negative or too large. -/
  | outOfRange (value : Int) (wanted : Unsigned)
  /-- A required entry is not there. -/
  | missing (field : String)
  /-- A list that stands for a record ends before the field of that number. -/
  | tooShort (length : Nat) (title : String) (size : Nat)
  /-- A list that stands for a pair has fewer than two items. -/
  | tooShortPair (length : Nat)
  /-- A list that stands for a record or a pair has items left over. -/
  | tooLong (length : Nat)
  /-- A list that stands for the fields of a tree node has items left over. -/
  | surplus (length size : Nat)
  /-- A tree node has a tag of another name. -/
  | unknownTag (tag : String)
  /-- A text is not the name of a package. -/
  | badName (text : String)
  deriving DecidableEq, Repr

/-- A count of elements in words. -/
def elements (n : Nat) : String :=
  toString n ++ (if n = 1 then " element" else " elements")

/-- The wording of a cause. -/
def Cause.message (layout : Binary64.Layout) : Cause → String
  | .wrongKind found wanted =>
    "invalid type: " ++ found.words layout ++ ", expected " ++ wanted.words
  | .outOfRange value wanted =>
    "invalid value: integer `" ++ toString value ++ "`, expected " ++ (Wanted.unsigned wanted).words
  | .missing field => "missing field `" ++ field ++ "`"
  | .tooShort length title size =>
    "invalid length " ++ toString length ++ ", expected " ++ title ++ " with " ++ elements size
  | .tooShortPair length =>
    "invalid length " ++ toString length ++ ", expected " ++ Wanted.pair.words
  | .tooLong length =>
    "invalid length " ++ toString length ++ ", expected fewer elements in array"
  | .surplus length size =>
    "invalid length " ++ toString length ++ ", expected " ++ elements size ++ " in sequence"
  | .unknownTag tag => "unknown variant `" ++ tag ++ "`, expected `directory` or `file`"
  | .badName text => "invalid package name: " ++ Text.quoted text

/-! ### Places -/

/-- One step into a value. -/
inductive Step where
  | key (name : String)
  | index (position : Nat)
  deriving DecidableEq, Repr

/-- A misfit: the way to the value that does not fit, from the outside in, and the cause. -/
structure Mismatch where
  place : List Step
  cause : Cause
  deriving DecidableEq, Repr

/-- A misfit at the value itself. -/
def Mismatch.here (cause : Cause) : Mismatch :=
  ⟨[], cause⟩

/-- A misfit seen from one step further out. -/
def Mismatch.within (step : Step) (m : Mismatch) : Mismatch :=
  { m with place := step :: m.place }

/-- The wording of a misfit as JSON readers give it. -/
def Mismatch.message (m : Mismatch) : String :=
  m.cause.message .scientific

end ImportCensus
