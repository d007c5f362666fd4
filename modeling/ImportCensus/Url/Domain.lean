/-
ImportCensus/Url/Domain.lean

Domain names.  A name may be given with any characters; what is looked up is spelled in ASCII.  Capitals
and styled forms are replaced by plain small letters, and marks are put together with what they belong
to.  A label that still goes beyond ASCII is marked and written with letters and digits, and a label that
comes with the mark has to stand for such a label.
-/
import ImportCensus.Text.Accent
import ImportCensus.Text.Split
import ImportCensus.Url.FoldTable
import ImportCensus.Url.Label
import ImportCensus.Url.Punycode
import ImportCensus.Url.RefusedTable

namespace ImportCensus.Url

open Text

/-! ### Characters -/

/-- Does a run hold a code point? -/
def FoldRun.holds (run : FoldRun) (n : Nat) : Bool :=
  run.first ≤ n && n ≤ run.last && (n - run.first) % run.stride == 0

/-- The one character that takes the place of another one. -/
def foldedChar? (c : Char) : Option Char :=
  (foldRuns.find? (·.holds c.toNat)).map fun run =>
    Char.ofNat (run.image + (c.toNat - run.first))

/-- The replaced characters outside all runs, each with what takes its place behind it. -/
def foldRows : List (List Char) :=
  foldLines.flatMap fun line => split ' ' line.toList

/-- What takes the place of a character outside all runs. -/
def expandedChar? (c : Char) : Option (List Char) :=
  (foldRows.find? (·.head? == some c)).map List.tail

/-- What a character becomes in a domain name, if it may stand there at all. -/
def foldChar? (c : Char) : Option (List Char) :=
  if c.toNat < 0x80 then some [c.toLower]
  else if inRanges refusedRanges c then none
  else if inRanges droppedRanges c then some []
  else
    match foldedChar? c with
    | some d => some [d]
    | none => some ((expandedChar? c).getD [c])

/-- A whole name, if all its characters may stand there. -/
def foldName? : List Char → Option (List Char)
  | [] => some []
  | c :: r => do return (← foldChar? c) ++ (← foldName? r)

/-- Does a text go beyond ASCII? -/
def isBeyondAscii (s : List Char) : Bool :=
  s.any fun c => 0x80 ≤ c.toNat

/-- A text as it stands in a domain name. -/
def plainForm? (s : List Char) : Option (List Char) :=
  (foldName? s).map fun t => if isBeyondAscii t then composed t else t

/-- The ASCII characters that no domain name holds, other than controls. -/
def separators : List Char :=
  [' ', '%', '#', '/', ':', '<', '>', '?', '@', '[', '\\', ']', '^', '|', '\x7f']

/-- May an ASCII character not stand in a domain name? -/
def isForbidden (c : Char) : Bool :=
  c.toNat < 0x20 || separators.contains c

/-! ### Labels -/

/-- The mark of a label that stands for one beyond ASCII. -/
def labelMark : List Char :=
  ['x', 'n', '-', '-']

/-- The label that a marked one stands for; it has to go beyond ASCII and to be in plain form. -/
def unmarked? (label : List Char) : Option (List Char) :=
  (Punycode.decode (label.drop labelMark.length)).filter fun decoded =>
    isBeyondAscii decoded && plainForm? decoded == some decoded

/-- The label that is meant by a label in plain form. -/
def meantLabel? (label : List Char) : Option (List Char) :=
  (if labelMark.isPrefixOf label then unmarked? label else some label).filter isWellFormed

/-- The ASCII spelling of a label. -/
def asciiLabel (label : List Char) : List Char :=
  if isBeyondAscii label then labelMark ++ Punycode.encode label else label

/-- The ASCII spelling of a domain name, if it is one. -/
def asciiDomain? (name : List Char) : Option (List Char) := do
  let labels ← (split '.' (← plainForm? name)).mapM meantLabel?
  let domain := join '.' (labels.map asciiLabel)
  if domain.any isForbidden || !directionsFit labels then none else some domain

end ImportCensus.Url
