/-
ImportCensus/FileSystem/Resolve.lean

Where a path leads.  A path is followed piece by piece from the root or from the current directory; each
piece but the last one has to lead to a directory, and links on the way are followed.  After so many
links a path counts as endless.

A path may lead further down than its own length tells, through links.  What lies so deep can be read, but
its path without links is too long to be followed, and it is not found out.
-/
import ImportCensus.FileSystem

namespace ImportCensus

open Text

namespace FileSystem

/-- Where a path leads. -/
inductive Spot where
  /-- To an entry. -/
  | found (place : Place) (node : Node)
  /-- To a name that its directory does not have; `slash` says whether a slash follows the name. -/
  | vacant (directory : Place) (name : String) (slash : Bool)
  deriving Repr

/-- The number of links that are followed on one way. -/
def linkLimit : Nat :=
  40

/-- The number of bytes that a name may have. -/
def nameLimit : Nat :=
  255

/-- The number of bytes that a path may have. -/
def pathLimit : Nat :=
  4095

/-- Is a path short enough to be followed? -/
def fits (p : Path) : Bool :=
  p.text.utf8ByteSize ≤ pathLimit

/-- Is a piece of a path empty, as between two slashes and behind the last one? -/
def isSilent (piece : List Char) : Bool :=
  piece.isEmpty || piece == ['.']

/-- Follows the pieces of a path from a place.  A link at the end is followed only if `followLast`;
`onLink` goes on where a link leads. -/
def walkPieces (root : Node) (followLast : Bool)
    (onLink : Place → List (List Char) → Except FileError Spot) (place : Place) :
    List (List Char) → Except FileError Spot
  | [] =>
    match root.find? place with
    | some n => .ok (.found place n)
    | none => .error .noEntry
  | piece :: rest =>
    match root.find? place with
    | some (.directory entries) =>
      let name := String.ofList piece
      if isSilent piece then walkPieces root followLast onLink place rest
      else if piece = ['.', '.'] then walkPieces root followLast onLink place.dropLast rest
      else if nameLimit < name.utf8ByteSize then .error .nameTooLong
      else
        match Node.entry? name entries with
        | none =>
          if rest.all List.isEmpty then .ok (.vacant place name (!rest.isEmpty)) else .error .noEntry
        | some (.link target) =>
          if rest.isEmpty ∧ !followLast then .ok (.found (place ++ [name]) (.link target))
          else if target = "" then .error .noEntry
          else
            onLink (if target.toList.head? = some '/' then [] else place)
              (split '/' target.toList ++ rest)
        | some _ => walkPieces root followLast onLink (place ++ [name]) rest
    | some _ => .error .notDirectory
    | none => .error .noEntry

/-- Follows the pieces of a path and at most so many links. -/
def walkLinks (root : Node) (followLast : Bool) :
    (links : Nat) → Place → List (List Char) → Except FileError Spot
  | 0 => walkPieces root followLast fun _ _ => .error .tooManyLinks
  | links + 1 => walkPieces root followLast (walkLinks root followLast links)

/-- Why a path cannot be followed, whatever there is. -/
def checkText (p : Path) : Except FileError Unit :=
  if p.text = "" then .error .noEntry
  else if p.text.toList.contains '\x00' then .error .nulInPath
  else if !fits p then .error .nameTooLong
  else .ok ()

/-- The place from which a path is followed. -/
def start (fs : FileSystem) (p : Path) : Place :=
  if p.text.toList.head? = some '/' then [] else fs.current

/-- Where a path leads; a link at its end is followed if `followLast`. -/
def spot (fs : FileSystem) (followLast : Bool) (p : Path) : Except FileError Spot := do
  checkText p
  walkLinks fs.root followLast linkLimit (fs.start p) (split '/' p.text.toList)

/-- The entry that a path leads to, with its place. -/
def locate (fs : FileSystem) (p : Path) : Except FileError (Place × Node) := do
  match ← fs.spot true p with
  | .found place n => return (place, n)
  | .vacant .. => .error .noEntry

/-! ### Plainest paths -/

/-- Where the link at a place leads, if there is one. -/
def linkTarget? (root : Node) (place : Place) : Option String :=
  match root.find? place with
  | some (.link target) => some target
  | _ => none

/-- Is the plainest path of each entry on the way of some pieces short enough to be followed?  `onLink` goes
on where a link leads. -/
def fitsPieces (root : Node) (onLink : Place → List (List Char) → Bool) (place : Place) :
    List (List Char) → Bool
  | [] => true
  | piece :: rest =>
    if isSilent piece then fitsPieces root onLink place rest
    else if piece = ['.', '.'] then fitsPieces root onLink place.dropLast rest
    else
      let entry := place ++ [String.ofList piece]
      fits (pathOf entry) &&
        match linkTarget? root entry with
        | some target =>
          onLink (if target.toList.head? = some '/' then [] else place) (split '/' target.toList ++ rest)
        | none => fitsPieces root onLink entry rest

/-- The same where at most so many links are followed. -/
def fitsLinks (root : Node) : (links : Nat) → Place → List (List Char) → Bool
  | 0 => fitsPieces root fun _ _ => false
  | links + 1 => fitsPieces root (fitsLinks root links)

/-- Is the plainest path of each entry on the way of a path short enough to be followed? -/
def fitsWay (fs : FileSystem) (p : Path) : Bool :=
  fitsLinks fs.root linkLimit (fs.start p) (split '/' p.text.toList)

/-- The path of the entry that a path leads to, without links and dots.  It is put together entry by entry,
and each of them is asked for by its path. -/
def canonical (fs : FileSystem) (p : Path) : Except FileError Path := do
  let (place, _) ← fs.locate p
  if fs.fitsWay p then return pathOf place else .error .nameTooLong

end FileSystem

end ImportCensus
