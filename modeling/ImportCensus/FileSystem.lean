/-
ImportCensus/FileSystem.lean

File systems: directories that list named entries in some order, files with bytes, symbolic links, and
entries of other kinds.  A file system is looked at from a current directory, where paths that do not
start at the root begin.

A place in a file system is given by the names on the way from the root, none of which is a link.

Some of what a real system has is left out.  The names of entries and the targets of links are texts in UTF-8,
although a system takes other bytes, too (`RawPath`).  Every entry has one name: there are no hard links, and
no file systems within others.  There are no permissions, so that whatever can be found can be read and
changed.  And nothing fails for reasons that lie outside the hierarchy, such as a full or a broken disk.
-/
import ImportCensus.Path
import ImportCensus.Text.Utf8

namespace ImportCensus

open Text

/-- An entry of a file system. -/
inductive Node where
  | file (contents : Bytes)
  | directory (entries : List (String × Node))
  /-- A symbolic link, with the path that it leads to. -/
  | link (target : String)
  /-- An entry that is none of these, such as a socket.  It cannot be opened. -/
  | other
  deriving Repr

/-- The entries of a directory. -/
abbrev Listing : Type :=
  List (String × Node)

/-- The names on the way from the root to an entry. -/
abbrev Place : Type :=
  List String

/-- Why something cannot be done to a file system. -/
inductive FileError where
  | noEntry
  | noDevice
  | busy
  | alreadyThere
  | notDirectory
  | isDirectory
  | nameTooLong
  | notEmpty
  | tooManyLinks
  /-- A path holds the character that ends paths. -/
  | nulInPath
  /-- The contents of a file are no text. -/
  | notText
  deriving DecidableEq, Repr

/-- The wording of an error. -/
def FileError.message : FileError → String
  | noEntry => "No such file or directory (os error 2)"
  | noDevice => "No such device or address (os error 6)"
  | busy => "Device or resource busy (os error 16)"
  | alreadyThere => "File exists (os error 17)"
  | notDirectory => "Not a directory (os error 20)"
  | isDirectory => "Is a directory (os error 21)"
  | nameTooLong => "File name too long (os error 36)"
  | notEmpty => "Directory not empty (os error 39)"
  | tooManyLinks => "Too many levels of symbolic links (os error 40)"
  | nulInPath => "file name contained an unexpected NUL byte"
  | notText => "stream did not contain valid UTF-8"

namespace Node

/-- The entry of a directory with a name. -/
def entry? (name : String) (entries : Listing) : Option Node :=
  (entries.find? (·.1 == name)).map (·.2)

/-- The entry at a place below a node. -/
def find? : Node → Place → Option Node
  | n, [] => some n
  | directory entries, name :: names =>
    match entry? name entries with
    | some n => n.find? names
    | none => none
  | _, _ :: _ => none

/-- Is a node a directory? -/
def isDirectory : Node → Bool
  | directory _ => true
  | _ => false

/-- The entries of a directory with one entry put in: in the place of the one with that name, or behind
the others. -/
def putEntry (name : String) (n : Node) : Listing → Listing
  | [] => [(name, n)]
  | e :: r => if e.1 = name then (name, n) :: r else e :: putEntry name n r

/-- The entries of a directory without the one with a name. -/
def removeEntry (name : String) (entries : Listing) : Listing :=
  entries.filter (·.1 != name)

/-- The node with the entries of the directory at a place changed. -/
def change (f : Listing → Listing) : Place → Node → Node
  | [], directory entries => directory (f entries)
  | name :: names, directory entries =>
    match entry? name entries with
    | some n => directory (putEntry name (change f names n) entries)
    | none => directory entries
  | _, n => n

end Node

/-- A file system and the current directory. -/
structure FileSystem where
  root : Node
  current : Place
  deriving Repr

namespace FileSystem

/-- The file system with nothing but its root. -/
def empty : FileSystem :=
  ⟨.directory [], []⟩

/-- The path of a place. -/
def pathOf (place : Place) : Path :=
  .ofComponents (.root :: place.map .name)

/-- The file system with an entry put into the directory at a place. -/
def put (fs : FileSystem) (directory : Place) (name : String) (n : Node) : FileSystem :=
  { fs with root := fs.root.change (Node.putEntry name n) directory }

/-- The file system without an entry of the directory at a place. -/
def drop (fs : FileSystem) (directory : Place) (name : String) : FileSystem :=
  { fs with root := fs.root.change (Node.removeEntry name) directory }

end FileSystem

end ImportCensus
