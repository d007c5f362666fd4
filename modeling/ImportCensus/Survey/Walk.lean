/-
ImportCensus/Survey/Walk.lean

Walking a directory: every source file in it is read, and in its directories too, except in those that
are left out.  Links are not followed, and entries that are neither do not count.

Directories come before files, and both in the order in which they are listed.  What lies so deep that
its path cannot be followed any more is skipped.
-/
import ImportCensus.FileSystem.Access
import ImportCensus.SourceFile
import ImportCensus.Survey

namespace ImportCensus

open Text

namespace Survey

/-- The packages of a file with the given bytes; what is no text in them is replaced. -/
def packagesOf (contents : Bytes) : PackageSet :=
  packagesIn (String.ofList (decodeLossy contents))

/-- What a walk has found. -/
structure Finds where
  /-- The visited entries of a directory. -/
  children : List SourceTree
  /-- The packages of each file that uses one. -/
  files : FileMap
  deepDive : List Path
  filesScanned : Nat
  /-- How many entries could not be read. -/
  skipped : Nat

namespace Finds

/-- Nothing. -/
def none : Finds :=
  ⟨[], .empty, [], 0, 0⟩

/-- What is found in an entry that cannot be read. -/
def unreadable : Finds :=
  { none with skipped := 1 }

/-- What two walks have found, one after the other. -/
def append (a b : Finds) : Finds where
  children := a.children ++ b.children
  files := a.files.union b.files
  deepDive := a.deepDive ++ b.deepDive
  filesScanned := a.filesScanned + b.filesScanned
  skipped := a.skipped + b.skipped

instance : Append Finds :=
  ⟨append⟩

/-- What is found in one source file. -/
def ofFile (name : String) (path : Path) (packages : PackageSet) : Finds where
  children := [.file name path]
  files := if packages.isEmpty then .empty else .insert .empty path packages
  deepDive := if needsDeepDive packages then [path] else []
  filesScanned := 1
  skipped := 0

/-- What is found in a directory, seen from the one above it. -/
def inDirectory (name : String) (path : Path) (f : Finds) : Finds :=
  { f with children := [.directory name path f.children] }

end Finds

/-- What is found in a source file of a directory. -/
def walkFile (name : String) (path : Path) (contents : Bytes) : Finds :=
  if FileSystem.fits path then .ofFile name path (packagesOf contents) else .unreadable

/-- What is found in the source files among the entries of a directory. -/
def walkFiles (path : Path) : Listing → Finds
  | [] => .none
  | (name, .file contents) :: r =>
    if isSourceName name then walkFile name (path.child name) contents ++ walkFiles path r
    else walkFiles path r
  | _ :: r => walkFiles path r

mutual

/-- What is found in the directories among the entries of a directory. -/
def walkDirectories (path : Path) : Listing → Finds
  | [] => .none
  | (name, n) :: r => walkNode name (path.child name) n ++ walkDirectories path r

/-- What is found in an entry that is a directory. -/
def walkNode (name : String) (path : Path) : Node → Finds
  | .directory entries =>
    if isExcludedDirectory name then .none
    else if !FileSystem.fits path then .unreadable
    else .inDirectory name path (walkDirectories path entries ++ walkFiles path entries)
  | _ => .none

end

/-- What is found in a directory: first in its directories, then in its files. -/
def walkEntries (path : Path) (entries : Listing) : Finds :=
  walkDirectories path entries ++ walkFiles path entries

/-! ### From a path -/

/-- The name under which a directory is shown. -/
def nodeName (path : Path) : String :=
  path.fileName?.getD path.text

/-- The outcome of a walk. -/
structure Walk where
  root : Path
  finds : Finds
  /-- Why the root could not be listed, if it could not. -/
  rootError : Option FileError

/-- The hierarchy that was walked. -/
def Walk.tree (w : Walk) : SourceTree :=
  .directory (nodeName w.root) w.root w.finds.children

/-- How many entries could not be read. -/
def Walk.skipped (w : Walk) : Nat :=
  w.finds.skipped

/-- Walks the directory that a path leads to. -/
def walk (fs : FileSystem) (p : Path) : Walk :=
  let root := (fs.canonical p).toOption.getD p
  match fs.list root with
  | .ok entries => ⟨root, walkEntries root entries, none⟩
  | .error e => ⟨root, .unreadable, some e⟩

end Survey

end ImportCensus
