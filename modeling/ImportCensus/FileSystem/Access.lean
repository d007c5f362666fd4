/-
ImportCensus/FileSystem/Access.lean

What programs do to a file system: reading and writing files, listing, making, moving and removing
entries.  A single change that fails leaves everything as it was.
-/
import ImportCensus.FileSystem.Resolve

namespace ImportCensus

open Text

namespace FileSystem

/-! ### Looking -/

/-- Does a path lead to an entry? -/
def has (fs : FileSystem) (p : Path) : Bool :=
  (fs.locate p).isOk

/-- Does a path lead to an entry?  A path that cannot be followed for another reason than that there is
nothing is an error. -/
def tryExists (fs : FileSystem) (p : Path) : Except FileError Bool :=
  match fs.locate p with
  | .ok _ => .ok true
  | .error .noEntry => .ok false
  | .error e => .error e

/-- Does a path lead to a directory? -/
def isDirectory (fs : FileSystem) (p : Path) : Bool :=
  match fs.locate p with
  | .ok (_, n) => n.isDirectory
  | .error _ => false

/-- The bytes of the file that a path leads to. -/
def read (fs : FileSystem) (p : Path) : Except FileError Bytes := do
  match ← fs.locate p with
  | (_, .file contents) => return contents
  | (_, .other) => .error .noDevice
  | _ => .error .isDirectory

/-- The text of the file that a path leads to. -/
def readText (fs : FileSystem) (p : Path) : Except FileError String := do
  match decode? (← fs.read p) with
  | some text => return String.ofList text
  | none => .error .notText

/-- The entries of the directory that a path leads to. -/
def list (fs : FileSystem) (p : Path) : Except FileError Listing := do
  match ← fs.locate p with
  | (_, .directory entries) => return entries
  | _ => .error .notDirectory

/-! ### Changing -/

/-- The place of a directory and the name in it of an entry, unless the entry is the root. -/
def splitPlace (place : Place) : Option (Place × String) :=
  place.getLast?.map fun name => (place.dropLast, name)

/-- Puts a node at a place, unless that is the root. -/
def putAt (fs : FileSystem) (place : Place) (n : Node) : FileSystem :=
  match splitPlace place with
  | some (directory, name) => fs.put directory name n
  | none => fs

/-- Removes the entry at a place, unless that is the root. -/
def dropAt (fs : FileSystem) (place : Place) : FileSystem :=
  match splitPlace place with
  | some (directory, name) => fs.drop directory name
  | none => fs

/-- Writes a file; if there is one already, its contents are replaced, also through a link. -/
def write (fs : FileSystem) (p : Path) (contents : Bytes) : Except FileError FileSystem := do
  match ← fs.spot true p with
  | .found place (.file _) => return fs.putAt place (.file contents)
  | .found _ .other => .error .noDevice
  | .found .. => .error .isDirectory
  | .vacant directory name slash =>
    if slash then .error .isDirectory else return fs.put directory name (.file contents)

/-- Makes an entry where there is none. -/
def make (fs : FileSystem) (p : Path) (n : Node) : Except FileError FileSystem := do
  match ← fs.spot false p with
  | .found .. => .error .alreadyThere
  | .vacant directory name _ => return fs.put directory name n

/-- Makes a directory. -/
def makeDirectory (fs : FileSystem) (p : Path) : Except FileError FileSystem :=
  fs.make p (.directory [])

/-- Makes a directory unless there is one. -/
def ensureDirectory (fs : FileSystem) (p : Path) : Except FileError FileSystem :=
  match fs.makeDirectory p with
  | .ok fs => .ok fs
  | .error e => if fs.isDirectory p then .ok fs else .error e

/-- Makes the first of several directories, each of which is in the next one, and the others only if it
cannot be made without them.  Those that were made stay if one of them cannot be made. -/
def ensureAll (fs : FileSystem) : List Path → FileSystem × Except FileError Unit
  | [] => (fs, .error .noEntry)
  | p :: parents =>
    if p.text = "" then (fs, .ok ())
    else
      match fs.ensureDirectory p with
      | .ok fs => (fs, .ok ())
      | .error .noEntry =>
        match ensureAll fs parents with
        | (fs, .error e) => (fs, .error e)
        | (fs, .ok _) =>
          match fs.ensureDirectory p with
          | .ok fs => (fs, .ok ())
          | .error e => (fs, .error e)
      | .error e => (fs, .error e)

/-- A path and the directories above it, as many as `steps`. -/
def ancestors : (steps : Nat) → Path → List Path
  | 0, p => [p]
  | steps + 1, p => p :: p.parent?.elim [] (ancestors steps)

/-- Makes a directory and all directories above it that are not there. -/
def makeDirectories (fs : FileSystem) (p : Path) : FileSystem × Except FileError Unit :=
  fs.ensureAll (ancestors p.components.length p)

/-- Can an entry take the place of another one? -/
def checkReplace (new old : Node) : Except FileError Unit :=
  match new, old with
  | .directory _, .directory [] => .ok ()
  | .directory _, .directory _ => .error .notEmpty
  | .directory _, _ => .error .notDirectory
  | _, .directory _ => .error .isDirectory
  | _, _ => .ok ()

/-- Moves an entry to another path, in the place of what is there.  Only a directory can be moved to a path
that ends in a slash, and a link there is not followed even so. -/
def rename (fs : FileSystem) (source target : Path) : Except FileError FileSystem := do
  match ← fs.spot false source with
  | .vacant .. => .error .noEntry
  | .found place n =>
    checkText target
    let spot ← fs.spot false target.withoutSlashes
    if !target.endsInName then .error .busy
    else if target.endsInSlash ∧ !n.isDirectory then .error .notDirectory
    else
      match spot with
      | .found other old =>
        if place = other then return fs
        checkReplace n old
        return (fs.dropAt place).putAt other n
      | .vacant directory name _ => return (fs.dropAt place).put directory name n

/-- Removes an entry with all that is in it; a link is removed itself. -/
def remove (fs : FileSystem) (p : Path) : Except FileError FileSystem := do
  match ← fs.spot false p with
  | .found place _ => return fs.dropAt place
  | .vacant .. => .error .noEntry

end FileSystem

end ImportCensus
