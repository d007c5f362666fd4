/-
ImportCensus/Survey/Target.lean

What is to be surveyed: a directory, one source file, or several.  A target is made from paths as a user
gives them.  All of them are checked before anything is read, and they are kept without links and dots,
each file once.
-/
import ImportCensus.FileSystem.Access
import ImportCensus.SourceFile

namespace ImportCensus

namespace Survey

/-- What is to be surveyed. -/
inductive Target where
  | file (path : Path)
  /-- A directory with all that is in it. -/
  | directory (path : Path)
  | files (paths : List Path)
  deriving DecidableEq, Repr

/-- Why nothing can be surveyed. -/
inductive Problem where
  /-- There is nothing at the path, or not what was asked for. -/
  | notFound (path : Path)
  | unsupported (path : Path)
  | notAFile (path : Path)
  | noTargets
  | unreadable (path : Path) (cause : FileError)
  deriving DecidableEq, Repr

/-- The wording of a problem. -/
def Problem.message : Problem → String
  | notFound path => "Target not found: " ++ path.text
  | unsupported path =>
    "Unsupported file type: " ++ path.text ++ " (expected one of .js, .jsx, .ts, .tsx)"
  | notAFile path => "Expected a file but found a directory: " ++ path.text
  | noTargets => "No paths given to analyze"
  | unreadable path cause => "Failed to read " ++ path.text ++ ": " ++ cause.message

/-- Is it the user who has to mend the problem, by other paths? -/
def Problem.isInvalidInput : Problem → Bool
  | unreadable .. => false
  | _ => true

/-! ### From paths to targets -/

/-- The path without links and dots of an entry, and whether it is a directory. -/
def resolve (fs : FileSystem) (p : Path) : Except Problem (Path × Bool) :=
  match fs.canonical p with
  | .ok path => .ok (path, fs.isDirectory p)
  | .error _ => .error (.notFound p)

/-- The path without links and dots of a source file. -/
def resolveSource (fs : FileSystem) (p : Path) : Except Problem Path := do
  let (path, isDirectory) ← resolve fs p
  if isDirectory then .error (.notAFile path)
  else if !isSourcePath path then .error (.unsupported path)
  else return path

/-- The paths of a list, each one where it stands first. -/
def distinct : List Path → List Path
  | [] => []
  | p :: ps => p :: (distinct ps).filter (!p.same ·)

namespace Target

/-- One source file. -/
def ofFile (fs : FileSystem) (p : Path) : Except Problem Target := do
  return .file (← resolveSource fs p)

/-- A directory. -/
def ofDirectory (fs : FileSystem) (p : Path) : Except Problem Target := do
  let (path, isDirectory) ← resolve fs p
  if isDirectory then return .directory path else .error (.notFound path)

/-- Several source files. -/
def ofFiles (fs : FileSystem) (ps : List Path) : Except Problem Target :=
  if ps.isEmpty then .error .noTargets
  else do
    let paths ← ps.mapM (resolveSource fs)
    return .files (distinct paths)

/-- What the paths name: one directory, one source file, or several source files. -/
def ofPaths (fs : FileSystem) (ps : List Path) : Except Problem Target :=
  match ps with
  | [] => .error .noTargets
  | [p] => do
    let (path, isDirectory) ← resolve fs p
    if isDirectory then return .directory path else ofFile fs path
  | ps => ofFiles fs ps

/-- Is the target a directory? -/
def isDirectory : Target → Bool
  | directory _ => true
  | _ => false

/-- The paths of a target. -/
def paths : Target → List Path
  | file path | directory path => [path]
  | files paths => paths

/-- The directory from which the paths of a report are seen. -/
def root? : Target → Option Path
  | directory path => some path
  | file path => path.parent?
  | files paths => paths.head?.bind Path.parent?

end Target

end Survey

end ImportCensus
