/-
ImportCensus/Main.lean

The program on a computer.  The part of the disk that a command can look at is copied first, the command
is run on the copy, and at the end the settings are stored if the run has changed them.

Requests are not carried anywhere, so the registry never answers.
-/
import ImportCensus.Program.Run

namespace ImportCensus.Main

open CommandLine

/-! ### Copying the disk -/

/-- The bytes of a file. -/
def bytesOf (path : String) : IO Text.Bytes := do
  return (← IO.FS.readBinFile path).toList

/-- The entries below a directory, as far as a walk looks at them. -/
partial def copyTree (path : String) : IO Node := do
  let mut entries : Listing := []
  for e in ← (← IO.FS.realPath path).readDir do
    let name := e.fileName
    match (← e.path.symlinkMetadata).type with
    | .dir =>
      let n ← if isExcludedDirectory name then pure (.directory []) else copyTree e.path.toString
      entries := (name, n) :: entries
    | .file =>
      let n ← if isSourceName name then bytesOf e.path.toString else pure []
      entries := (name, .file n) :: entries
    | .symlink => entries := (name, .link "") :: entries
    | .other => entries := (name, .other) :: entries
  return .directory entries.reverse

/-- The file system with an entry put into a directory unless there is one of its name. -/
def addEntry (fs : FileSystem) (place : Place) (name : String) (n : Node) : FileSystem :=
  match fs.root.find? (place ++ [name]) with
  | some _ => fs
  | none => fs.put place name n

/-- Copies the entries on the way of a path, and all that is below its end if `deep`. -/
partial def copyWay (deep : Bool) (fs : FileSystem) (place : Place) :
    List (List Char) → IO FileSystem
  | [] => do
    let path := (FileSystem.pathOf place).text
    if deep then
      match fs.root.find? place, place.getLast? with
      | some (.directory _), some name => return fs.put place.dropLast name (← copyTree path)
      | some (.directory _), none => return { fs with root := ← copyTree path }
      | _, _ => return fs
    else return fs
  | piece :: rest => do
    let name := String.ofList piece
    if FileSystem.isSilent piece then copyWay deep fs place rest
    else if name == ".." then copyWay deep fs place.dropLast rest
    else
      let entry : IO.FS.DirEntry := { root := (FileSystem.pathOf place).text, fileName := name }
      match ← entry.path.symlinkMetadata.toBaseIO with
      | .error _ => return fs
      | .ok metadata =>
        match metadata.type with
        | .dir => copyWay deep (addEntry fs place name (.directory [])) (place ++ [name]) rest
        | .symlink =>
          match ← (IO.FS.realPath entry.path).toBaseIO with
          | .ok target =>
            let target := target.toString
            copyWay deep (addEntry fs place name (.link target)) []
              (Text.split '/' target.toList ++ rest)
          | .error _ => return addEntry fs place name (.link "")
        | .file => return addEntry fs place name (.file (← bytesOf entry.path.toString))
        | .other => return addEntry fs place name .other

/-- Copies what a path leads to. -/
def copyPath (deep : Bool) (fs : FileSystem) (p : Path) : IO FileSystem :=
  copyWay deep fs (if p.isAbsolute then [] else fs.current) (Text.split '/' p.text.toList)

/-- The names in a path that starts at the root. -/
def placeOf (path : String) : Place :=
  (Text.split '/' path.toList).filterMap fun piece =>
    if piece.isEmpty then none else some (String.ofList piece)

/-- The file with the settings that a command looks at. -/
def settingsOf (home : Option Path) (file : Option Path) : List Path :=
  match file with
  | some p => [p]
  | none => (Config.defaultPath home).toOption.toList

/-- Copies what a command can look at. -/
def copyFor (home : Option Path) (command : Command) : IO FileSystem := do
  let current ← IO.FS.realPath "."
  let start : FileSystem := { FileSystem.empty with current := placeOf current.toString }
  let start ← copyPath false start ⟨current.toString⟩
  match command with
  | .analysis o => do
    let fs ← o.paths.foldlM (copyPath true) start
    (settingsOf home o.config).foldlM (copyPath false) fs
  | .config _ file => (settingsOf home file).foldlM (copyPath false) start

/-! ### Storing settings -/

/-- Stores the file at a path if a run has changed it. -/
def store (before after : FileSystem) (p : Path) : IO Unit := do
  match after.read p with
  | .ok contents =>
    unless (before.read p).toOption == some contents do
      if let some parent := p.parent? then
        if parent.text != "" then IO.FS.createDirAll parent.text
      let temporary := (Config.temporaryPath p).text
      IO.FS.writeBinFile temporary ⟨contents.toArray⟩
      IO.FS.rename temporary p.text
  | .error _ => pure ()

/-! ### Running -/

/-- Writes what a run leaves behind; the answer is its exit code. -/
def finish (o : Outcome) : IO UInt32 := do
  (← IO.getStdout).putStr o.output
  (← IO.getStderr).putStr o.messages
  return UInt32.ofNat o.exit

/-- Runs a command on a copy of the disk. -/
def perform (home : Option Path) (colour : Bool) (command : Command) : IO UInt32 := do
  let files ← copyFor home command
  let o := Program.perform { files, home, transport := Registry.noTransport, colour } command
  if let .config (.init _) file := command then
    for p in settingsOf home file do
      store files o.files p
  finish o

/-- Runs the program with the given arguments. -/
def start (arguments : List String) : IO UInt32 := do
  let home : Option Path := (← IO.getEnv "HOME").map fun text => ⟨text⟩
  let colour := (← (← IO.getStdout).isTty) && (← IO.getEnv "NO_COLOR").isNone
  match CommandLine.read arguments with
  | .ok command => perform home colour command
  | .error stop => finish (Program.stopped ⟨.empty, home, Registry.noTransport, colour⟩ stop)

end ImportCensus.Main

/-- The program. -/
def main (arguments : List String) : IO UInt32 :=
  ImportCensus.Main.start arguments
