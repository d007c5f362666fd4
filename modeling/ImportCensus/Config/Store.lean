/-
ImportCensus/Config/Store.lean

Settings in a file.

Settings are saved in two steps, so that the file holds complete settings at any time: they are written
to a second file beside it, which then takes its place.  The second file has the same name for every
save, so its contents are those of the last one that was started.
-/
import ImportCensus.Config.Format
import ImportCensus.FileSystem.Access

namespace ImportCensus

open Text

namespace Config

/-- Why settings cannot be loaded, saved or used.  It is not among the reasons that they have no TOML text, as
each setting is a text or a number of at most 64 bits, and all of these can be written (`Config.toText`). -/
inductive Failure where
  | file (cause : FileError)
  | text (contents : String) (fault : TextFault)
  | notFound (path : Path)
  /-- Nobody knows where the user's own files are. -/
  | noHome
  | invalid (problem : Problem)
  deriving DecidableEq, Repr

/-- The wording of a failure. -/
def Failure.message : Failure → String
  | file cause => "IO error: " ++ cause.message
  | text contents fault => "TOML deserialization error: " ++ fault.message contents
  | notFound path => "Config file not found at " ++ path.text
  | noHome => "Home directory not found"
  | invalid problem => "Invalid configuration: " ++ problem.message

/-- The wording of what is behind a failure, if there is something. -/
def Failure.cause? : Failure → Option String
  | file cause => some cause.message
  | text contents fault => some (fault.message contents)
  | _ => none

/-- The settings, if they are of use. -/
def check (c : Config) : Except Failure Unit :=
  c.validate.mapError .invalid

/-- Settings together with the file they belong to. -/
structure Stored where
  path : Path
  config : Config
  deriving DecidableEq, Repr

/-! ### Loading -/

/-- The file for settings if the user does not name one. -/
def defaultPath (home : Option Path) : Except Failure Path :=
  match home with
  | some home => .ok ((home.child ".tally").child "config.toml")
  | none => .error .noHome

/-- The settings in a file. -/
def load (fs : FileSystem) (path : Path) : Except Failure Stored :=
  match fs.tryExists path with
  | .error e => .error (.file e)
  | .ok false => .error (.notFound path)
  | .ok true =>
    match fs.readText path with
    | .error e => .error (.file e)
    | .ok contents =>
      match ofText contents with
      | .error fault => .error (.text contents fault)
      | .ok config => .ok ⟨path, config⟩

/-- The settings in the file that the user names, which has to be there; or those in the default file,
if it is there; or the standard ones. -/
def loadOrStandard (fs : FileSystem) (home : Option Path) (path : Option Path) :
    Except Failure Stored :=
  match path with
  | some path => load fs path
  | none => do
    let path ← defaultPath home
    match load fs path with
    | .error (.notFound _) => return ⟨path, .standard⟩
    | r => r

/-! ### Saving -/

/-- The file to which settings are written first. -/
def temporaryPath (path : Path) : Path :=
  path.withExtension "toml.tmp"

/-- The first step of saving: writes the settings beside their file. -/
def Stored.writeTemporary (s : Stored) (fs : FileSystem) : Except FileError FileSystem :=
  fs.write (temporaryPath s.path) (encode s.config.toText.toList)

/-- The second step of saving: what was written takes the place of the file. -/
def Stored.replaceFile (s : Stored) (fs : FileSystem) : Except FileError FileSystem :=
  fs.rename (temporaryPath s.path) s.path

/-- Saves settings.  If the second step fails, the first one has been done nevertheless. -/
def Stored.save (s : Stored) (fs : FileSystem) : FileSystem × Except Failure Unit :=
  match s.writeTemporary fs with
  | .error e => (fs, .error (.file e))
  | .ok written =>
    match s.replaceFile written with
    | .error e => (written, .error (.file e))
    | .ok replaced => (replaced, .ok ())

/-- Makes the directory in which a file is to be. -/
def prepare (fs : FileSystem) (path : Path) : FileSystem × Except FileError Unit :=
  match path.parent? with
  | some parent => fs.makeDirectories parent
  | none => (fs, .ok ())

/-- Puts the standard settings into a file, in the place of those that are there. -/
def init (fs : FileSystem) (path : Path) : FileSystem × Except Failure Stored :=
  match prepare fs path with
  | (fs, .error e) => (fs, .error (.file e))
  | (fs, .ok _) =>
    let stored : Stored := ⟨path, .standard⟩
    match stored.save fs with
    | (fs, .error f) => (fs, .error f)
    | (fs, .ok _) => (fs, .ok stored)

end Config

end ImportCensus
