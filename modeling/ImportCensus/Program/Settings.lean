/-
ImportCensus/Program/Settings.lean

Runs that do a task on the settings.  Only writing the standard settings changes a file.
-/
import ImportCensus.CommandLine
import ImportCensus.Program

namespace ImportCensus.Program

open CommandLine

/-- The file of the settings: the one that the user names, or the default one. -/
def settingsFile (env : Environment) (file : Option Path) : Except Trouble Path :=
  match file with
  | some path => .ok path
  | none => (Config.defaultPath env.home).mapError .ofNoFile

/-- Writes the standard settings. -/
def writeSettings (env : Environment) (path : Path) (force : Bool) : Outcome :=
  if env.files.has path ∧ !force then
    .printed env.files
      ("Config already exists at: " ++ path.text ++ "\n"
        ++ "To reinitialize, run 'tally config init --force'.\n") ""
  else
    match Config.init env.files path with
    | (files, .ok _) => .printed files ("✓ Initialized config at: " ++ path.text ++ "\n") ""
    | (files, .error f) => .failed files (.ofConfig ("Failed to write config to " ++ path.text) f)

/-- Shows the settings as they are stored. -/
def showSettings (env : Environment) (file : Option Path) : Outcome :=
  match Config.loadOrStandard env.files env.home file with
  | .ok stored =>
    .printed env.files ("# " ++ stored.path.text ++ "\n" ++ stored.config.toText) ""
  | .error f => .failed env.files (.ofConfig "Failed to load config" f)

/-- The settings of a file, if they are of use. -/
def usableSettings (env : Environment) (path : Path) : Except Trouble Config :=
  match Config.load env.files path with
  | .error f =>
    .error (.ofConfig "Config not found or invalid. Run 'tally config init' first." f)
  | .ok stored =>
    match stored.config.check with
    | .ok _ => .ok stored.config
    | .error f => .error (.ofConfig "Config is invalid" f)

/-- The text that says that settings are of use. -/
def validText (c : Config) : String :=
  let r := c.registry
  "✓ Config is valid\n"
    ++ "  Version: " ++ c.version ++ "\n"
    ++ "  Registry: " ++ r.registryUrl ++ "\n"
    ++ "  Downloads: " ++ r.downloadsUrl ++ "\n"
    ++ "  Limits: " ++ toString r.maxConcurrentRequests.toNat ++ " concurrent, "
    ++ toString r.requestsPerSecond.toNat ++ " req/s, "
    ++ toString r.requestTimeoutSecs.toNat ++ "s timeout\n"

/-- The run that does a task on the settings. -/
def manageSettings (env : Environment) (task : Task) (file : Option Path) : Outcome :=
  match task with
  | .display => showSettings env file
  | .init force =>
    match settingsFile env file with
    | .ok path => writeSettings env path force
    | .error t => .failed env.files t
  | .path =>
    match settingsFile env file with
    | .ok path => .printed env.files (path.text ++ "\n") ""
    | .error t => .failed env.files t
  | .validate =>
    match (settingsFile env file).bind (usableSettings env) with
    | .ok c => .printed env.files (validText c) ""
    | .error t => .failed env.files t

end ImportCensus.Program
