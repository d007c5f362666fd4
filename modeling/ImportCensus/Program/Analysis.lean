/-
ImportCensus/Program/Analysis.lean

Runs that report on source files.

First the paths are looked at and the files are read.  The registry and the settings come after that, and
only if some package was found and the registry is not to be left alone.
-/
import ImportCensus.CommandLine
import ImportCensus.Program
import ImportCensus.Registry.Batch
import ImportCensus.Report.Format
import ImportCensus.Report.Human
import ImportCensus.Survey.Scan

namespace ImportCensus.Program

open CommandLine

/-! ### The registry -/

/-- The settings for a report: those of the file that the user names, or of the default file, or the
standard ones. -/
def loadSettings (env : Environment) (o : Analysis) : Except Trouble Config :=
  match Config.loadOrStandard env.files env.home o.config with
  | .ok stored => .ok stored.config
  | .error .noHome => .ok .standard
  | .error f => .error (.ofConfig "Failed to load config" f)

/-- Settings in which the user's word on how many packages may be asked about together counts. -/
def withConcurrency (c : Config) (concurrency : Option UInt64) : Config :=
  match concurrency with
  | some n => { c with registry := { c.registry with maxConcurrentRequests := n } }
  | none => c

/-- The settings for a report, with the user's word, if they are of use. -/
def settings (env : Environment) (o : Analysis) : Except Trouble Config := do
  let c := withConcurrency (← loadSettings env o) o.concurrency
  match c.check with
  | .ok _ => return c
  | .error f => .error (.ofConfig "Invalid configuration" f)

/-- The addresses of the registry in settings. -/
def addresses (c : Config) : Except Trouble Registry.Addresses :=
  (Registry.Addresses.ofBases c.registry.registryUrl c.registry.downloadsUrl).mapError
    (.ofRegistry "Failed to create registry client")

/-- The settings for a report and the addresses of the registry in them. -/
def registryAccess (env : Environment) (o : Analysis) :
    Except Trouble (Config × Registry.Addresses) := do
  let c ← settings env o
  return (c, ← addresses c)

/-- The questions about packages, all of them answered. -/
def askAbout (env : Environment) (c : Config) (a : Registry.Addresses) (packages : PackageSet) :
    Registry.Batch :=
  .finished (Registry.source env.transport a) c.registry.maxConcurrentRequests.toNat packages.toList

/-! ### The report -/

/-- The text of the report on a survey. -/
def reportText (env : Environment) (o : Analysis) (target : Survey.Target) (survey : Survey)
    (records : MetadataMap) : String :=
  let report := Report.assemble survey records
  match o.format with
  | .json => report.toJson
  | .human =>
    let view : Report.View :=
      { root := target.root?, verbose := o.verbose, colour := env.colour }
    view.render report

/-- The message that the registry is being asked. -/
def fetchingMessage (o : Analysis) (packages : Nat) : String :=
  match o.format with
  | .human => "Fetching metadata for " ++ toString packages ++ " packages...\n"
  | .json => ""

/-- The run with a survey that has found packages. -/
def reportOn (env : Environment) (o : Analysis) (target : Survey.Target) (survey : Survey) :
    Outcome :=
  if o.offline then
    .printed env.files (reportText env o target survey .empty ++ "\n") ""
  else
    match registryAccess env o with
    | .error t => .failed env.files t
    | .ok (c, a) =>
      let packages := survey.usage.packages
      let batch := askAbout env c a packages
      { exit := 0
        output := reportText env o target survey batch.results ++ "\n"
        messages := fetchingMessage o packages.size
        files := env.files
        requests := batch.requests }

/-- The run that reports on source files. -/
def analyze (env : Environment) (o : Analysis) : Outcome :=
  match Survey.Target.ofPaths env.files o.paths with
  | .error p => .failed env.files (.ofSurvey "Failed to resolve analysis target" p)
  | .ok target =>
    match Survey.scan env.files target with
    | .error p => .failed env.files (.ofSurvey "Scan failed" p)
    | .ok (.nothing _) => .printed env.files "" "No packages found\n"
    | .ok (.found survey) => reportOn env o target survey

end ImportCensus.Program
