/-
ImportCensus/Survey/Scan.lean

Surveying a target: its source files are read, and what they use is put together.
-/
import ImportCensus.Survey.Target
import ImportCensus.Survey.Walk

namespace ImportCensus

open Text

namespace Survey

/-- The outcome of a scan: a survey, or the number of files that were read in vain. -/
inductive Outcome where
  | found (survey : Survey)
  | nothing (filesScanned : Nat)

/-- How many files were read. -/
def Outcome.filesScanned : Outcome → Nat
  | found survey => survey.filesScanned
  | nothing filesScanned => filesScanned

/-- The packages of the file at a path. -/
def analyze (fs : FileSystem) (p : Path) : Except Problem PackageSet :=
  match fs.read p with
  | .ok contents => .ok (packagesOf contents)
  | .error e => .error (.unreadable p e)

/-- What is found in single files, each of which has to be readable. -/
def readFiles (fs : FileSystem) : List Path → Except Problem Finds
  | [] => .ok .none
  | p :: ps => do
    let packages ← analyze fs p
    return .ofFile (nodeName p) p packages ++ (← readFiles fs ps)

/-- What is found in single files; none of them gets a closer look twice. -/
def scanFiles (fs : FileSystem) (ps : List Path) : Except Problem Finds := do
  let f ← readFiles fs ps
  return { f with deepDive := distinct f.deepDive }

/-- The survey of what was found, if any package was. -/
def Outcome.ofFinds (tree : Option SourceTree) (f : Finds) : Outcome :=
  let usage := aggregate f.files.entries
  if usage.isEmpty then .nothing f.filesScanned
  else .found ⟨tree, f.files, f.deepDive, f.filesScanned, usage⟩

/-- Surveys a target. -/
def scan (fs : FileSystem) (target : Target) : Except Problem Outcome :=
  match target with
  | .directory root =>
    let w := walk fs root
    match w.rootError with
    | some e => .error (.unreadable root e)
    | none => .ok (.ofFinds (some w.tree) w.finds)
  | .file path => do return .ofFinds none (← scanFiles fs [path])
  | .files paths => do return .ofFinds none (← scanFiles fs paths)

end Survey

end ImportCensus
