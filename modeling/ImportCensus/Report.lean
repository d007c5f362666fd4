/-
ImportCensus/Report.lean

Reports: what a survey of source files has found, joined with what a registry knows.

A report lists every package of the survey once, most used first, with its record if there is one.
Records of packages that the survey did not find do not matter.
-/
import ImportCensus.Package.Metadata
import ImportCensus.Survey

namespace ImportCensus

namespace Report

/-- One package of a report. -/
structure Entry where
  name : PackageName
  count : Nat
  files : List Path
  metadata : Option PackageMetadata
  deriving DecidableEq, Repr

/-- The numbers of a report. -/
structure Summary where
  filesScanned : Nat
  filesAnalyzed : Nat
  packagesFound : Nat
  degradedPackages : Nat
  deriving DecidableEq, Repr

end Report

/-- A report on the packages of a project. -/
structure Report where
  tree : Option SourceTree
  files : FileMap
  deepDive : List Path
  packages : List Report.Entry
  summary : Report.Summary

namespace Report

/-- Does an entry have a record whose fetch failed? -/
def Entry.isDegraded (e : Entry) : Bool :=
  e.metadata.any (·.isDegraded)

/-- The entry of a package. -/
def entryFor (metadata : MetadataMap) (p : PackageName × PackageUsage) : Entry :=
  ⟨p.1, p.2.count, p.2.files, metadata.get? p.1⟩

/-- The entries of some packages, each of which takes its record out of the map. -/
def takeEntries (metadata : MetadataMap) : List (PackageName × PackageUsage) → List Entry
  | [] => []
  | p :: r => entryFor metadata p :: takeEntries (metadata.erase p.1) r

/-- The report on a survey. -/
def assemble (survey : Survey) (metadata : MetadataMap) : Report :=
  let packages := takeEntries metadata (rank survey.usage)
  { tree := survey.tree
    files := survey.files
    deepDive := survey.deepDive
    packages
    summary :=
      { filesScanned := survey.filesScanned
        filesAnalyzed := survey.files.size
        packagesFound := survey.usage.size
        degradedPackages := (packages.filter (·.isDegraded)).length } }

/-- The entry of the package whose name is `text`. -/
def package? (r : Report) (text : String) : Option Entry :=
  r.packages.find? fun e => e.name.text == text

end Report

end ImportCensus
