/-
ImportCensus/Survey.lean

Surveys: what reading the source files of a project has found, before anything is known about the
packages.
-/
import ImportCensus.SourceTree
import ImportCensus.Usage

namespace ImportCensus

/-- What reading the source files of a project has found. -/
structure Survey where
  /-- The hierarchy that was walked, if a directory was surveyed. -/
  tree : Option SourceTree
  /-- The packages of each file that uses one. -/
  files : FileMap
  /-- The files that deserve a closer look. -/
  deepDive : List Path
  /-- How many files were read. -/
  filesScanned : Nat
  /-- The files of each package. -/
  usage : UsageIndex

end ImportCensus
