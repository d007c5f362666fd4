/-
ImportCensus/Usage.lean

Which files use which packages, looked at from both ends: the packages of each file, and the files of
each package.

A package is counted once in a file, however often the file refers to it.  Packages are ranked by the
number of files that use them; packages with the same number stand in the order of their names.
-/
import ImportCensus.Order.SortedMap
import ImportCensus.Order.SortedSet
import ImportCensus.Package.Name
import ImportCensus.Path
import ImportCensus.Source.Reference

namespace ImportCensus

/-- A set of packages. -/
abbrev PackageSet : Type :=
  SortedSet PackageName

/-- The packages of each file. -/
abbrev FileMap : Type :=
  SortedMap Path PackageSet

/-- The files that use a package, and how many they are. -/
structure PackageUsage where
  count : Nat
  files : List Path
  deriving DecidableEq, Repr

/-- The files of each package. -/
abbrev UsageIndex : Type :=
  SortedMap PackageName PackageUsage

/-- The distinct packages that a source text refers to. -/
def packagesIn (text : String) : PackageSet :=
  .ofList ((Source.specifiers text).filterMap PackageName.ofSpecifier?)

/-! ### Files worth a closer look -/

/-- A file that uses more packages than this deserves a closer look. -/
def deepDiveThreshold : Nat :=
  3

/-- Does a file with these packages deserve a closer look? -/
def needsDeepDive (packages : PackageSet) : Bool :=
  deepDiveThreshold < packages.size

/-! ### From files to packages -/

/-- The usage of a package by one more file. -/
def PackageUsage.addFile (u : PackageUsage) (file : Path) : PackageUsage :=
  ⟨u.count + 1, u.files ++ [file]⟩

/-- The index with one more file that uses the packages. -/
def UsageIndex.addFile (index : UsageIndex) (file : Path) (packages : PackageSet) : UsageIndex :=
  packages.toList.foldl (fun index p => index.update p ⟨0, []⟩ (·.addFile file)) index

/-- The files of each package, from the packages of each file, in the order of the list. -/
def aggregate (files : List (Path × PackageSet)) : UsageIndex :=
  files.foldl (fun index f => index.addFile f.1 f.2) .empty

/-- The packages that an index has an entry for. -/
def UsageIndex.packages (index : UsageIndex) : PackageSet :=
  .ofList index.keys

/-- The packages of an index with their usage, most used first. -/
def rank (index : UsageIndex) : List (PackageName × PackageUsage) :=
  index.entries.mergeSort fun a b => decide (b.2.count ≤ a.2.count)

end ImportCensus
