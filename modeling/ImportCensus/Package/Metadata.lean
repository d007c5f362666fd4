/-
ImportCensus/Package/Metadata.lean

What a registry knows about a package, and which packages may take the place of some that are no longer
maintained or have become unnecessary.

A record is degraded if fetching it failed: then it says why, and only its name means something.
-/
import ImportCensus.Order.SortedMap
import ImportCensus.Package.Name

namespace ImportCensus

/-- What a registry knows about one package. -/
structure PackageMetadata where
  name : PackageName
  description : String
  /-- The version that the registry calls the latest. -/
  version : String
  license : String
  homepage : Option String
  repository : Option String
  /-- How many maintainers the package has. -/
  maintainers : Nat
  /-- When the latest version was published, as the registry writes it. -/
  lastPublished : Option String
  /-- What the latest version depends on. -/
  dependencies : List String
  weeklyDownloads : Nat
  /-- Packages that may take the place of this one. -/
  alternatives : List String
  /-- Why the record could not be fetched, if it could not. -/
  error : Option String
  deriving DecidableEq, Repr

namespace PackageMetadata

/-- The license of a package that states none. -/
def unknownLicense : String :=
  "Unknown"

/-- The record of a package of which only the latest version is known. -/
def ofVersion (name : PackageName) (version : String) : PackageMetadata where
  name := name
  description := ""
  version := version
  license := unknownLicense
  homepage := none
  repository := none
  maintainers := 0
  lastPublished := none
  dependencies := []
  weeklyDownloads := 0
  alternatives := []
  error := none

/-- The record that stands for a fetch that failed. -/
def degraded (name : PackageName) (error : String) : PackageMetadata :=
  { ofVersion name "" with license := "", error := some error }

/-- Did the fetch of this record fail? -/
def isDegraded (m : PackageMetadata) : Bool :=
  m.error.isSome

/-! ### Alternatives -/

/-- The packages that may take the place of another one. -/
def alternativesTable : List (String × List String) :=
  [("moment", ["date-fns", "dayjs", "luxon"]),
   ("request", ["axios", "got", "node-fetch"]),
   ("lodash", ["lodash-es", "ramda"]),
   ("underscore", ["lodash-es", "ramda"]),
   ("jquery", ["cash-dom", "umbrellajs"]),
   ("node-sass", ["sass"]),
   ("tslint", ["eslint"]),
   ("uuid", ["nanoid"])]

/-- The packages that may take the place of the named one. -/
def alternativesFor (name : PackageName) : List String :=
  ((alternativesTable.find? fun e => e.1 == name.text).map (·.2)).getD []

end PackageMetadata

/-- Records of packages, by name. -/
abbrev MetadataMap : Type :=
  SortedMap PackageName PackageMetadata

/-- The records, each with the alternatives for the name it stands under. -/
def MetadataMap.withAlternatives (m : MetadataMap) : MetadataMap :=
  m.mapValues fun name r => { r with alternatives := PackageMetadata.alternativesFor name }

end ImportCensus
