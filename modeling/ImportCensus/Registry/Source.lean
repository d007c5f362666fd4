/-
ImportCensus/Registry/Source.lean

What is asked about a package, and what answers.
-/
import ImportCensus.Package.Metadata
import ImportCensus.Registry.Failure

namespace ImportCensus.Registry

/-- What answers the two questions about a package: its record, and how often it was downloaded. -/
structure Source where
  metadata : PackageName → Except Failure PackageMetadata
  downloads : PackageName → Except Failure Nat

/-- One question about a package. -/
inductive Request where
  | metadata (name : PackageName)
  | downloads (name : PackageName)
  deriving DecidableEq, Repr

end ImportCensus.Registry
