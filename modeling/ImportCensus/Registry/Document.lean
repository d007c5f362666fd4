/-
ImportCensus/Registry/Document.lean

The document of a package in a registry, and what it says about the package.

Documents come in many shapes, so little is asked of them: three entries must be tables if they are
there, and a latest version must be named.  Whatever else is missing or of another shape is taken as not
said.  The document's own name does not matter.
-/
import ImportCensus.Datum.Decoder
import ImportCensus.Package.Metadata
import ImportCensus.Registry.Failure

namespace ImportCensus.Registry

/-- The document of a package, as far as it is looked at. -/
structure Document where
  description : Option Datum
  /-- Versions by the names given to them, such as `latest`. -/
  tags : List (String × Datum)
  license : Option Datum
  homepage : Option Datum
  repository : Option Datum
  maintainers : Option Datum
  /-- When each version was published. -/
  times : List (String × Datum)
  /-- What each version consists of. -/
  versions : List (String × Datum)

namespace Document

open Decoder

/-- A table with values of any kind. -/
def anyTable : Decoder (List (String × Datum)) :=
  entries .ok any

/-- A document. -/
def decode : Decoder Document :=
  record "struct NpmPackageDocument" <|
    Document.mk <$> field "description" (nullable any) (.inTable none)
      <*> field "dist-tags" anyTable (.always [])
      <*> field "license" (nullable any) (.inTable none)
      <*> field "homepage" (nullable any) (.inTable none)
      <*> field "repository" (nullable any) (.inTable none)
      <*> field "maintainers" (nullable any) (.always none)
      <*> field "time" anyTable (.always [])
      <*> field "versions" anyTable (.always [])

/-! ### What a document says -/

/-- The text at a key of a table's entries. -/
def textAt (key : String) (fields : List (String × Datum)) : Option String :=
  (Datum.lookup key fields).bind Datum.text?

/-- The latest version, if one is named. -/
def latest? (d : Document) : Option String :=
  (textAt "latest" d.tags).filter (· != "")

/-- A text that says something, or the text under a key of a table. -/
def textOrEntry (key : String) : Datum → Option String
  | .text s => if s = "" then none else some s
  | .table fields => textAt key fields
  | _ => none

/-- The number of maintainers. -/
def maintainerCount (d : Document) : Nat :=
  match d.maintainers with
  | some (.list items) => items.length
  | _ => 0

/-- What a version depends on, in ascending order. -/
def dependencies (d : Document) (version : String) : List String :=
  match (Datum.lookup version d.versions).bind (·.get? "dependencies") with
  | some (.table fields) => (Datum.sortedFields fields).map (·.1)
  | _ => []

/-- What the document says about the package it was asked for. -/
def metadata (name : PackageName) (d : Document) : Except Failure PackageMetadata :=
  match d.latest? with
  | none => .error (.noLatestVersion name.text)
  | some version =>
    .ok
      { PackageMetadata.ofVersion name version with
        description := (d.description.bind Datum.text?).getD ""
        license := (d.license.bind (textOrEntry "type")).getD PackageMetadata.unknownLicense
        homepage := d.homepage.bind Datum.text?
        repository := d.repository.bind (textOrEntry "url")
        maintainers := d.maintainerCount
        lastPublished := textAt version d.times
        dependencies := d.dependencies version }

end Document

/-- What a registry says about a package, from the data of its document. -/
def metadataOf (name : PackageName) (d : Datum) : Except Failure PackageMetadata := do
  let document ← (Document.decode d).mapError fun m => Failure.body (.misfit m.cause)
  document.metadata name

end ImportCensus.Registry
