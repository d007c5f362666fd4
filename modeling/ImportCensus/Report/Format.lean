/-
ImportCensus/Report/Format.lean

Reports as data: the tables and lists that a report is written as, and the readers that take such data
apart again.

The files of a report are a table whose keys are paths, so paths that are equal by component are one
entry when they are read.  A tree is a table with a tag that says whether it is a directory or a file.
The reason of a failed fetch is left out where there is none; every other value that is not there is
null.
-/
import ImportCensus.Datum.Decoder
import ImportCensus.Json.Printer
import ImportCensus.Report

namespace ImportCensus

namespace Decoder

/-- A path. -/
def path : Decoder Path
  | .text s => .ok ⟨s⟩
  | d => wrongKind d .path

/-- The name of a package that a text spells. -/
def packageNameOf (s : String) : Except Mismatch PackageName :=
  match PackageName.ofText? s with
  | some n => .ok n
  | none => .error (.here (.badName s))

/-- The name of a package. -/
def packageName : Decoder PackageName := fun d => do
  packageNameOf (← text d)

/-- A set of packages, from a list in any order. -/
def packageSet : Decoder PackageSet := fun d => do
  return .ofList (← list packageName d)

/-- The files of a package. -/
def packageUsage : Decoder PackageUsage :=
  record "struct PackageUsage" <|
    PackageUsage.mk <$> field "count" (unsigned .size) <*> field "files" (list path)

/-- The files of each package. -/
def usageIndex : Decoder UsageIndex := fun d => do
  return .ofList (← entries packageNameOf packageUsage d)

/-- The packages of each file. -/
def fileMap : Decoder FileMap := fun d => do
  return .ofList (← entries (fun k => .ok ⟨k⟩) packageSet d)

/-- A value that may be null or missing. -/
def optionalField {α : Type} (name : String) (decode : Decoder α) : RecordReader (Option α) :=
  field name (nullable decode) (.inTable none)

/-- The record of a package. -/
def packageMetadata : Decoder PackageMetadata :=
  record "struct PackageMetadata" <|
    PackageMetadata.mk <$> field "name" packageName <*> field "description" text
      <*> field "version" text <*> field "license" text
      <*> optionalField "homepage" text <*> optionalField "repository" text
      <*> field "maintainers" (unsigned .size) <*> optionalField "last_published" text
      <*> field "dependencies" (list text) <*> field "weekly_downloads" (unsigned .word64)
      <*> field "alternatives" (list text) <*> optionalField "error" text

/-! ### Trees -/

/-- The two kinds of tree. -/
inductive TreeTag where
  | directory
  | file
  deriving DecidableEq, Repr

/-- The tag of a tree. -/
def treeTag : Decoder TreeTag
  | .text "directory" => .ok .directory
  | .text "file" => .ok .file
  | .text s => .error (.here (.unknownTag s))
  | d => wrongKind d .tag

/-- The tag of a tree, and the tree without it. -/
def splitTag (d : Datum) : Except Mismatch (TreeTag × Datum) :=
  match d with
  | .table fields =>
    match Datum.lookup "type" fields with
    | none => .error (.here (.missing "type"))
    | some tag => do
      return (← (treeTag tag).mapError (.within (.key "type")), d)
  | .list [] => .error (.here (.missing "type"))
  | .list (tag :: items) => do
    return (← (treeTag tag).mapError (.within (.index 0)), .list items)
  | d => wrongKind d .taggedNode

/-- The fields of a source file. -/
def treeFile : Decoder SourceTree :=
  record "struct variant TreeNode::File"
    (SourceTree.file <$> field "name" text <*> field "path" path) .refusedInNode

/-- The fields of a directory, with a reader for what is in it. -/
def treeDirectory (child : Decoder SourceTree) : Decoder SourceTree :=
  record "struct variant TreeNode::Directory"
    (SourceTree.directory <$> field "name" text <*> field "path" path
      <*> field "children" (list child)) .refusedInNode

end Decoder

mutual

/-- How deep a value is nested. -/
def Datum.depth : Datum → Nat
  | .list items => Datum.depths items + 1
  | .table fields => Datum.fieldDepths fields + 1
  | _ => 0

/-- How deep the deepest of several values is nested. -/
def Datum.depths : List Datum → Nat
  | [] => 0
  | d :: ds => max d.depth (Datum.depths ds)

/-- How deep the deepest of several entries is nested. -/
def Datum.fieldDepths : List (String × Datum) → Nat
  | [] => 0
  | (_, d) :: fs => max d.depth (Datum.fieldDepths fs)

end

namespace Decoder

/-- A tree that is nested at most so deep. -/
def treeOfDepth : (depth : Nat) → Decoder SourceTree
  | 0, d => do
    let _ ← splitTag d
    treeFile d
  | depth + 1, d => do
    match ← splitTag d with
    | (.file, rest) => treeFile rest
    | (.directory, rest) => treeDirectory (treeOfDepth depth) rest

/-- A tree. -/
def tree : Decoder SourceTree := fun d =>
  treeOfDepth (d.depth + 1) d

/-! ### Whole reports -/

/-- One package of a report. -/
def reportEntry : Decoder Report.Entry :=
  record "struct PackageReport" <|
    Report.Entry.mk <$> field "name" packageName <*> field "count" (unsigned .size)
      <*> field "files" (list path) <*> optionalField "metadata" packageMetadata

/-- The numbers of a report. -/
def summary : Decoder Report.Summary :=
  record "struct Summary" <|
    Report.Summary.mk <$> field "files_scanned" (unsigned .size)
      <*> field "files_analyzed" (unsigned .size) <*> field "packages_found" (unsigned .size)
      <*> field "degraded_packages" (unsigned .size)

/-- A report. -/
def report : Decoder Report :=
  record "struct AnalysisReport" <|
    Report.mk <$> optionalField "tree" tree <*> field "files" fileMap
      <*> field "deep_dive" (list path) <*> field "packages" (list reportEntry)
      <*> field "summary" summary

end Decoder

/-! ### Writing -/

namespace Datum

/-- A value that may be missing. -/
def ofOption {α : Type} (encode : α → Datum) : Option α → Datum
  | none => .null
  | some a => encode a

/-- A natural number. -/
def ofNat (n : Nat) : Datum :=
  .int n

/-- A list of texts. -/
def ofTexts (l : List String) : Datum :=
  .list (l.map .text)

/-- A list of paths. -/
def ofPaths (l : List Path) : Datum :=
  .list (l.map fun p => .text p.text)

/-- A set of packages. -/
def ofPackages (s : PackageSet) : Datum :=
  .list (s.toList.map fun n => .text n.text)

end Datum

open Datum

mutual

/-- A tree as data. -/
def SourceTree.toDatum : SourceTree → Datum
  | .directory name path children =>
    .table [("type", .text "directory"), ("name", .text name), ("path", .text path.text),
      ("children", .list (SourceTree.toData children))]
  | .file name path =>
    .table [("type", .text "file"), ("name", .text name), ("path", .text path.text)]

/-- Several trees as data. -/
def SourceTree.toData : List SourceTree → List Datum
  | [] => []
  | t :: ts => t.toDatum :: SourceTree.toData ts

end

/-- The record of a package as data. -/
def PackageMetadata.toDatum (m : PackageMetadata) : Datum :=
  .table
    ([("name", .text m.name.text), ("description", .text m.description),
      ("version", .text m.version), ("license", .text m.license),
      ("homepage", ofOption .text m.homepage), ("repository", ofOption .text m.repository),
      ("maintainers", ofNat m.maintainers), ("last_published", ofOption .text m.lastPublished),
      ("dependencies", ofTexts m.dependencies), ("weekly_downloads", ofNat m.weeklyDownloads),
      ("alternatives", ofTexts m.alternatives)] ++
      match m.error with
      | none => []
      | some e => [("error", .text e)])

/-- The files of a package as data. -/
def PackageUsage.toDatum (u : PackageUsage) : Datum :=
  .table [("count", ofNat u.count), ("files", ofPaths u.files)]

/-- One package of a report as data. -/
def Report.Entry.toDatum (e : Report.Entry) : Datum :=
  .table
    [("name", .text e.name.text), ("count", ofNat e.count), ("files", ofPaths e.files),
     ("metadata", ofOption PackageMetadata.toDatum e.metadata)]

/-- The numbers of a report as data. -/
def Report.Summary.toDatum (s : Report.Summary) : Datum :=
  .table
    [("files_scanned", ofNat s.filesScanned), ("files_analyzed", ofNat s.filesAnalyzed),
     ("packages_found", ofNat s.packagesFound), ("degraded_packages", ofNat s.degradedPackages)]

/-- A report as data. -/
def Report.toDatum (r : Report) : Datum :=
  .table
    [("tree", ofOption SourceTree.toDatum r.tree),
     ("files", .table (r.files.entries.map fun e => (e.1.text, ofPackages e.2))),
     ("deep_dive", ofPaths r.deepDive),
     ("packages", .list (r.packages.map Report.Entry.toDatum)),
     ("summary", r.summary.toDatum)]

/-- The JSON text of a report. -/
def Report.toJson (r : Report) : String :=
  Json.print r.toDatum

end ImportCensus
