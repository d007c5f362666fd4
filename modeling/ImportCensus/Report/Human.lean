/-
ImportCensus/Report/Human.lean

Reports for people to read.

The text is a list of lines: a title, the numbers of the report, the packages in their order with what
the registry knows of them, the packages whose record could not be fetched, and the files that deserve a
closer look.  A verbose text also lists, under each package, the files that use it, and at the end the
hierarchy that was walked.

Names stand in a column as wide as the longest name has bytes; each name is filled up with spaces by
the number of its characters.
-/
import ImportCensus.Number.Grouped
import ImportCensus.Path.Bytes
import ImportCensus.Report
import ImportCensus.Terminal
import ImportCensus.Timestamp

namespace ImportCensus.Report

open Terminal

/-- How a report is shown. -/
structure View where
  /-- Paths below this directory are shown as they are seen from it. -/
  root : Option Path
  /-- Are the files of each package and the hierarchy shown too? -/
  verbose : Bool
  /-- Are styles shown by escape sequences? -/
  colour : Bool

/-- One line, without its line break. -/
abbrev Line : Type :=
  List Char

namespace View

/-- A text in a style. -/
def paint (v : View) (style : Style) (s : String) : Line :=
  Terminal.paint v.colour style s.toList

/-- A path as it is shown. -/
def path (v : View) (p : Path) : String :=
  (RawPath.ofPath p).displayFrom (v.root.map .ofPath)

/-! ### Numbers -/

/-- The digits of a number. -/
def digits (n : Nat) : Line :=
  Nat.toDigits 10 n

/-- The lines with the numbers of a report. -/
def summaryLines (v : View) (s : Summary) : List Line :=
  ["Summary:".toList,
   "  Files scanned: ".toList ++ digits s.filesScanned,
   "  Files with packages: ".toList ++ digits s.filesAnalyzed,
   "  Packages found: ".toList ++ digits s.packagesFound] ++
  if s.degradedPackages = 0 then []
  else
    ["  Metadata unavailable: ".toList ++
      v.paint .yellow (String.ofList (digits s.degradedPackages))]

/-! ### Packages -/

/-- A text filled up with spaces on its right. -/
def padRight (width : Nat) (s : List Char) : List Char :=
  s ++ List.replicate (width - s.length) ' '

/-- A text filled up with spaces on its left. -/
def padLeft (width : Nat) (s : List Char) : List Char :=
  List.replicate (width - s.length) ' ' ++ s

/-- The width of the column of names. -/
def nameWidth (packages : List Entry) : Nat :=
  (packages.map fun e => e.name.text.utf8ByteSize).foldl max 0

/-- A styled text, filled up on its right within its style. -/
def paintPadded (v : View) (style : Style) (width : Nat) (s : String) : Line :=
  if v.colour then
    let on := sequence style.parameters
    on ++ padRight width (restyle on s.toList) ++ reset
  else padRight width s.toList

/-- How many files use a package. -/
def filesLabel (count : Nat) : Line :=
  if count = 1 then "1 file".toList else digits count ++ " files".toList

/-- What the registry knows of a package, behind its number of files. -/
def metadataLabel (v : View) (m : PackageMetadata) : Line :=
  if m.isDegraded then ' ' :: ' ' :: v.paint .yellow "(metadata unavailable)"
  else
    "  v".toList ++ m.version.toList ++ "  ".toList ++ m.license.toList ++ "  ".toList ++
      (formatCount m.weeklyDownloads).toList ++ "/week".toList ++
      match m.lastPublished.bind Timestamp.publishDate with
      | some date => "  published ".toList ++ date.toList
      | none => []

/-- The row of a package. -/
def row (v : View) (width rank : Nat) (e : Entry) : Line :=
  "  ".toList ++ padLeft 3 (digits rank) ++ ". ".toList ++ v.paintPadded .cyan width e.name.text ++
    "  ".toList ++ filesLabel e.count ++ (e.metadata.map v.metadataLabel).getD []

/-- The line with what may take the place of a package. -/
def alternativesLines (v : View) (e : Entry) : List Line :=
  match e.metadata with
  | some m =>
    if m.alternatives.isEmpty then []
    else ["       💡 Alternatives: ".toList ++ v.paint .green (", ".intercalate m.alternatives)]
  | none => []

/-- The lines with the files of a package. -/
def fileLines (v : View) (e : Entry) : List Line :=
  if v.verbose then e.files.map fun f => "         ".toList ++ v.paint .dimmed (v.path f) else []

/-- The lines of one package. -/
def packageLines (v : View) (width rank : Nat) (e : Entry) : List Line :=
  v.row width rank e :: v.alternativesLines e ++ v.fileLines e

/-- The lines of the packages from a rank on. -/
def packagesFrom (v : View) (width : Nat) : (rank : Nat) → List Entry → List Line
  | _, [] => []
  | rank, e :: es => v.packageLines width rank e ++ packagesFrom v width (rank + 1) es

/-- The section of the packages. -/
def packagesLines (v : View) (packages : List Entry) : List Line :=
  [[], v.paint .bold "📦 Packages" ++ " (".toList ++ digits packages.length ++ "):".toList] ++
    v.packagesFrom (nameWidth packages) 1 packages

/-! ### Packages without a record -/

/-- The line of a package whose record could not be fetched. -/
def degradedLine (v : View) (m : PackageMetadata) : Line :=
  "  ".toList ++ v.paint .red "✗" ++ " ".toList ++ m.name.text.toList ++ " - ".toList ++
    (m.error.getD "unknown error").toList

/-- The section of the packages whose record could not be fetched. -/
def degradedLines (v : View) (packages : List Entry) : List Line :=
  let degraded := (packages.filterMap (·.metadata)).filter (·.isDegraded)
  if degraded.isEmpty then []
  else
    [[], v.paint .boldYellow "Metadata unavailable" ++ " (".toList ++ digits degraded.length ++
      "):".toList] ++ degraded.map v.degradedLine

/-! ### Files worth a closer look -/

/-- The line of a file that deserves a closer look. -/
def deepDiveLine (v : View) (files : FileMap) (p : Path) : Line :=
  "  ".toList ++ (v.path p).toList ++ " (".toList ++
    digits ((files.get? p).map (·.size) |>.getD 0) ++ " packages)".toList

/-- The section of the files that deserve a closer look. -/
def deepDiveLines (v : View) (r : Report) : List Line :=
  if r.deepDive.isEmpty then []
  else
    [[], v.paint .bold "🔍 Deep dive suggested" ++ " (more than ".toList ++
      digits deepDiveThreshold ++ " packages):".toList] ++ r.deepDive.map (v.deepDiveLine r.files)

/-! ### The hierarchy -/

/-- The line of an entry of the hierarchy. -/
def treeLine (v : View) (e : Nat × SourceTree) : Line :=
  List.replicate (2 * e.1) ' ' ++
    match e.2 with
    | .directory name .. => v.paint .blue name ++ ['/']
    | .file name _ => name.toList

/-- The section of the hierarchy. -/
def treeLines (v : View) (tree : Option SourceTree) : List Line :=
  if v.verbose then
    match tree with
    | some t => [[], v.paint .bold "Project tree:"] ++ (t.entriesFrom 1).map v.treeLine
    | none => []
  else []

/-! ### Whole texts -/

/-- The lines of a report. -/
def lines (v : View) (r : Report) : List Line :=
  [[], v.paint .bold "Tally Analysis Results", "======================".toList, []] ++
    v.summaryLines r.summary ++ v.packagesLines r.packages ++ v.degradedLines r.packages ++
    v.deepDiveLines r ++ v.treeLines r.tree

/-- The text of a report. -/
def render (v : View) (r : Report) : String :=
  String.ofList ((v.lines r).flatMap (· ++ ['\n']))

end View

end ImportCensus.Report
