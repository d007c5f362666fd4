/-
ImportCensus/Proofs/Report/Verbose.lean

Detailed reports.

A detailed text of a report tells of each package which files use it, and ends with the hierarchy that was
walked.  Nothing else in it depends on how detailed it is: it is the brief text with lines put in between, and
the hierarchy behind them.

Main statement: a detailed text has the lines of the brief one, and further lines for files and for the
hierarchy (`detailed_adds_lines`).
-/
import ImportCensus.Proofs.Report.Rows
import Mathlib.Data.List.Flatten

namespace ImportCensus.Report.View

variable {v : View} {r : Report} {t : SourceTree}

/-! ### Brief and detailed views -/

/-- The view that leaves out files and hierarchy. -/
def brief (v : View) : View :=
  { v with verbose := false }

/-- The view with files and hierarchy. -/
def detailed (v : View) : View :=
  { v with verbose := true }

/-! ### Packages -/

/-- The lines of a package with its rank that do not depend on how detailed a view is. -/
def ownLines (v : View) (r : Report) (x : Entry × ℕ) : List Line :=
  v.row (nameWidth r.packages) x.2 x.1 :: v.alternativesLines x.1

/-- The line of a file that uses a package. -/
def fileLine (v : View) (p : Path) : Line :=
  List.replicate 9 ' ' ++ v.paint .dimmed (v.path p)

theorem packageLines_brief (r : Report) (x : Entry × ℕ) :
    v.brief.packageLines (nameWidth r.packages) x.2 x.1 = v.ownLines r x :=
  List.append_nil _

theorem packageLines_detailed (r : Report) (x : Entry × ℕ) :
    v.detailed.packageLines (nameWidth r.packages) x.2 x.1 = v.ownLines r x ++ x.1.files.map v.fileLine :=
  rfl

/-! ### The hierarchy -/

/-- What starts the lines of the hierarchy: its title, below an empty line as all titles are. -/
def hierarchyHeading (v : View) : List Line :=
  [[], v.paint .bold "Project tree:"]

/-- The line of an entry at an address: two blanks for each level, and a slash behind a directory.  The top
is on the first level. -/
def nodeLine (v : View) (x : SourceTree.Address × SourceTree) : Line :=
  List.replicate (2 * (x.1.length + 1)) ' ' ++
    if x.2.isDirectory then v.paint .blue x.2.name ++ ['/'] else x.2.name.toList

theorem treeLine_eq_nodeLine (x : SourceTree.Address × SourceTree) :
    v.treeLine (1 + x.1.length, x.2) = v.nodeLine x := by
  obtain ⟨a, t⟩ := x
  rw [treeLine, nodeLine, Nat.add_comm]
  cases t with
  | directory name path children => rfl
  | file name path => rfl

/-- Are these the lines with which a view shows a hierarchy, if there is one? -/
def ShowsHierarchy (v : View) (tree : Option SourceTree) (added : List Line) : Prop :=
  match tree with
  | none => added = []
  | some t => ∃ nodes, t.InPreorder nodes ∧ added = v.hierarchyHeading ++ nodes.map v.nodeLine

theorem showsHierarchy_treeLines (v : View) (tree : Option SourceTree) :
    v.ShowsHierarchy tree (v.detailed.treeLines tree) := by
  cases tree with
  | none => rfl
  | some t =>
    refine ⟨t.nodes, t.inPreorder_nodes, ?_⟩
    have hentries : (t.entriesFrom 1).map v.treeLine = t.nodes.map v.nodeLine := by
      rw [SourceTree.entriesFrom_eq_map_nodes, List.map_map]
      exact List.map_congr_left fun x _ => treeLine_eq_nodeLine x
    exact congrArg (v.hierarchyHeading ++ ·) hentries

/-! ### Whole reports -/

/-- What stands before the packages. -/
def linesBefore (v : View) (r : Report) : List Line :=
  [[], v.paint .bold "Tally Analysis Results", "======================".toList, []] ++
    v.summaryLines r.summary ++
    [[], v.paint .bold "📦 Packages" ++ " (".toList ++ digits r.packages.length ++ "):".toList]

/-- What stands behind the packages and before the hierarchy. -/
def linesBehind (v : View) (r : Report) : List Line :=
  v.degradedLines r.packages ++ v.deepDiveLines r

/-- The lines of a report, cut around the packages and before the hierarchy. -/
theorem lines_eq (v : View) (r : Report) : v.lines r = v.linesBefore r ++
    (r.packages.zipIdx 1).flatMap (fun x => v.packageLines (nameWidth r.packages) x.2 x.1) ++
      v.linesBehind r ++ v.treeLines r.tree := by
  rw [lines, packagesLines, packagesFrom_eq_flatMap]
  simp only [linesBefore, linesBehind, List.append_assoc]

theorem lines_brief (v : View) (r : Report) : v.brief.lines r
    = v.linesBefore r ++ (r.packages.zipIdx 1).flatMap (v.ownLines r) ++ v.linesBehind r := by
  have hpackages : (fun x => v.brief.packageLines (nameWidth r.packages) x.2 x.1) = v.ownLines r :=
    funext (packageLines_brief r)
  rw [lines_eq, hpackages]
  exact List.append_nil _

theorem lines_detailed (v : View) (r : Report) : v.detailed.lines r = v.linesBefore r ++
    (r.packages.zipIdx 1).flatMap (fun x => v.ownLines r x ++ x.1.files.map v.fileLine) ++ v.linesBehind r ++
      v.detailed.treeLines r.tree := by
  have hpackages : (fun x => v.detailed.packageLines (nameWidth r.packages) x.2 x.1)
      = fun x => v.ownLines r x ++ x.1.files.map v.fileLine := funext (packageLines_detailed r)
  rw [lines_eq, hpackages]
  rfl

theorem lines_brief_sublist (v : View) (r : Report) : (v.brief.lines r).Sublist (v.detailed.lines r) := by
  rw [lines_brief, lines_detailed]
  refine List.Sublist.trans ?_ (List.sublist_append_left _ _)
  refine ((List.Sublist.refl _).append ?_).append (List.Sublist.refl _)
  exact List.Sublist.flatMap_right _ fun x _ => List.sublist_append_left _ _

/-- **A detailed text only adds lines.**  If no text in a report goes over a line break, the lines of its brief
text stand in its detailed text in their order, and the others are

  * behind the lines of each package one line for each file that uses it, in the order of the report;
  * at the very end, if there is a hierarchy, its heading and one line for each of its entries, a directory
    before what is in it, indented by its level and with a slash behind the name of a directory. -/
theorem detailed_adds_lines (v : View) (r : Report) (h : ∀ t ∈ r.texts, '\n' ∉ t.toList) :
    ∃ brief detailed : List Line,
      Text.split '\n' (v.brief.render r).toList = brief ++ [[]] ∧
      Text.split '\n' (v.detailed.render r).toList = detailed ++ [[]] ∧
      brief.Sublist detailed ∧
      ∃ before behind added : List Line, v.ShowsHierarchy r.tree added ∧
        brief = before ++ (r.packages.zipIdx 1).flatMap (v.ownLines r) ++ behind ∧
        detailed = before ++
          (r.packages.zipIdx 1).flatMap (fun x => v.ownLines r x ++ x.1.files.map v.fileLine) ++
            behind ++ added :=
  ⟨v.brief.lines r, v.detailed.lines r, split_render_of_texts v.brief h, split_render_of_texts v.detailed h,
    lines_brief_sublist v r, v.linesBefore r, v.linesBehind r, v.detailed.treeLines r.tree,
    showsHierarchy_treeLines v r.tree, lines_brief v r, lines_detailed v r⟩

/-- A report with a file behind two directories, an empty one and a file at the top. -/
def nestedReport : Report where
  tree := some (.directory "p" ⟨"/p"⟩ [.directory "src" ⟨"/p/src"⟩ [.directory "a" ⟨"/p/src/a"⟩
    [.file "b.js" ⟨"/p/src/a/b.js"⟩]], .directory "test" ⟨"/p/test"⟩ [], .file "c.js" ⟨"/p/c.js"⟩])
  files := .empty
  deepDive := [⟨"/p/c.js"⟩]
  packages :=
    (PackageName.ofText? "moment").toList.map (fun name =>
      ⟨name, 2, [⟨"/p/c.js"⟩, ⟨"/p/src/a/b.js"⟩],
        some { PackageMetadata.ofVersion name "2.30.1" with alternatives := ["date-fns"] }⟩) ++
    unknownPackage 1 "react"
  summary := ⟨2, 2, 2, 0⟩

/-- A view from the top of that hierarchy, with colours. -/
def nestedView : View :=
  ⟨some ⟨"/p"⟩, false, true⟩

/-- The text grows by two lines for files, the heading with an empty line above it, and six entries. -/
theorem detailed_adds_lines_nestedReport :
    (∀ t ∈ nestedReport.texts, '\n' ∉ t.toList) ∧ ∃ brief detailed : List Line,
      Text.split '\n' (nestedView.brief.render nestedReport).toList = brief ++ [[]] ∧
      Text.split '\n' (nestedView.detailed.render nestedReport).toList = detailed ++ [[]] ∧
      brief.Sublist detailed ∧ detailed.length = brief.length + 10 := by
  have h : ∀ t ∈ nestedReport.texts, '\n' ∉ t.toList := by decide +kernel
  obtain ⟨brief, detailed, hbrief, hdetailed, hsublist, -⟩ := detailed_adds_lines nestedView nestedReport h
  refine ⟨h, brief, detailed, hbrief, hdetailed, hsublist, ?_⟩
  have hlines : nestedView.brief.lines nestedReport = brief ∧ nestedView.detailed.lines nestedReport = detailed :=
    ⟨List.append_cancel_right ((split_render_of_texts _ h).symm.trans hbrief),
      List.append_cancel_right ((split_render_of_texts _ h).symm.trans hdetailed)⟩
  have hlength : (nestedView.detailed.lines nestedReport).length
      = (nestedView.brief.lines nestedReport).length + 10 := by decide +kernel
  rwa [hlines.1, hlines.2] at hlength

end ImportCensus.Report.View
