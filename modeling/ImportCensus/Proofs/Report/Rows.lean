/-
ImportCensus/Proofs/Report/Rows.lean

The rows of packages and their columns.

A row has a rank, the name of a package, the number of files that use it, and what the registry knows.  The
column of names is as wide as the longest name has bytes, while a name is filled up by the number of its
characters.  A character has at least one byte, so every name fits, and none of them moves what stands behind
it.

Main statement: without colours each name fills its column exactly (`names_fill_column`).
-/
import ImportCensus.Proofs.Report.Numbers
import Mathlib.Data.String.Basic

namespace ImportCensus.Report.View

open Reading

variable {v : View} {r : Report} {e : Entry}

/-! ### Rows -/

/-- The lines of the packages, one package after the other. -/
theorem packagesFrom_eq_flatMap (width rank : ℕ) (packages : List Entry) :
    v.packagesFrom width rank packages
      = (packages.zipIdx rank).flatMap fun x => v.packageLines width x.2 x.1 := by
  induction packages generalizing rank with
  | nil => rfl
  | cons e packages ih => rw [packagesFrom, List.zipIdx_cons, List.flatMap_cons, ih]

/-- Does a line start with a rank? -/
def isRow (line : Line) : Bool :=
  (rank? line).isSome

/-- The lines that start with a rank are the rows, one for each package. -/
theorem filter_isRow_packagesFrom (width rank : ℕ) (packages : List Entry) :
    (v.packagesFrom width rank packages).filter isRow
      = (packages.zipIdx rank).map fun x => v.row width x.2 x.1 := by
  rw [packagesFrom_eq_flatMap, List.filter_flatMap, List.map_eq_flatMap]
  congr 1
  funext x
  have hrow : isRow (v.row width x.2 x.1) = true := by
    rw [isRow, rank?_row]
    rfl
  have hbelow : (v.alternativesLines x.1 ++ v.fileLines x.1).filter isRow = [] := by
    rw [List.filter_eq_nil_iff]
    intro line hline
    rw [isRow, List.filterMap_eq_nil_iff.1 (filterMap_rank?_below x.1) line hline]
    exact Bool.false_ne_true
  rw [packageLines, List.cons_append, List.filter_cons_of_pos hrow, hbelow]

/-! ### Names in their column -/

/-- A text has at most as many characters as bytes. -/
theorem length_le_utf8ByteSize (s : String) : s.toList.length ≤ s.utf8ByteSize := by
  have hchars : ∀ cs : List Char, cs.length ≤ String.utf8Len cs := by
    intro cs
    induction cs with
    | nil => exact Nat.zero_le _
    | cons c cs ih =>
      have hc := c.utf8Size_pos
      rw [List.length_cons, String.utf8Len_cons]
      omega
  have hsize := String.utf8ByteSize_ofList s.toList
  rw [String.ofList_toList] at hsize
  exact hsize ▸ hchars s.toList

theorem length_padRight {width : ℕ} {s : List Char} (h : s.length ≤ width) :
    (padRight width s).length = width := by
  rw [padRight, List.length_append, List.length_replicate]
  omega

/-- The largest number of bytes that a listed name has. -/
def widest (r : Report) : ℕ :=
  (r.packages.map fun e => e.name.text.utf8ByteSize).max?.getD 0

theorem nameWidth_packages (r : Report) : nameWidth r.packages = widest r := by
  rw [nameWidth, List.foldl_max, Nat.zero_max, widest]

/-- No listed name has more characters than the column is wide. -/
theorem length_name_le_widest (he : e ∈ r.packages) : e.name.text.toList.length ≤ widest r :=
  (length_le_utf8ByteSize _).trans (List.le_max?_getD_of_mem (List.mem_map_of_mem he))

/-- The parts of a row. -/
structure Cells where
  rank : Line
  name : Line
  label : Line
  rest : Line

namespace Cells

/-- What stands before the number of files. -/
def front (c : Cells) : Line :=
  "  ".toList ++ c.rank ++ ". ".toList ++ c.name ++ "  ".toList

/-- The row with some parts. -/
def line (c : Cells) : Line :=
  c.front ++ c.label ++ c.rest

/-- The column, counted in characters, at which the number of files starts. -/
def labelColumn (c : Cells) : ℕ :=
  c.front.length

/-- Are these the parts of the row of a package with its rank, where the name fills a column? -/
structure AreOf (width : ℕ) (x : Entry × ℕ) (c : Cells) : Prop where
  rank : c.rank = padLeft 3 (digits x.2)
  /-- The whole name stands there, with blanks behind it. -/
  name : ∃ blanks, c.name = x.1.name.text.toList ++ List.replicate blanks ' '
  width : c.name.length = width
  label : c.label = filesLabel x.1.count

/-- The number of files starts at a column that depends on the rank alone. -/
theorem AreOf.labelColumn_eq {width : ℕ} {x : Entry × ℕ} {c : Cells} (h : c.AreOf width x) :
    c.labelColumn = c.rank.length + width + 6 := by
  simp only [labelColumn, front, List.length_append, h.width, String.length_toList]
  have hblanks : "  ".length = 2 ∧ ". ".length = 2 := by decide
  omega

end Cells

/-- The parts of a row without colours. -/
def cells (v : View) (width : ℕ) (x : Entry × ℕ) : Cells :=
  ⟨padLeft 3 (digits x.2), padRight width x.1.name.text.toList, filesLabel x.1.count,
    (x.1.metadata.map v.metadataLabel).getD []⟩

theorem line_cells (hcolour : v.colour = false) (width : ℕ) (x : Entry × ℕ) :
    (v.cells width x).line = v.row width x.2 x.1 := by
  rw [row, paintPadded, hcolour]
  rfl

/-- The section of the packages. -/
theorem packages_section (hcolour : v.colour = false) (r : Report) :
    paragraph? "📦 Packages (" (v.lines r)
      = some (("📦 Packages".toList ++ " (".toList ++ digits r.packages.length ++ "):".toList) ::
          v.packagesFrom (widest r) 1 r.packages) := by
  have hpart : ("📦 Packages (", v.packagesLines r.packages) ∈ v.parts r := by simp [parts]
  rw [paragraph?_lines hcolour hpart, packagesLines, paint_of_plain hcolour, nameWidth_packages]
  rfl

/-- **Without colours each name fills its column exactly**, whatever characters it has.  In the section of the
packages, the lines with a rank are the rows of the packages one after the other, and each of them has

  * the whole name with blanks behind it, on exactly as many characters as the longest name has bytes;
  * the number of files behind that, at a column which is the same for all ranks of one width. -/
theorem names_fill_column (v : View) (r : Report) (hcolour : v.colour = false) :
    (v.render r).toList = (v.lines r).flatMap (· ++ ['\n']) ∧
      ∃ title lines, paragraph? "📦 Packages (" (v.lines r) = some (title :: lines) ∧
        ∃ rows : List Cells, lines.filter isRow = rows.map Cells.line ∧
          List.Forall₂ (Cells.AreOf (widest r)) (r.packages.zipIdx 1) rows ∧
          ∀ c ∈ rows, ∀ d ∈ rows, c.rank.length = d.rank.length → c.labelColumn = d.labelColumn := by
  have hareOf : ∀ x ∈ r.packages.zipIdx 1, Cells.AreOf (widest r) x (v.cells (widest r) x) := fun x hx =>
    ⟨rfl, ⟨_, rfl⟩, length_padRight (length_name_le_widest (List.fst_mem_of_mem_zipIdx hx)), rfl⟩
  refine ⟨String.toList_ofList, _, _, packages_section hcolour r,
    (r.packages.zipIdx 1).map (v.cells (widest r)), ?_, ?_, ?_⟩
  · rw [filter_isRow_packagesFrom, List.map_map]
    exact List.map_congr_left fun x _ => (line_cells hcolour _ x).symm
  · rw [List.forall₂_map_right_iff, List.forall₂_same]
    exact hareOf
  · intro c hc d hd hrank
    obtain ⟨x, hx, rfl⟩ := List.mem_map.1 hc
    obtain ⟨y, hy, rfl⟩ := List.mem_map.1 hd
    rw [(hareOf x hx).labelColumn_eq, (hareOf y hy).labelColumn_eq, hrank]

/-- An entry without a record for the package with a name. -/
def unknownPackage (count : ℕ) (name : String) : List Entry :=
  (PackageName.ofText? name).toList.map fun n => ⟨n, count, [], none⟩

/-- Names of which the one with the most bytes is not the one with the most characters. -/
def mixedNames : Report :=
  ⟨none, .empty, [], unknownPackage 1 "été-日本" ++ unknownPackage 12 "react-dom" ++ unknownPackage 1 "🎉",
    ⟨0, 0, 3, 0⟩⟩

/-- The column is twelve wide for a name of six characters, while another name has nine. -/
theorem names_fill_column_mixedNames : widest mixedNames = 12 ∧
    ∃ title lines,
      paragraph? "📦 Packages (" ((View.mk none true false).lines mixedNames) = some (title :: lines) ∧
      ∃ rows : List Cells, lines.filter isRow = rows.map Cells.line ∧
        List.Forall₂ (Cells.AreOf 12) (mixedNames.packages.zipIdx 1) rows ∧
        ∀ c ∈ rows, ∀ d ∈ rows, c.rank.length = d.rank.length → c.labelColumn = d.labelColumn := by
  have hwidest : widest mixedNames = 12 := by decide +kernel
  have hrows := (names_fill_column (View.mk none true false) mixedNames rfl).2
  rw [hwidest] at hrows
  exact ⟨hwidest, hrows⟩

end ImportCensus.Report.View
