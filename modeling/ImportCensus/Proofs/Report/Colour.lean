/-
ImportCensus/Proofs/Report/Colour.lean

Colours only decorate.

A report for people is a list of lines, and each line is put together from pieces: fixed words, numbers,
texts of the report, and styled texts, some of which are filled up to the width of a column.  Without an
escape character in the texts of the report, each piece of a coloured line decorates the piece that stands
there without colours, so the lines do, and so does the whole text.  Paths are shown from the root of the
view; what is shown are characters of the path, so that nothing has to be known of the root.

Main statement: taking the escape sequences out of the coloured text of a report gives its text without
colours (`strip_render_coloured`).
-/
import ImportCensus.Proofs.Report.Characters
import ImportCensus.Proofs.Terminal

namespace ImportCensus

open Terminal

/-- Does none of the texts hold an escape character? -/
abbrev HasNoEscape (texts : List String) : Prop :=
  ∀ t ∈ texts, escape ∉ t.toList

theorem isControl_escape : IsControl escape := by
  decide

namespace Report.View

variable {v : View} {p : Path} {s : String}

/-! ### Views with and without colours -/

/-- The view with colours. -/
def coloured (v : View) : View :=
  { v with colour := true }

/-- The view without colours. -/
def plain (v : View) : View :=
  { v with colour := false }

/-- Lines that are made of the same data one by one. -/
theorem forall₂_map {α : Type} {f g : α → Line} {l : List α} (h : ∀ a ∈ l, Decorates (f a) (g a)) :
    List.Forall₂ Decorates (l.map f) (l.map g) := by
  rw [List.forall₂_map_left_iff, List.forall₂_map_right_iff, List.forall₂_same]
  exact h

theorem decorates_styledText (h : escape ∉ s.toList) (style : Style) :
    Decorates (v.coloured.paint style s) (v.plain.paint style s) :=
  decorates_paint h style

/-- The blanks that fill up a column stand inside the style. -/
theorem decorates_paintPadded (h : escape ∉ s.toList) (style : Style) (width : Nat) :
    Decorates (v.coloured.paintPadded style width s) (v.plain.paintPadded style width s) := by
  have hpadded := decorates_styled (notMem_padRight isControl_escape width h) style
  simpa [paintPadded, coloured, plain, restyle_of_notMem h] using hpadded

/-! ### Lines -/

section Lines

variable {e : Entry} {m : PackageMetadata}

theorem decorates_metadataLabel (h : HasNoEscape m.texts) :
    Decorates (v.coloured.metadataLabel m) (v.plain.metadataLabel m) := by
  have hversion : escape ∉ m.version.toList := h _ (by simp [PackageMetadata.texts])
  have hlicense : escape ∉ m.license.toList := h _ (by simp [PackageMetadata.texts])
  unfold metadataLabel
  split
  · exact (Decorates.of_notMem (s := [' ', ' ']) (by decide)).append
      (decorates_styledText (by decide) .yellow)
  · -- no part of a record in full is styled
    refine Decorates.of_notMem ?_
    simp only [List.mem_append, not_or]
    refine ⟨⟨⟨⟨⟨⟨⟨by decide, hversion⟩, by decide⟩, hlicense⟩, by decide⟩,
      notMem_formatCount isControl_escape _⟩, by decide⟩, ?_⟩
    split
    · next date hdate =>
      have hpublished : ∀ t ∈ m.lastPublished, escape ∉ t.toList := fun t ht =>
        h t (by simp [PackageMetadata.texts, Option.mem_def.1 ht])
      rw [List.mem_append, not_or]
      exact ⟨by decide, notMem_publishDate hpublished hdate⟩
    · exact List.not_mem_nil

theorem decorates_row (h : HasNoEscape e.texts) (width rank : Nat) :
    Decorates (v.coloured.row width rank e) (v.plain.row width rank e) := by
  have hname : escape ∉ e.name.text.toList := h _ (by simp [Entry.texts])
  have hrank : Decorates ("  ".toList ++ padLeft 3 (digits rank) ++ ". ".toList)
      ("  ".toList ++ padLeft 3 (digits rank) ++ ". ".toList) := by
    refine .of_notMem ?_
    simp only [List.mem_append, not_or]
    exact ⟨⟨by decide, notMem_padLeft isControl_escape 3 (notMem_digits isControl_escape rank)⟩, by decide⟩
  have hcount := Decorates.of_notMem (notMem_filesLabel isControl_escape e.count)
  have hmetadata : Decorates ((e.metadata.map v.coloured.metadataLabel).getD [])
      ((e.metadata.map v.plain.metadataLabel).getD []) := by
    cases hm : e.metadata with
    | none => exact .nil
    | some m =>
      exact decorates_metadataLabel fun t ht => h t (by simp [Entry.texts, hm, ht])
  exact (((hrank.append (decorates_paintPadded hname .cyan width)).append
    (.of_notMem (by decide))).append hcount).append hmetadata

theorem decorates_alternativesLines (h : HasNoEscape e.texts) :
    List.Forall₂ Decorates (v.coloured.alternativesLines e) (v.plain.alternativesLines e) := by
  unfold alternativesLines
  cases hm : e.metadata with
  | none => exact .nil
  | some m =>
    have hall : escape ∉ (", ".intercalate m.alternatives).toList :=
      notMem_intercalate (by decide) fun t ht => h t (by simp [Entry.texts, hm,
        PackageMetadata.texts, ht])
    dsimp only
    split
    · exact .nil
    · exact .cons ((Decorates.of_notMem (by decide)).append (decorates_styledText hall .green)) .nil

theorem decorates_fileLines (h : HasNoEscape e.texts) :
    List.Forall₂ Decorates (v.coloured.fileLines e) (v.plain.fileLines e) := by
  unfold fileLines
  by_cases hverbose : v.verbose = true
  · have hshown : v.coloured.verbose = true ∧ v.plain.verbose = true := ⟨hverbose, hverbose⟩
    rw [if_pos hshown.1, if_pos hshown.2]
    refine forall₂_map fun f hf => ?_
    have hf : escape ∉ f.text.toList := h _ (by simp [Entry.texts]; grind)
    exact (Decorates.of_notMem (by decide)).append
      (decorates_styledText (notMem_path isControl_escape v hf) .dimmed)
  · have hhidden : ¬v.coloured.verbose = true ∧ ¬v.plain.verbose = true := ⟨hverbose, hverbose⟩
    rw [if_neg hhidden.1, if_neg hhidden.2]
    exact .nil

theorem decorates_packageLines (h : HasNoEscape e.texts) (width rank : Nat) :
    List.Forall₂ Decorates (v.coloured.packageLines width rank e)
      (v.plain.packageLines width rank e) := by
  have hrow : List.Forall₂ Decorates (v.coloured.row width rank e :: v.coloured.alternativesLines e)
      (v.plain.row width rank e :: v.plain.alternativesLines e) :=
    .cons (decorates_row h width rank) (decorates_alternativesLines h)
  exact List.rel_append hrow (decorates_fileLines h)

theorem decorates_degradedLine (h : HasNoEscape m.texts) :
    Decorates (v.coloured.degradedLine m) (v.plain.degradedLine m) := by
  have hname : escape ∉ m.name.text.toList := h _ (by simp [PackageMetadata.texts])
  have herror : escape ∉ (m.error.getD "unknown error").toList := by
    cases hm : m.error with
    | none => decide
    | some t => exact h t (by simp [PackageMetadata.texts, hm])
  exact (((((Decorates.of_notMem (by decide)).append (decorates_styledText (by decide) .red)).append
    (.of_notMem (by decide))).append (.of_notMem hname)).append (.of_notMem (by decide))).append
    (.of_notMem herror)

theorem decorates_deepDiveLine (h : escape ∉ p.text.toList) (files : FileMap) :
    Decorates (v.coloured.deepDiveLine files p) (v.plain.deepDiveLine files p) := by
  -- such a line has no style, so that it is the same in both views
  refine Decorates.of_notMem ?_
  unfold deepDiveLine
  simp only [List.mem_append, not_or]
  exact ⟨⟨⟨⟨by decide, notMem_path isControl_escape v h⟩, by decide⟩, notMem_digits isControl_escape _⟩, by decide⟩

theorem decorates_treeLine {t : SourceTree} (h : escape ∉ t.name.toList) (depth : Nat) :
    Decorates (v.coloured.treeLine (depth, t)) (v.plain.treeLine (depth, t)) := by
  refine (Decorates.of_notMem (notMem_blanks isControl_escape (2 * depth))).append ?_
  cases t with
  | directory name path children =>
    exact (decorates_styledText h .blue).append (.of_notMem (by decide))
  | file name path => exact .of_notMem h

end Lines

/-! ### Sections -/

section Sections

variable {r : Report} {packages : List Entry}

theorem decorates_summaryLines (s : Summary) :
    List.Forall₂ Decorates (v.coloured.summaryLines s) (v.plain.summaryLines s) := by
  have hnumber : ∀ {word : Line}, escape ∉ word → ∀ n,
      Decorates (word ++ digits n) (word ++ digits n) :=
    fun hword n => (Decorates.of_notMem hword).append (.of_notMem (notMem_digits isControl_escape n))
  refine List.rel_append ?_ ?_
  · exact .cons (.of_notMem (by decide)) (.cons (hnumber (by decide) _)
      (.cons (hnumber (by decide) _) (.cons (hnumber (by decide) _) .nil)))
  · split
    · exact .nil
    · have hdegraded : escape ∉ (String.ofList (digits s.degradedPackages)).toList := by
        rw [String.toList_ofList]
        exact notMem_digits isControl_escape _
      exact .cons ((Decorates.of_notMem (by decide)).append
        (decorates_styledText hdegraded .yellow)) .nil

/-- A styled title with a number behind it, below an empty line. -/
theorem decorates_title (hs : escape ∉ s.toList) (style : Style) {before after : Line}
    (hbefore : escape ∉ before) (n : Nat) (hafter : escape ∉ after) :
    List.Forall₂ Decorates [[], v.coloured.paint style s ++ before ++ digits n ++ after]
      [[], v.plain.paint style s ++ before ++ digits n ++ after] :=
  .cons .nil (.cons ((((decorates_styledText hs style).append (.of_notMem hbefore)).append
    (.of_notMem (notMem_digits isControl_escape n))).append (.of_notMem hafter)) .nil)

theorem decorates_packagesFrom (h : ∀ e ∈ packages, HasNoEscape e.texts) (width rank : Nat) :
    List.Forall₂ Decorates (v.coloured.packagesFrom width rank packages)
      (v.plain.packagesFrom width rank packages) := by
  induction packages generalizing rank with
  | nil => exact .nil
  | cons e r ih =>
    obtain ⟨he, hr⟩ := List.forall_mem_cons.1 h
    exact List.rel_append (decorates_packageLines he width rank) (ih hr (rank + 1))

theorem decorates_packagesLines (h : ∀ e ∈ packages, HasNoEscape e.texts) :
    List.Forall₂ Decorates (v.coloured.packagesLines packages) (v.plain.packagesLines packages) :=
  List.rel_append (decorates_title (by decide) .bold (by decide) packages.length (by decide))
    (decorates_packagesFrom h (nameWidth packages) 1)

theorem decorates_degradedLines (h : ∀ e ∈ packages, HasNoEscape e.texts) :
    List.Forall₂ Decorates (v.coloured.degradedLines packages) (v.plain.degradedLines packages) := by
  unfold degradedLines
  dsimp only
  split
  · exact .nil
  · refine List.rel_append (decorates_title (by decide) .boldYellow (by decide) _ (by decide)) ?_
    refine forall₂_map fun m hm => decorates_degradedLine ?_
    obtain ⟨e, he, hem⟩ := List.mem_filterMap.1 (List.mem_of_mem_filter hm)
    exact fun t ht => h e he t (by simp [Entry.texts, hem, ht])

theorem decorates_deepDiveLines (h : ∀ p ∈ r.deepDive, escape ∉ p.text.toList) :
    List.Forall₂ Decorates (v.coloured.deepDiveLines r) (v.plain.deepDiveLines r) := by
  unfold deepDiveLines
  split
  · exact .nil
  · exact List.rel_append (decorates_title (by decide) .bold (by decide) deepDiveThreshold (by decide))
      (forall₂_map fun p hp => decorates_deepDiveLine (h p hp) r.files)

theorem decorates_treeLines {tree : Option SourceTree} (h : ∀ t ∈ tree, HasNoEscape t.texts) :
    List.Forall₂ Decorates (v.coloured.treeLines tree) (v.plain.treeLines tree) := by
  unfold treeLines
  by_cases hverbose : v.verbose = true
  · have hshown : v.coloured.verbose = true ∧ v.plain.verbose = true := ⟨hverbose, hverbose⟩
    rw [if_pos hshown.1, if_pos hshown.2]
    cases tree with
    | none => exact .nil
    | some t =>
      have htitle : List.Forall₂ Decorates [[], v.coloured.paint .bold "Project tree:"]
          [[], v.plain.paint .bold "Project tree:"] :=
        .cons .nil (.cons (decorates_styledText (by decide) .bold) .nil)
      refine List.rel_append htitle (forall₂_map fun e he => decorates_treeLine ?_ e.1)
      have hmem : e.2 ∈ t.entries := by
        rw [SourceTree.entries, SourceTree.map_entriesFrom 0 1]
        exact List.mem_map_of_mem he
      exact h t rfl _ (List.mem_flatMap.2 ⟨e.2, hmem, List.mem_cons_self⟩)
  · have hhidden : ¬v.coloured.verbose = true ∧ ¬v.plain.verbose = true := ⟨hverbose, hverbose⟩
    rw [if_neg hhidden.1, if_neg hhidden.2]
    exact .nil

/-- A coloured line decorates the line without colours that stands in its place. -/
theorem decorates_lines (h : HasNoEscape r.texts) :
    List.Forall₂ Decorates (v.coloured.lines r) (v.plain.lines r) := by
  have hpackages : ∀ e ∈ r.packages, HasNoEscape e.texts := fun e he t ht =>
    h t (by simp only [texts, List.mem_append, List.mem_flatMap]; exact .inr ⟨e, he, ht⟩)
  have hdeepDive : ∀ p ∈ r.deepDive, escape ∉ p.text.toList := fun p hp =>
    h _ (by simp only [texts, List.mem_append, List.mem_map]; exact .inl (.inr ⟨p, hp, rfl⟩))
  have htree : ∀ t ∈ r.tree, HasNoEscape t.texts := fun t ht u hu =>
    h u (by
      simp only [texts, List.mem_append, List.mem_flatMap, Option.mem_toList]
      exact .inl (.inl (.inl ⟨t, ht, hu⟩)))
  have htitle : List.Forall₂ Decorates
      [[], v.coloured.paint .bold "Tally Analysis Results", "======================".toList, []]
      [[], v.plain.paint .bold "Tally Analysis Results", "======================".toList, []] :=
    .cons .nil (.cons (decorates_styledText (by decide) .bold)
      (.cons (.of_notMem (by decide)) (.cons .nil .nil)))
  exact List.rel_append (List.rel_append (List.rel_append (List.rel_append (List.rel_append htitle
    (decorates_summaryLines r.summary)) (decorates_packagesLines hpackages))
    (decorates_degradedLines hpackages)) (decorates_deepDiveLines hdeepDive))
    (decorates_treeLines htree)

end Sections

end Report.View

namespace Report

/-- **Colours only decorate**: if no text of a report holds an escape character, then its coloured text
without the escape sequences is its text without colours. -/
theorem strip_render_coloured (v : View) (r : Report) (h : HasNoEscape r.texts) :
    strip (v.coloured.render r).toList = (v.plain.render r).toList := by
  rw [View.render, View.render, String.toList_ofList, String.toList_ofList]
  exact (Decorates.flatMap (View.decorates_lines h)).strip_eq

/-- A report with every section: a package that has alternatives and was published, one without a record,
a file worth a closer look and a hierarchy.  One text looks like a sequence but for the escape character. -/
def colourful : Report where
  tree := some (.directory "p" ⟨"/p"⟩ [.file "a.js" ⟨"/p/a.js"⟩])
  files := .empty
  deepDive := [⟨"/p/a.js"⟩]
  packages :=
    (PackageName.ofText? "moment").toList.map (fun name =>
      ⟨name, 2, [⟨"/p/a.js"⟩, ⟨"/q/b.js"⟩],
        some { PackageMetadata.ofVersion name "[1m" with
          lastPublished := some "2024-04-26T16:42:31Z"
          alternatives := ["date-fns", ""] }⟩) ++
    (PackageName.ofText? "@s/t").toList.map (fun name => ⟨name, 1, [], some (.degraded name "HTTP 404")⟩)
  summary := ⟨2, 2, 2, 1⟩

theorem strip_render_colourful :
    HasNoEscape colourful.texts ∧
      strip ((View.mk (some ⟨"/p"⟩) true true).render colourful).toList
        = ((View.mk (some ⟨"/p"⟩) true false).render colourful).toList ∧
      (View.mk (some ⟨"/p"⟩) true true).render colourful
        ≠ (View.mk (some ⟨"/p"⟩) true false).render colourful := by
  have h : HasNoEscape colourful.texts := by decide
  refine ⟨h, strip_render_coloured (View.mk (some ⟨"/p"⟩) true true) colourful h, ?_⟩
  decide +kernel

end Report

end ImportCensus
