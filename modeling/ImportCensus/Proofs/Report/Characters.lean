/-
ImportCensus/Proofs/Report/Characters.lean

The characters of what is shown.

The fixed words and the numbers of a report hold no control characters.  So a control character on a line
comes from a text of the report, unless it is the one that starts the escape sequences of the styles.  For
line breaks this means that a reader finds the lines of a report in its text.

Main statements: a control character that no shown text of a report holds stands on none of its lines
(`notMem_of_mem_lines`), and without line breaks in these texts the lines are found again (`split_render`).
-/
import ImportCensus.Proofs.Path.Relative
import ImportCensus.Proofs.SourceTree
import ImportCensus.Proofs.Timestamp
import ImportCensus.Report.Human
import Mathlib.Data.List.Basic

namespace ImportCensus

open Terminal

/-! ### The texts of a report -/

/-- The texts in a tree. -/
def SourceTree.texts (t : SourceTree) : List String :=
  t.entries.flatMap fun e => [e.name, e.path.text]

/-- The texts in a record. -/
def PackageMetadata.texts (m : PackageMetadata) : List String :=
  [m.name.text, m.description, m.version, m.license] ++ m.homepage.toList ++ m.repository.toList ++
    m.lastPublished.toList ++ m.dependencies ++ m.alternatives ++ m.error.toList

namespace Report

/-- The texts in an entry. -/
def Entry.texts (e : Entry) : List String :=
  e.name.text :: e.files.map (·.text) ++ e.metadata.toList.flatMap PackageMetadata.texts

/-- The texts in a report. -/
def texts (r : Report) : List String :=
  r.tree.toList.flatMap SourceTree.texts ++
    r.files.entries.flatMap (fun f => f.1.text :: f.2.toList.map (·.text)) ++
    r.deepDive.map (·.text) ++ r.packages.flatMap Entry.texts

namespace View

/-- The texts that are shown of an entry. -/
def entryTexts (v : View) (e : Entry) : List String :=
  e.name.text :: e.metadata.toList.flatMap PackageMetadata.texts ++
    if v.verbose then e.files.map v.path else []

/-- The texts that are shown of a report. -/
def shownTexts (v : View) (r : Report) : List String :=
  r.packages.flatMap v.entryTexts ++ r.deepDive.map v.path ++
    if v.verbose then r.tree.toList.flatMap fun t => t.entries.map (·.name) else []

end View

end Report

/-! ### Control characters -/

/-- Does a character stand for no sign? -/
def IsControl (c : Char) : Prop :=
  c < ' '

instance : DecidablePred IsControl :=
  fun c => inferInstanceAs (Decidable (c < ' '))

variable {c : Char} {cs : List Char}

/-- Does a text hold no control character? -/
def HasNoControl (cs : List Char) : Prop :=
  ∀ d ∈ cs, ¬IsControl d

-- decided along the text; a general instance may go through all characters there are
instance : DecidablePred HasNoControl :=
  fun cs => List.decidableBAll (fun d => ¬IsControl d) cs

theorem IsControl.notMem (hc : IsControl c) (h : HasNoControl cs) : c ∉ cs :=
  fun hmem => h c hmem hc

/-- The only control character of a text. -/
theorem IsControl.eq_of_filter {d : Char} (hc : IsControl c) (h : cs.filter IsControl = [d])
    (hmem : c ∈ cs) : c = d := by
  have hfound : c ∈ cs.filter IsControl := List.mem_filter.2 ⟨hmem, decide_eq_true hc⟩
  rw [h] at hfound
  exact List.mem_singleton.1 hfound

theorem IsControl.ne_blank (hc : IsControl c) : c ≠ ' ' := by
  rintro rfl
  exact absurd hc (by decide)

theorem not_isControl_of_isDigit (h : c.isDigit = true) : ¬IsControl c := by
  have hdigit : '0' ≤ c := by
    simp only [Char.isDigit, Bool.and_eq_true, decide_eq_true_eq] at h
    exact h.1
  exact Char.not_lt.2 (Char.le_trans (by decide) hdigit)

namespace Terminal

theorem mem_restyle {on s : List Char} (h : c ∈ restyle on s) : c ∈ reset ∨ c ∈ on ∨ c ∈ s := by
  fun_induction restyle on s with
  | case1 r ih =>
    simp only [List.mem_append] at h
    grind
  | case2 d r hd ih => grind
  | case3 => cases h

/-- Sequences hold no control characters but the one that they start with. -/
theorem notMem_sequence (hc : IsControl c) (hescape : c ≠ escape) (style : Style) :
    c ∉ sequence style.parameters := by
  have hcontrols : (sequence style.parameters).filter IsControl = [escape] := by
    cases style <;> decide
  exact fun h => hescape (hc.eq_of_filter hcontrols h)

theorem notMem_reset (hc : IsControl c) (hescape : c ≠ escape) : c ∉ reset := by
  have hcontrols : reset.filter IsControl = [escape] := by decide
  exact fun h => hescape (hc.eq_of_filter hcontrols h)

end Terminal

theorem mem_of_mem_groupDigits {c : Char} {ds : List Char} (h : c ∈ groupDigits ds) :
    c = ',' ∨ c ∈ ds := by
  induction ds with
  | nil => cases h
  | cons d r ih =>
    unfold groupDigits at h
    split at h <;> grind

/-! ### Pieces of lines -/

namespace Report.View

variable {v : View} {p : Path} {s : String}

theorem notMem_digits (hc : IsControl c) (n : Nat) : c ∉ digits n :=
  hc.notMem fun _ hd => not_isControl_of_isDigit (Nat.isDigit_of_mem_toDigits (by decide) (by decide) hd)

theorem notMem_formatCount (hc : IsControl c) (n : Nat) : c ∉ (formatCount n).toList := by
  intro h
  rw [formatCount, String.toList_ofList] at h
  rcases mem_of_mem_groupDigits h with rfl | h
  · exact absurd hc (by decide)
  · exact notMem_digits hc n h

theorem notMem_filesLabel (hc : IsControl c) (count : Nat) : c ∉ filesLabel count := by
  unfold filesLabel
  split
  · exact hc.notMem (by decide)
  · rw [List.mem_append, not_or]
    exact ⟨notMem_digits hc count, hc.notMem (by decide)⟩

theorem notMem_blanks (hc : IsControl c) (n : Nat) : c ∉ List.replicate n ' ' := by
  intro h
  rw [List.eq_of_mem_replicate h] at hc
  exact absurd hc (by decide)

theorem notMem_padLeft (hc : IsControl c) (width : Nat) (h : c ∉ cs) : c ∉ padLeft width cs := by
  rw [padLeft, List.mem_append, not_or]
  exact ⟨notMem_blanks hc _, h⟩

theorem notMem_padRight (hc : IsControl c) (width : Nat) (h : c ∉ cs) : c ∉ padRight width cs := by
  rw [padRight, List.mem_append, not_or]
  exact ⟨h, notMem_blanks hc _⟩

theorem notMem_intercalate {texts : List String} (hs : c ∉ s.toList)
    (h : ∀ t ∈ texts, c ∉ t.toList) : c ∉ (s.intercalate texts).toList := by
  rw [String.toList_intercalate]
  induction texts with
  | nil => exact List.not_mem_nil
  | cons t r ih =>
    obtain ⟨ht, hr⟩ := List.forall_mem_cons.1 h
    cases r with
    | nil => simpa using ht
    | cons next r =>
      rw [List.map_cons, List.map_cons, List.intercalate_cons_cons, ← List.map_cons]
      simp only [List.mem_append, not_or]
      exact ⟨⟨ht, hs⟩, ih hr⟩

theorem notMem_path (hc : IsControl c) (v : View) (h : c ∉ p.text.toList) : c ∉ (v.path p).toList := by
  rw [path_eq]
  cases hq : v.root.bind p.relativeTo? with
  | none => exact h
  | some q =>
    intro hmem
    obtain ⟨base, -, hrelative⟩ := Option.bind_eq_some_iff.1 hq
    rcases Path.mem_of_mem_relativeTo? hrelative hmem with rfl | hp
    · exact absurd hc (by decide)
    · exact h hp

/-- A control character of a shown text is one of a text of the report. -/
theorem notMem_shownTexts {r : Report} (hc : IsControl c) (v : View) (h : ∀ t ∈ r.texts, c ∉ t.toList) :
    ∀ t ∈ v.shownTexts r, c ∉ t.toList := by
  simp only [texts, List.forall_mem_append, List.forall_mem_map, List.forall_mem_flatMap,
    Option.mem_toList] at h
  obtain ⟨⟨⟨htree, -⟩, hdeepDive⟩, hpackages⟩ := h
  simp only [shownTexts, List.forall_mem_append, List.forall_mem_map, List.forall_mem_flatMap]
  refine ⟨⟨fun e he => ?_, fun p hp => notMem_path hc v (hdeepDive p hp)⟩, ?_⟩
  · have hentry := hpackages e he
    simp only [Entry.texts, List.forall_mem_append, List.forall_mem_cons, List.forall_mem_map] at hentry
    obtain ⟨⟨hname, hfiles⟩, hrecord⟩ := hentry
    simp only [entryTexts, List.forall_mem_append, List.forall_mem_cons]
    refine ⟨⟨hname, hrecord⟩, ?_⟩
    split
    · exact List.forall_mem_map.2 fun p hp => notMem_path hc v (hfiles p hp)
    · exact List.forall_mem_nil _
  · split
    · simp only [List.forall_mem_flatMap, List.forall_mem_map, Option.mem_toList]
      intro t ht u hu
      exact htree t ht u.name (List.mem_flatMap.2 ⟨u, hu, List.mem_cons_self⟩)
    · exact List.forall_mem_nil _

/-- A published day holds characters of its timestamp only. -/
theorem notMem_publishDate {timestamp : Option String} (h : ∀ t ∈ timestamp, c ∉ t.toList)
    {date : String} (hdate : timestamp.bind Timestamp.publishDate = some date) : c ∉ date.toList := by
  obtain ⟨t, ht, hday⟩ := Option.bind_eq_some_iff.1 hdate
  exact fun hmem => h t ht (Timestamp.mem_of_mem_publishDate hday hmem)

section Styles

variable (hc : IsControl c) (hescape : c ≠ escape)
include hc hescape

theorem notMem_restyle (style : Style) (h : c ∉ cs) : c ∉ restyle (sequence style.parameters) cs := by
  intro hmem
  rcases mem_restyle hmem with hmem | hmem | hmem
  · exact notMem_reset hc hescape hmem
  · exact notMem_sequence hc hescape style hmem
  · exact h hmem

theorem notMem_paint (style : Style) (h : c ∉ s.toList) : c ∉ v.paint style s := by
  rw [paint, Terminal.paint]
  split
  · simp only [List.mem_append, not_or]
    exact ⟨⟨notMem_sequence hc hescape style, notMem_restyle hc hescape style h⟩,
      notMem_reset hc hescape⟩
  · exact h

theorem notMem_paintPadded (style : Style) (width : Nat) (h : c ∉ s.toList) :
    c ∉ v.paintPadded style width s := by
  rw [paintPadded]
  split
  · simp only [List.mem_append, not_or]
    exact ⟨⟨notMem_sequence hc hescape style,
      notMem_padRight hc width (notMem_restyle hc hescape style h)⟩, notMem_reset hc hescape⟩
  · exact notMem_padRight hc width h

/-! ### Lines -/

section Lines

variable {e : Entry} {m : PackageMetadata} {line : Line}

theorem notMem_metadataLabel (h : ∀ t ∈ m.texts, c ∉ t.toList) : c ∉ v.metadataLabel m := by
  have hversion : c ∉ m.version.toList := h _ (by simp [PackageMetadata.texts])
  have hlicense : c ∉ m.license.toList := h _ (by simp [PackageMetadata.texts])
  have hpublished : ∀ t ∈ m.lastPublished, c ∉ t.toList := fun t ht =>
    h t (by simp [PackageMetadata.texts, Option.mem_def.1 ht])
  rw [metadataLabel]
  split
  · simp only [List.mem_cons, not_or]
    exact ⟨hc.ne_blank, hc.ne_blank, notMem_paint hc hescape .yellow (hc.notMem (by decide))⟩
  · simp only [List.mem_append, not_or]
    refine ⟨⟨⟨⟨⟨⟨⟨hc.notMem (by decide), hversion⟩, hc.notMem (by decide)⟩, hlicense⟩, hc.notMem (by decide)⟩,
      notMem_formatCount hc _⟩, hc.notMem (by decide)⟩, ?_⟩
    split
    · next date hdate =>
      rw [List.mem_append, not_or]
      exact ⟨hc.notMem (by decide), notMem_publishDate hpublished hdate⟩
    · exact List.not_mem_nil

theorem notMem_row (h : ∀ t ∈ v.entryTexts e, c ∉ t.toList) (width rank : Nat) :
    c ∉ v.row width rank e := by
  have hname : c ∉ e.name.text.toList := h _ (by simp [entryTexts])
  have hmetadata : c ∉ (e.metadata.map v.metadataLabel).getD [] := by
    cases hm : e.metadata with
    | none => exact List.not_mem_nil
    | some m =>
      exact notMem_metadataLabel hc hescape fun t ht => h t (by simp [entryTexts, hm, ht])
  simp only [row, List.mem_append, not_or]
  exact ⟨⟨⟨⟨⟨⟨hc.notMem (by decide), notMem_padLeft hc 3 (notMem_digits hc rank)⟩, hc.notMem (by decide)⟩,
    notMem_paintPadded hc hescape .cyan width hname⟩, hc.notMem (by decide)⟩,
    notMem_filesLabel hc e.count⟩, hmetadata⟩

theorem notMem_alternativesLines (h : ∀ t ∈ v.entryTexts e, c ∉ t.toList)
    (hline : line ∈ v.alternativesLines e) : c ∉ line := by
  rw [alternativesLines] at hline
  split at hline
  · next m hm =>
    split at hline
    · cases hline
    · rw [List.mem_singleton.1 hline, List.mem_append, not_or]
      refine ⟨hc.notMem (by decide), notMem_paint hc hescape .green ?_⟩
      exact notMem_intercalate (hc.notMem (by decide)) fun t ht =>
        h t (by simp [entryTexts, hm, PackageMetadata.texts, ht])
  · cases hline

theorem notMem_fileLines (h : ∀ t ∈ v.entryTexts e, c ∉ t.toList) (hline : line ∈ v.fileLines e) :
    c ∉ line := by
  rw [fileLines] at hline
  split at hline
  · next hverbose =>
    obtain ⟨p, hp, rfl⟩ := List.mem_map.1 hline
    have hpath : v.path p ∈ v.entryTexts e := by
      rw [entryTexts, if_pos hverbose]
      exact List.mem_append_right _ (List.mem_map_of_mem hp)
    rw [List.mem_append, not_or]
    exact ⟨hc.notMem (by decide), notMem_paint hc hescape .dimmed (h _ hpath)⟩
  · cases hline

theorem notMem_packagesFrom {packages : List Entry}
    (h : ∀ e ∈ packages, ∀ t ∈ v.entryTexts e, c ∉ t.toList) {width rank : Nat} (hline : line ∈ v.packagesFrom width rank packages) : c ∉ line := by
  induction packages generalizing rank with
  | nil => cases hline
  | cons e r ih =>
    obtain ⟨he, hr⟩ := List.forall_mem_cons.1 h
    rw [packagesFrom, packageLines, List.mem_append, List.mem_append, List.mem_cons] at hline
    rcases hline with ((rfl | hline) | hline) | hline
    · exact notMem_row hc hescape he width rank
    · exact notMem_alternativesLines hc hescape he hline
    · exact notMem_fileLines hc hescape he hline
    · exact ih hr hline

theorem notMem_degradedLine (h : ∀ t ∈ m.texts, c ∉ t.toList) : c ∉ v.degradedLine m := by
  have hname : c ∉ m.name.text.toList := h _ (by simp [PackageMetadata.texts])
  have herror : c ∉ (m.error.getD "unknown error").toList := by
    cases hm : m.error with
    | none => exact hc.notMem (by decide)
    | some t => exact h t (by simp [PackageMetadata.texts, hm])
  simp only [degradedLine, List.mem_append, not_or]
  exact ⟨⟨⟨⟨⟨hc.notMem (by decide), notMem_paint hc hescape .red (hc.notMem (by decide))⟩,
    hc.notMem (by decide)⟩, hname⟩, hc.notMem (by decide)⟩, herror⟩

omit hescape in
theorem notMem_deepDiveLine (h : c ∉ (v.path p).toList) (files : FileMap) : c ∉ v.deepDiveLine files p := by
  simp only [deepDiveLine, List.mem_append, not_or]
  exact ⟨⟨⟨⟨hc.notMem (by decide), h⟩, hc.notMem (by decide)⟩, notMem_digits hc _⟩,
    hc.notMem (by decide)⟩

theorem notMem_treeLine {t : SourceTree} (h : c ∉ t.name.toList) (depth : Nat) :
    c ∉ v.treeLine (depth, t) := by
  rw [treeLine, List.mem_append, not_or]
  refine ⟨notMem_blanks hc (2 * depth), ?_⟩
  cases t with
  | directory name path children =>
    rw [List.mem_append, not_or]
    exact ⟨notMem_paint hc hescape .blue h, hc.notMem (by decide)⟩
  | file name path => exact h

end Lines

/-! ### Whole reports -/

section Sections

variable {r : Report} {packages : List Entry} {line : Line}

/-- A title with a number, below an empty line. -/
theorem notMem_title (hs : c ∉ s.toList) (style : Style) {before after : Line} (hbefore : c ∉ before)
    (n : Nat) (hafter : c ∉ after)
    (hline : line ∈ [[], v.paint style s ++ before ++ digits n ++ after]) : c ∉ line := by
  rw [List.mem_pair] at hline
  rcases hline with rfl | rfl
  · exact List.not_mem_nil
  · simp only [List.mem_append, not_or]
    exact ⟨⟨⟨notMem_paint hc hescape style hs, hbefore⟩, notMem_digits hc n⟩, hafter⟩

theorem notMem_summaryLines (numbers : Summary) (hline : line ∈ v.summaryLines numbers) : c ∉ line := by
  have hnumber : ∀ {word : Line} (n : Nat), HasNoControl word → c ∉ word ++ digits n := by
    intro word n hword
    rw [List.mem_append, not_or]
    exact ⟨hc.notMem hword, notMem_digits hc n⟩
  rw [summaryLines, List.mem_append] at hline
  rcases hline with hline | hline
  · simp only [List.mem_cons, List.not_mem_nil, or_false] at hline
    rcases hline with rfl | rfl | rfl | rfl
    · exact hc.notMem (by decide)
    · exact hnumber _ (by decide)
    · exact hnumber _ (by decide)
    · exact hnumber _ (by decide)
  · split at hline
    · cases hline
    · rw [List.mem_singleton.1 hline, List.mem_append, not_or]
      refine ⟨hc.notMem (by decide), notMem_paint hc hescape .yellow ?_⟩
      rw [String.toList_ofList]
      exact notMem_digits hc _

theorem notMem_packagesLines (h : ∀ e ∈ packages, ∀ t ∈ v.entryTexts e, c ∉ t.toList)
    (hline : line ∈ v.packagesLines packages) : c ∉ line := by
  rcases List.mem_append.1 hline with hline | hline
  · exact notMem_title hc hescape (hc.notMem (by decide)) .bold (hc.notMem (by decide)) _
      (hc.notMem (by decide)) hline
  · exact notMem_packagesFrom hc hescape h hline

theorem notMem_degradedLines (h : ∀ e ∈ packages, ∀ t ∈ v.entryTexts e, c ∉ t.toList)
    (hline : line ∈ v.degradedLines packages) : c ∉ line := by
  rw [degradedLines] at hline
  split at hline
  · cases hline
  · rcases List.mem_append.1 hline with hline | hline
    · exact notMem_title hc hescape (hc.notMem (by decide)) .boldYellow (hc.notMem (by decide)) _
        (hc.notMem (by decide)) hline
    · obtain ⟨m, hm, rfl⟩ := List.mem_map.1 hline
      obtain ⟨e, he, hem⟩ := List.mem_filterMap.1 (List.mem_of_mem_filter hm)
      exact notMem_degradedLine hc hescape fun t ht => h e he t (by simp [entryTexts, hem, ht])

theorem notMem_deepDiveLines (h : ∀ p ∈ r.deepDive, c ∉ (v.path p).toList) (hline : line ∈ v.deepDiveLines r) :
    c ∉ line := by
  rw [deepDiveLines] at hline
  split at hline
  · cases hline
  · rcases List.mem_append.1 hline with hline | hline
    · exact notMem_title hc hescape (hc.notMem (by decide)) .bold (hc.notMem (by decide)) _
        (hc.notMem (by decide)) hline
    · obtain ⟨p, hp, rfl⟩ := List.mem_map.1 hline
      exact notMem_deepDiveLine hc (h p hp) r.files

theorem notMem_treeLines {tree : Option SourceTree}
    (h : v.verbose = true → ∀ t ∈ tree, ∀ u ∈ t.entries, c ∉ u.name.toList)
    (hline : line ∈ v.treeLines tree) : c ∉ line := by
  unfold treeLines at hline
  split at hline
  · next hverbose =>
    cases tree with
    | none => cases hline
    | some t =>
      rcases List.mem_append.1 hline with hline | hline
      · rw [List.mem_pair] at hline
        rcases hline with rfl | rfl
        · exact List.not_mem_nil
        · exact notMem_paint hc hescape .bold (hc.notMem (by decide))
      · obtain ⟨e, he, rfl⟩ := List.mem_map.1 hline
        have hmem : e.2 ∈ t.entries := by
          rw [SourceTree.entries, SourceTree.map_entriesFrom 0 1]
          exact List.mem_map_of_mem he
        exact notMem_treeLine hc hescape (h hverbose t rfl e.2 hmem) e.1
  · cases hline

/-- **A control character on a line of a report stands in a text that is shown**, unless it is the one that
starts escape sequences. -/
theorem notMem_of_mem_lines (h : ∀ t ∈ v.shownTexts r, c ∉ t.toList) (hline : line ∈ v.lines r) :
    c ∉ line := by
  have hpackages : ∀ e ∈ r.packages, ∀ t ∈ v.entryTexts e, c ∉ t.toList := fun e he t ht =>
    h t (by simp only [shownTexts, List.mem_append, List.mem_flatMap]; exact .inl (.inl ⟨e, he, ht⟩))
  have hdeepDive : ∀ p ∈ r.deepDive, c ∉ (v.path p).toList := fun p hp =>
    h _ (by simp only [shownTexts, List.mem_append, List.mem_map]; exact .inl (.inr ⟨p, hp, rfl⟩))
  have htree : v.verbose = true → ∀ t ∈ r.tree, ∀ u ∈ t.entries, c ∉ u.name.toList := by
    intro hverbose t ht u hu
    apply h
    rw [shownTexts, if_pos hverbose]
    refine List.mem_append_right _ (List.mem_flatMap.2 ⟨t, Option.mem_toList.2 ht, ?_⟩)
    exact List.mem_map_of_mem hu
  simp only [lines, List.mem_append] at hline
  rcases hline with ((((hline | hline) | hline) | hline) | hline) | hline
  · simp only [List.mem_cons, List.not_mem_nil, or_false] at hline
    rcases hline with rfl | rfl | rfl | rfl
    · exact List.not_mem_nil
    · exact notMem_paint hc hescape .bold (hc.notMem (by decide))
    · exact hc.notMem (by decide)
    · exact List.not_mem_nil
  · exact notMem_summaryLines hc hescape r.summary hline
  · exact notMem_packagesLines hc hescape hpackages hline
  · exact notMem_degradedLines hc hescape hpackages hline
  · exact notMem_deepDiveLines hc hescape hdeepDive hline
  · exact notMem_treeLines hc hescape htree hline

end Sections

end Styles

/-! ### Lines and texts -/

/-- Lines that are ended one by one are found again, with nothing behind the last one. -/
theorem split_ended {lines : List Line} (h : ∀ line ∈ lines, '\n' ∉ line) :
    Text.split '\n' (lines.flatMap (· ++ ['\n'])) = lines ++ [[]] := by
  induction lines with
  | nil => rfl
  | cons line lines ih =>
    obtain ⟨hline, hlines⟩ := List.forall_mem_cons.1 h
    rw [List.flatMap_cons, List.append_assoc, List.singleton_append, Text.split_append_sep,
      Text.split_of_notMem hline, ih hlines]
    rfl

/-- **The lines of a report are those of its text**, if no text that is shown goes over a line break. -/
theorem split_render (v : View) (r : Report) (h : ∀ t ∈ v.shownTexts r, '\n' ∉ t.toList) :
    Text.split '\n' (v.render r).toList = v.lines r ++ [[]] := by
  rw [render, String.toList_ofList]
  exact split_ended fun line hline => notMem_of_mem_lines (by decide) (by decide) h hline

/-- It is enough that no text of the report does. -/
theorem split_render_of_texts (v : View) {r : Report} (h : ∀ t ∈ r.texts, '\n' ∉ t.toList) :
    Text.split '\n' (v.render r).toList = v.lines r ++ [[]] :=
  split_render v r (notMem_shownTexts (by decide) v h)

end Report.View

end ImportCensus
