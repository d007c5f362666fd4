/-
ImportCensus/Proofs/Report/Numbers.lean

The numbers of a printed report.

They are made in different places: the summary has those of the survey and of the joined report, the titles
of the sections have the lengths of lists, the rows count themselves, and the number of packages of a file is
looked up under its path.  That they agree rests on the way in which a scan and a report are made, so it is
said of the lines that are printed and of what a reader takes from them.

Main statements: in the report on any scan the printed numbers agree (`agree_of_scan`); read from the text
they may not, if a path goes over a line break (`not_agree_brokenNameProject`).
-/
import ImportCensus.Proofs.Package.Name
import ImportCensus.Proofs.Report
import ImportCensus.Proofs.Report.Characters
import ImportCensus.Proofs.Report.Reading
import ImportCensus.Proofs.Source.Literal
import ImportCensus.Proofs.Survey.Sets

namespace ImportCensus

open Survey

namespace Report.View

open Reading

variable {v : View} {r : Report} {e : Entry} {line : Line}

/-! ### Sections -/

theorem paint_of_plain (h : v.colour = false) (style : Terminal.Style) (s : String) :
    v.paint style s = s.toList := by
  rw [paint, h]
  rfl

/-- The sections of a report with their titles. -/
def parts (v : View) (r : Report) : List (String × List Line) :=
  [("Tally Analysis Results",
      [[], v.paint .bold "Tally Analysis Results", "======================".toList]),
   ("Summary:", [] :: v.summaryLines r.summary),
   ("📦 Packages (", v.packagesLines r.packages),
   ("Metadata unavailable (", v.degradedLines r.packages),
   ("🔍 Deep dive suggested (", v.deepDiveLines r),
   ("Project tree:", v.treeLines r.tree)]

theorem flatMap_parts (v : View) (r : Report) : (v.parts r).flatMap (·.2) = v.lines r := by
  simp [parts, lines]

/-- A line with alternatives is indented further than a row. -/
theorem exists_of_mem_alternativesLines (h : line ∈ v.alternativesLines e) :
    ∃ rest, line = List.replicate 7 ' ' ++ rest := by
  rw [alternativesLines] at h
  split at h
  · split at h
    · cases h
    · have hword : "       💡 Alternatives: ".toList
          = List.replicate 7 ' ' ++ "💡 Alternatives: ".toList := by decide
      rw [List.mem_singleton.1 h, hword, List.append_assoc]
      exact ⟨_, rfl⟩
  · cases h

/-- A line with a file is indented further than a row. -/
theorem exists_of_mem_fileLines (h : line ∈ v.fileLines e) :
    ∃ rest, line = List.replicate 9 ' ' ++ rest := by
  rw [fileLines] at h
  split at h
  · obtain ⟨p, -, rfl⟩ := List.mem_map.1 h
    exact ⟨_, rfl⟩
  · cases h

theorem packagesFrom_ne_nil (packages : List Entry) (width rank : ℕ) :
    ∀ line ∈ v.packagesFrom width rank packages, line ≠ [] := by
  induction packages generalizing rank with
  | nil => exact nofun
  | cons e packages ih =>
    intro line hline
    rw [packagesFrom, packageLines, List.mem_append, List.mem_append, List.mem_cons] at hline
    rcases hline with ((rfl | hline) | hline) | hline
    · simp [row]
    · obtain ⟨rest, rfl⟩ := exists_of_mem_alternativesLines hline
      exact List.append_ne_nil_of_left_ne_nil (by decide) rest
    · obtain ⟨rest, rfl⟩ := exists_of_mem_fileLines hline
      exact List.append_ne_nil_of_left_ne_nil (by decide) rest
    · exact ih (rank + 1) line hline

theorem summaryLines_ne_nil (numbers : Summary) : ∀ line ∈ v.summaryLines numbers, line ≠ [] := by
  intro line hline
  rw [summaryLines, List.mem_append] at hline
  rcases hline with hline | hline
  · simp only [List.mem_cons, List.not_mem_nil, or_false] at hline
    rcases hline with rfl | rfl | rfl | rfl
    · decide
    all_goals exact List.append_ne_nil_of_left_ne_nil (by decide) _
  · split at hline
    · cases hline
    · rw [List.mem_singleton.1 hline]
      exact List.append_ne_nil_of_left_ne_nil (by decide) _

/-- The title of the files that deserve a closer look, cut behind the words by which it is known. -/
theorem deepDive_title (rest : Line) : "🔍 Deep dive suggested".toList ++ " (more than ".toList ++ rest
    = "🔍 Deep dive suggested (".toList ++ ("more than ".toList ++ rest) := by
  have hwords : "🔍 Deep dive suggested".toList ++ " (more than ".toList
      = "🔍 Deep dive suggested (".toList ++ "more than ".toList := by decide
  rw [hwords, List.append_assoc]

theorem isSection_treeLines (hcolour : v.colour = false) (tree : Option SourceTree) :
    IsSection "Project tree:" (v.treeLines tree) := by
  unfold treeLines
  split
  · cases tree with
    | none => exact .absent
    | some t =>
      dsimp only
      rw [paint_of_plain hcolour]
      refine .of_title (by decide) fun line hline => ?_
      obtain ⟨e, he, rfl⟩ := List.mem_map.1 hline
      -- a name may be empty, but the blanks before it are not
      have hdepth := SourceTree.le_depth_of_mem_entriesFrom 1 t e he
      simp only [treeLine, ne_eq, List.append_eq_nil_iff, List.replicate_eq_nil_iff]
      omega
  · exact .absent

theorem isSection_parts (hcolour : v.colour = false) (r : Report) :
    ∀ part ∈ v.parts r, IsSection part.1 part.2 := by
  simp only [parts, List.forall_mem_cons]
  -- one section after the other, in the order of the report
  refine ⟨?_, ?_, ?_, ?_, ?_, isSection_treeLines hcolour r.tree, List.forall_mem_nil _⟩
  · rw [paint_of_plain hcolour]
    exact .of_title (by decide) (by simp)
  · refine .of_title (by decide) fun line hline => ?_
    exact summaryLines_ne_nil r.summary line (List.mem_cons_of_mem _ hline)
  · rw [packagesLines, paint_of_plain hcolour]
    exact .present (by decide) (packagesFrom_ne_nil r.packages _ 1)
  · unfold degradedLines
    dsimp only
    split
    · exact .absent
    · rw [paint_of_plain hcolour]
      refine .present (by decide) fun line hline => ?_
      obtain ⟨m, -, rfl⟩ := List.mem_map.1 hline
      simp [degradedLine]
  · unfold deepDiveLines
    split
    · exact .absent
    · rw [paint_of_plain hcolour, List.append_assoc _ _ " packages):".toList, deepDive_title]
      refine .present (by decide) fun line hline => ?_
      obtain ⟨p, -, rfl⟩ := List.mem_map.1 hline
      simp [deepDiveLine]

/-- Each section of a report is found by its title. -/
theorem paragraph?_lines (hcolour : v.colour = false) {title : String} {lines : List Line}
    (h : (title, lines) ∈ v.parts r) : paragraph? title (v.lines r) = lines.tail? := by
  rw [← flatMap_parts]
  exact paragraph?_of_parts (isSection_parts hcolour r) (by simp only [parts, List.map_cons]; decide) h

/-! ### Numbers in the sections -/

/-- The rank of a row is read as it was written, however many digits it has. -/
theorem rank?_row (width rank : ℕ) (e : Entry) : rank? (v.row width rank e) = some rank := by
  -- three columns are for the rank, so that there are at most four blanks before its first digit
  have hdigits : 0 < (digits rank).length := List.length_pos_of_ne_nil Nat.toDigits_ne_nil
  have hblanks : 2 + (3 - (digits rank).length) ≤ 4 := by omega
  have hrow : v.row width rank e = List.replicate (2 + (3 - (digits rank).length)) ' ' ++
      (digits rank ++ (". ".toList ++ (v.paintPadded .cyan width e.name.text ++ ("  ".toList ++
        (filesLabel e.count ++ (e.metadata.map v.metadataLabel).getD []))))) := by
    rw [List.replicate_add]
    simp only [row, padLeft, List.append_assoc]
    rfl
  rw [hrow, rank?_digits hblanks]

/-- What stands below a row has no rank. -/
theorem filterMap_rank?_below (e : Entry) :
    (v.alternativesLines e ++ v.fileLines e).filterMap rank? = [] := by
  rw [List.filterMap_eq_nil_iff]
  intro line hline
  rcases List.mem_append.1 hline with hline | hline
  · obtain ⟨rest, rfl⟩ := exists_of_mem_alternativesLines hline
    exact rank?_of_indented (by decide) rest
  · obtain ⟨rest, rfl⟩ := exists_of_mem_fileLines hline
    exact rank?_of_indented (by decide) rest

/-- The rows of packages are ranked one after the other, and nothing else has a rank. -/
theorem filterMap_rank?_packagesFrom (packages : List Entry) (width rank : ℕ) :
    (v.packagesFrom width rank packages).filterMap rank? = List.range' rank packages.length := by
  induction packages generalizing rank with
  | nil => rfl
  | cons e packages ih =>
    rw [packagesFrom, packageLines, List.cons_append, List.cons_append,
      List.filterMap_cons_some (rank?_row width rank e), List.filterMap_append, filterMap_rank?_below,
      List.nil_append, ih, List.length_cons, List.range'_succ]

/-- The lines of the summary, by their labels. -/
def summaryRows (numbers : Summary) : List (String × Line) :=
  [("Summary:", []), ("  Files scanned: ", digits numbers.filesScanned),
   ("  Files with packages: ", digits numbers.filesAnalyzed),
   ("  Packages found: ", digits numbers.packagesFound)] ++
  if numbers.degradedPackages = 0 then []
  else [("  Metadata unavailable: ", digits numbers.degradedPackages)]

theorem labels_summaryRows (numbers : Summary) : (summaryRows numbers).map (·.1)
    = ["Summary:", "  Files scanned: ", "  Files with packages: ", "  Packages found: "] ++
      if numbers.degradedPackages = 0 then [] else ["  Metadata unavailable: "] := by
  rw [summaryRows, List.map_append]
  split <;> rfl

section Summary

variable (hcolour : v.colour = false)
include hcolour

theorem map_summaryRows (numbers : Summary) :
    ((summaryRows numbers).map fun row => row.1.toList ++ row.2) = v.summaryLines numbers := by
  rw [summaryRows, summaryLines, List.map_append]
  congr 1
  split
  · rfl
  · have hnumber : (String.ofList (digits numbers.degradedPackages)).toList
        = digits numbers.degradedPackages := String.toList_ofList
    rw [paint_of_plain hcolour, hnumber]
    rfl

theorem summaryLine?_lines (label : String) (r : Report) : summaryLine? label (v.lines r)
    = ((summaryRows r.summary).map fun row => row.1.toList ++ row.2).find?
        (("  " ++ label ++ ": ").toList.isPrefixOf ·) := by
  have hpart : ("Summary:", [] :: v.summaryLines r.summary) ∈ v.parts r := by simp [parts]
  have hsection : paragraph? "Summary:" (v.lines r) = some (v.summaryLines r.summary) :=
    paragraph?_lines hcolour hpart
  rw [summaryLine?_eq hsection, map_summaryRows hcolour]

/-- A number of the summary is read as it was written. -/
theorem summaryNumber?_lines {label : String} {n : ℕ}
    (h : ("  " ++ label ++ ": ", digits n) ∈ summaryRows r.summary) :
    summaryNumber? label (v.lines r) = some n := by
  have hlabels : ((summaryRows r.summary).map (·.1)).Pairwise Apart := by
    rw [labels_summaryRows]
    split <;> decide
  rw [summaryNumber?, summaryLine?_lines hcolour, find?_label hlabels h, Option.bind_some]
  have hnumber := numberBetween?_digits ("  " ++ label ++ ": ") "" n
  rwa [String.toList_empty, List.append_nil] at hnumber

theorem summaryLine?_unavailable_eq_none (h : r.summary.degradedPackages = 0) :
    summaryLine? "Metadata unavailable" (v.lines r) = none := by
  rw [summaryLine?_lines hcolour]
  apply find?_label_eq_none
  rw [labels_summaryRows, if_pos h]
  decide

end Summary

/-- As many records have failed as listed packages have a record that failed. -/
theorem length_failed (packages : List Entry) :
    ((packages.filterMap (·.metadata)).filter (·.isDegraded)).length
      = (packages.filter (·.isDegraded)).length := by
  induction packages with
  | nil => rfl
  | cons e packages ih =>
    cases hm : e.metadata with
    | none =>
      rw [List.filterMap_cons_none hm, List.filter_cons_of_neg (by simp [Entry.isDegraded, hm]), ih]
    | some m =>
      rw [List.filterMap_cons_some hm]
      cases hfailed : m.isDegraded with
      | true =>
        rw [List.filter_cons_of_pos hfailed, List.filter_cons_of_pos (by simpa [Entry.isDegraded, hm]),
          List.length_cons, List.length_cons, ih]
      | false =>
        rw [List.filter_cons_of_neg (by simp [hfailed]),
          List.filter_cons_of_neg (by simp [Entry.isDegraded, hm, hfailed]), ih]

/-! ### Agreement -/

/-- Do the numbers on the lines of a report agree with each other and with the survey that was reported? -/
structure Agree (survey : Survey) (shown : Path → String) (lines : List Line) : Prop where
  /-- The summary and the title of the packages have the number of the rows, which are ranked from one on. -/
  packages : ∃ title rows, paragraph? "📦 Packages (" lines = some (title :: rows) ∧
    summaryNumber? "Packages found" lines = some survey.usage.size ∧
    numberBetween? "📦 Packages (" "):" title = some survey.usage.size ∧
    rows.filterMap rank? = List.range' 1 survey.usage.size
  /-- The summary tells of missing records exactly if there is a section of them. -/
  unavailable : (summaryLine? "Metadata unavailable" lines).isSome = true ↔
    (paragraph? "Metadata unavailable (" lines).isSome = true
  /-- Then the summary and the title of the section have the number of its entries. -/
  entries : ∀ title entries, paragraph? "Metadata unavailable (" lines = some (title :: entries) →
    summaryNumber? "Metadata unavailable" lines = some entries.length ∧
    numberBetween? "Metadata unavailable (" "):" title = some entries.length ∧ entries ≠ []
  /-- Files are said to deserve a closer look exactly if there are some. -/
  deepDive : (paragraph? "🔍 Deep dive suggested (" lines).isSome = true ↔ survey.deepDive ≠ []
  /-- The number on the line of such a file is that of its packages, and more than three. -/
  counts : ∀ title files, paragraph? "🔍 Deep dive suggested (" lines = some (title :: files) →
    List.Forall₂ (fun p line => ∃ packages, survey.files.get? p = some packages ∧ 3 < packages.size ∧
      deepDive? line = some ((shown p).toList, packages.size)) survey.deepDive files

theorem isSome_of_summaryNumber? {label : String} {n : ℕ} {lines : List Line}
    (h : summaryNumber? label lines = some n) : (summaryLine? label lines).isSome = true := by
  obtain ⟨line, hline, -⟩ := Option.bind_eq_some_iff.1 h
  rw [hline]
  rfl

/-- What the lines of files that deserve a closer look tell, where each of them has a large set. -/
theorem counts_agree {files : FileMap} {ps : List Path}
    (h : ∀ p ∈ ps, ∃ packages, files.get? p = some packages ∧ deepDiveThreshold < packages.size) :
    List.Forall₂ (fun p line => ∃ packages, files.get? p = some packages ∧ 3 < packages.size ∧
      deepDive? line = some ((v.path p).toList, packages.size)) ps (ps.map (v.deepDiveLine files)) := by
  rw [List.forall₂_map_right_iff, List.forall₂_same]
  intro p hp
  obtain ⟨packages, hget, hlarge⟩ := h p hp
  refine ⟨packages, hget, hlarge, ?_⟩
  rw [deepDiveLine, hget]
  exact deepDive?_digits (v.path p).toList packages.size

section Agreement

variable {survey : Survey} (hcolour : v.colour = false) (metadata : MetadataMap)
include hcolour

theorem packages_agree : ∃ title rows,
    paragraph? "📦 Packages (" (v.lines (assemble survey metadata)) = some (title :: rows) ∧
    summaryNumber? "Packages found" (v.lines (assemble survey metadata)) = some survey.usage.size ∧
    numberBetween? "📦 Packages (" "):" title = some survey.usage.size ∧
    rows.filterMap rank? = List.range' 1 survey.usage.size := by
  have hlength : survey.usage.size = (assemble survey metadata).packages.length :=
    (joins_assemble survey metadata).packagesFound
  have hpart : ("📦 Packages (", v.packagesLines (assemble survey metadata).packages)
      ∈ v.parts (assemble survey metadata) := by simp [parts]
  have hsection := paragraph?_lines hcolour hpart
  rw [packagesLines, paint_of_plain hcolour] at hsection
  refine ⟨_, _, hsection, summaryNumber?_lines hcolour ?_, ?_, ?_⟩
  · exact List.mem_append_left _ (by simp; rfl)
  · rw [hlength]
    exact numberBetween?_digits "📦 Packages (" "):" _
  · rw [hlength]
    exact filterMap_rank?_packagesFrom _ _ 1

/-- The records in a report that could not be fetched. -/
def failed (r : Report) : List PackageMetadata :=
  (r.packages.filterMap (·.metadata)).filter (·.isDegraded)

/-- The section of the missing records. -/
theorem unavailable_section (r : Report) : paragraph? "Metadata unavailable (" (v.lines r)
    = if failed r = [] then none
      else some (("Metadata unavailable (".toList ++ digits (failed r).length ++ "):".toList) ::
        (failed r).map v.degradedLine) := by
  have hpart : ("Metadata unavailable (", v.degradedLines r.packages) ∈ v.parts r := by simp [parts]
  rw [paragraph?_lines hcolour hpart, degradedLines, paint_of_plain hcolour, failed]
  cases (r.packages.filterMap (·.metadata)).filter (·.isDegraded) with
  | nil => rfl
  | cons m ms => rfl

/-- Either nothing tells of missing records, or the summary and a section tell of equally many. -/
theorem unavailable_agree (hr : r.summary.degradedPackages = (r.packages.filter (·.isDegraded)).length) :
    (summaryLine? "Metadata unavailable" (v.lines r) = none ∧
      paragraph? "Metadata unavailable (" (v.lines r) = none) ∨
    ∃ title entries, paragraph? "Metadata unavailable (" (v.lines r) = some (title :: entries) ∧
      summaryNumber? "Metadata unavailable" (v.lines r) = some entries.length ∧
      numberBetween? "Metadata unavailable (" "):" title = some entries.length ∧ entries ≠ [] := by
  have hnumber : r.summary.degradedPackages = (failed r).length := hr.trans (length_failed r.packages).symm
  have hsection := unavailable_section hcolour r
  by_cases hnone : failed r = []
  · rw [if_pos hnone] at hsection
    rw [hnone] at hnumber
    exact .inl ⟨summaryLine?_unavailable_eq_none hcolour hnumber, hsection⟩
  · rw [if_neg hnone] at hsection
    have hne : r.summary.degradedPackages ≠ 0 := by
      rw [hnumber]
      exact mt List.length_eq_zero_iff.1 hnone
    refine .inr ⟨_, _, hsection, ?_⟩
    rw [List.length_map, ← hnumber]
    refine ⟨summaryNumber?_lines hcolour ?_, numberBetween?_digits "Metadata unavailable (" "):" _,
      mt List.map_eq_nil_iff.1 hnone⟩
    rw [summaryRows, if_neg hne]
    exact List.mem_append_right _ (List.mem_singleton.2 rfl)

/-- The section of the files that deserve a closer look. -/
theorem deepDive_section (r : Report) : paragraph? "🔍 Deep dive suggested (" (v.lines r)
    = if r.deepDive = [] then none
      else some (("🔍 Deep dive suggested (".toList ++ ("more than ".toList ++ (digits deepDiveThreshold ++
        " packages):".toList))) :: r.deepDive.map (v.deepDiveLine r.files)) := by
  have hpart : ("🔍 Deep dive suggested (", v.deepDiveLines r) ∈ v.parts r := by simp [parts]
  rw [paragraph?_lines hcolour hpart, deepDiveLines, paint_of_plain hcolour,
    List.append_assoc _ _ " packages):".toList, deepDive_title]
  cases r.deepDive with
  | nil => rfl
  | cons p ps => rfl

/-- **Where each file that deserves a closer look has its set, the printed numbers agree.** -/
theorem agree_of_sets (hsets : ∀ p ∈ survey.deepDive, ∃ packages,
    survey.files.get? p = some packages ∧ deepDiveThreshold < packages.size) :
    Agree survey v.path (v.lines (assemble survey metadata)) := by
  have hunavailable := unavailable_agree hcolour (r := assemble survey metadata) rfl
  have hdeepDive := deepDive_section hcolour (assemble survey metadata)
  have hfiles : (assemble survey metadata).deepDive = survey.deepDive := rfl
  rw [hfiles] at hdeepDive
  constructor
  case packages => exact packages_agree hcolour metadata
  case unavailable =>
    rcases hunavailable with ⟨hline, hsection⟩ | ⟨title, entries, hsection, hnumber, -⟩
    · rw [hline, hsection, Option.isSome_none, Option.isSome_none]
    · exact iff_of_true (isSome_of_summaryNumber? hnumber) (by rw [hsection]; rfl)
  case entries =>
    intro title entries h
    rcases hunavailable with ⟨-, hsection⟩ | ⟨title', entries', hsection, hnumbers⟩
    · rw [hsection] at h
      cases h
    · cases hsection.symm.trans h
      exact hnumbers
  case deepDive =>
    rw [hdeepDive]
    split
    · next hnone => simp [hnone]
    · next hsome => simp [hsome]
  case counts =>
    intro title files h
    rw [hdeepDive] at h
    split at h
    · cases h
    · cases h
      exact counts_agree hsets

end Agreement

end Report.View

/-! ### Line breaks -/

/-- A name that a source text asks for stands on one line. -/
theorem lineBreak_notMem_of_extracts {text : String} {n : PackageName} (h : Extracts text n) :
    '\n' ∉ n.text.toList := by
  obtain ⟨specifier, hspecifier, hname⟩ := h
  obtain ⟨l, hl, rfl⟩ := List.mem_map.1 hspecifier
  obtain ⟨form, -, hform⟩ := List.mem_flatMap.1 hl
  obtain ⟨closing, quote, -, -, hchars⟩ := Source.quotedAt_of_mem_scan hform
  intro hbreak
  have hmem : '\n' ∈ (String.ofList l.text).toList := by
    rcases PackageName.ofSpecifier?_eq_some_iff.1 hname with heq | ⟨r, heq⟩
    · rw [heq]
      exact hbreak
    · rw [heq, String.toList_append, String.toList_append]
      exact List.mem_append_left _ (List.mem_append_left _ hbreak)
  exact (hchars _ hmem).2.2 rfl

namespace Report

variable {survey : Survey} {metadata : MetadataMap}

/-- The names in the sets of a scan stand on one line. -/
theorem lineBreak_notMem_of_mem_set {found : Finds} (hsets : found.HasSets) {f : Path × PackageSet}
    (hf : f ∈ found.files.entries) {n : PackageName} (hn : n ∈ f.2.toList) : '\n' ∉ n.text.toList := by
  have hget : found.files.get? f.1 = some f.2 :=
    SortedMap.get?_eq_some_iff.2 ⟨f, hf, Std.ReflCmp.compare_self, rfl⟩
  obtain ⟨contents, hcontents⟩ := hsets.sets f.1 f.2 hget
  rw [← hcontents] at hn
  exact lineBreak_notMem_of_extracts (mem_packagesIn.1 hn)

/-- What is shown of the paths in a survey: the files that deserve a closer look, and in a detailed view all
files with packages and the names in the hierarchy. -/
def View.pathTexts (v : View) (survey : Survey) : List String :=
  survey.deepDive.map v.path ++
    if v.verbose then
      survey.files.keys.map v.path ++ survey.tree.toList.flatMap fun t => t.entries.map (·.name)
    else []

/-- Without line breaks in the shown paths and in the records, no shown text of a report has one, if the names
in it stand on one line. -/
theorem lineBreak_notMem_shownTexts (husage : survey.usage = aggregate survey.files.entries)
    (hnames : ∀ f ∈ survey.files.entries, ∀ n ∈ f.2.toList, '\n' ∉ n.text.toList) {v : View}
    (hpaths : ∀ t ∈ v.pathTexts survey, '\n' ∉ t.toList)
    (hrecords : ∀ n m, metadata.get? n = some m → ∀ t ∈ m.texts, '\n' ∉ t.toList) :
    ∀ t ∈ v.shownTexts (assemble survey metadata), '\n' ∉ t.toList := by
  rw [View.pathTexts, List.forall_mem_append] at hpaths
  obtain ⟨hdeepDive, hdetails⟩ := hpaths
  have hentries : ∀ e ∈ (assemble survey metadata).packages, ∀ t ∈ v.entryTexts e, '\n' ∉ t.toList := by
    intro e he
    obtain ⟨hused, hentry⟩ := (mem_packages_assemble husage).1 he
    obtain ⟨f, hf, hn⟩ := filesUsing_ne_nil_iff.1 hused
    have hrecord : ∀ m ∈ e.metadata, ∀ t ∈ m.texts, '\n' ∉ t.toList := by
      intro m hm
      rw [hentry] at hm
      exact hrecords e.name m hm
    simp only [View.entryTexts, List.forall_mem_append, List.forall_mem_cons, List.forall_mem_flatMap,
      Option.mem_toList]
    refine ⟨⟨hnames f hf _ hn, hrecord⟩, ?_⟩
    split
    · next hverbose =>
      rw [if_pos hverbose, List.forall_mem_append] at hdetails
      rw [List.forall_mem_map]
      intro p hp
      rw [hentry] at hp
      obtain ⟨packages, hmem, -⟩ := mem_filesUsing.1 hp
      exact hdetails.1 _ (List.mem_map_of_mem (List.mem_map.2 ⟨_, hmem, rfl⟩))
    · exact List.forall_mem_nil _
  simp only [View.shownTexts, List.forall_mem_append]
  refine ⟨⟨?_, hdeepDive⟩, ?_⟩
  · rw [List.forall_mem_flatMap]
    exact hentries
  · split
    · next hverbose =>
      rw [if_pos hverbose, List.forall_mem_append] at hdetails
      exact hdetails.2
    · exact List.forall_mem_nil _

/-- **The printed numbers of a report on a scan agree with each other**, whatever was scanned, if no record
goes over a line break.  On the lines that are printed without colours

  * the number of packages in the summary is that in the title of their section and that of its rows;
  * the summary tells of missing records exactly if there is a section of them, and both tell of as many as
    the section has entries;
  * there is a section of files that deserve a closer look exactly if there are such files, and the number at
    each of them is that of its packages, which are more than three.

The same is read from the printed text, if no path that is shown in it goes over a line break. -/
theorem agree_of_scan {fs : FileSystem} {target : Target} {survey : Survey} (hfs : fs.WellFormed)
    (hscan : scan fs target = .ok (.found survey)) (metadata : MetadataMap)
    (hrecords : ∀ n m, metadata.get? n = some m → ∀ t ∈ m.texts, '\n' ∉ t.toList) (v : View)
    (hcolour : v.colour = false) :
    (v.render (assemble survey metadata)).toList
        = (v.lines (assemble survey metadata)).flatMap (· ++ ['\n']) ∧
      View.Agree survey v.path (v.lines (assemble survey metadata)) ∧
      ((∀ t ∈ v.pathTexts survey, '\n' ∉ t.toList) →
        View.Agree survey v.path (Reading.linesOf (v.render (assemble survey metadata)))) := by
  obtain ⟨tree, found, hsets, hsurvey⟩ := hasSets_of_scan hfs hscan
  have hlarge : ∀ p ∈ survey.deepDive, ∃ packages, survey.files.get? p = some packages ∧
      deepDiveThreshold < packages.size := by
    rw [hsurvey]
    exact hsets.deepDive
  have husage : survey.usage = aggregate survey.files.entries := by rw [hsurvey]
  have hnames : ∀ f ∈ survey.files.entries, ∀ n ∈ f.2.toList, '\n' ∉ n.text.toList := by
    rw [hsurvey]
    exact fun f hf n hn => lineBreak_notMem_of_mem_set hsets hf hn
  have hagree := View.agree_of_sets hcolour metadata hlarge
  refine ⟨String.toList_ofList, hagree, fun hpaths => ?_⟩
  have hsplit := View.split_render v _ (lineBreak_notMem_shownTexts husage hnames hpaths hrecords)
  rwa [Reading.linesOf, hsplit, List.dropLast_concat]

/-- A project with one file that uses four packages. -/
def crowdedProject : FileSystem :=
  ⟨.directory [("p", .directory
    [("a.js", .file "require('a'); require('b'); require('c'); require('d')".toUTF8.toList)])], []⟩

/-- Records of which one could not be fetched. -/
def recordsWithFailure : MetadataMap :=
  .ofList ((PackageName.ofText? "b").toList.map (fun name => (name, .degraded name "HTTP 404")) ++
    (PackageName.ofText? "c").toList.map (fun name => (name, .ofVersion name "1.0.0")))

/-- The file is named twice, in two spellings, and it still has its number of packages. -/
theorem agree_of_scan_crowdedProject :
    ∃ survey, scan crowdedProject (.files [⟨"/p/a.js"⟩, ⟨"/p//a.js"⟩]) = .ok (.found survey) ∧
      survey.deepDive ≠ [] ∧
      View.Agree survey (View.mk (some ⟨"/p"⟩) true false).path
        (Reading.linesOf ((View.mk (some ⟨"/p"⟩) true false).render (assemble survey recordsWithFailure))) := by
  have hrecords : ∀ e ∈ recordsWithFailure.entries, ∀ t ∈ e.2.texts, '\n' ∉ t.toList := by decide +kernel
  have hfound : (match scan crowdedProject (.files [⟨"/p/a.js"⟩, ⟨"/p//a.js"⟩]) with
      | .ok (.found survey) => decide (survey.deepDive ≠ [] ∧
          ∀ t ∈ (View.mk (some ⟨"/p"⟩) true false).pathTexts survey, '\n' ∉ t.toList)
      | _ => false) = true := by decide +kernel
  split at hfound
  · next survey hscan =>
    obtain ⟨hdeepDive, hpaths⟩ := of_decide_eq_true hfound
    obtain ⟨-, -, hagree⟩ := agree_of_scan (by decide) hscan recordsWithFailure (fun n m hm => by
      obtain ⟨e, he, -, rfl⟩ := SortedMap.get?_eq_some_iff.1 hm
      exact hrecords e he) (View.mk (some ⟨"/p"⟩) true false) rfl
    exact ⟨survey, hscan, hdeepDive, hagree hpaths⟩
  · cases hfound

theorem linesOf_render (v : View) (r : Report) : Reading.linesOf (v.render r)
    = (Text.split '\n' ((v.lines r).flatMap (· ++ ['\n']))).dropLast := by
  rw [Reading.linesOf, View.render, String.toList_ofList]

/-- A project with one file that uses one package, and whose name goes on like a row on a second line. -/
def brokenNameProject : FileSystem :=
  ⟨.directory [("p", .directory [("a\n    2. y  1 file.js", .file "import 'x'\n".toUTF8.toList)])], []⟩

/-- **A line break in a path makes the printed numbers disagree.**  Where the files of the packages are listed,
the name of this one is read as a second row under a title and a summary that tell of one package. -/
theorem not_agree_brokenNameProject :
    brokenNameProject.WellFormed ∧
    ∃ survey, scan brokenNameProject (.directory ⟨"/p"⟩) = .ok (.found survey) ∧
      ¬View.Agree survey (View.mk (some ⟨"/p"⟩) true false).path
        (Reading.linesOf ((View.mk (some ⟨"/p"⟩) true false).render (assemble survey .empty))) := by
  have hfound : (match scan brokenNameProject (.directory ⟨"/p"⟩) with
      | .ok (.found survey) => decide (survey.usage.size = 1 ∧
          ((Reading.paragraph? "📦 Packages (" (Text.split '\n' (((View.mk (some ⟨"/p"⟩) true false).lines
            (assemble survey .empty)).flatMap (· ++ ['\n']))).dropLast).map
              fun lines => lines.tail.filterMap Reading.rank?) = some [1, 2])
      | _ => false) = true := by decide +kernel
  split at hfound
  · next survey hscan =>
    obtain ⟨hsize, hranks⟩ := of_decide_eq_true hfound
    refine ⟨by decide, survey, hscan, fun hagree => ?_⟩
    rw [linesOf_render] at hagree
    obtain ⟨title, rows, hsection, -, -, hrows⟩ := hagree.packages
    rw [hsection, Option.map_some, List.tail_cons, hrows, hsize] at hranks
    cases hranks
  · cases hfound

end Report

end ImportCensus
