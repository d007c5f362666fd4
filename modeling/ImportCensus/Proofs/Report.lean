/-
ImportCensus/Proofs/Report.lean

A report is a two-way index of the files that were read.

The two ways are made by different parts of the program: the sets of packages by file while the files are
read, and the files of each package from these sets afterwards; then the packages are ranked and joined
with their records.  `Report.IsIndexOf` says how both ways belong to the files and to each other.

Main statement: the report on a scan of any target that was made from paths is such an index of the files
that the scan has read (`report_isIndexOf_scanned`).
-/
import ImportCensus.Proofs.Report.Assembly
import ImportCensus.Proofs.Survey.Scan

namespace ImportCensus

open Survey

namespace Report

/-- Is the report a faithful index of these files, from either end? -/
structure IsIndexOf (r : Report) (scanned : List ReadFile) : Prop where
  /-- The sets of the report are those of the files that use a package. -/
  sets : r.files.entries.Perm (ReadFile.packageEntries scanned)
  /-- A package is listed exactly if the text of some file asks for it. -/
  listed : ∀ n, (∃ e ∈ r.packages, e.name = n) ↔ ∃ f ∈ scanned, Extracts f.text n
  /-- No package is listed twice. -/
  once : (r.packages.map (·.name)).Nodup
  /-- The files of a package are those whose sets hold it. -/
  files : ∀ e ∈ r.packages, ∀ path,
    path ∈ e.files ↔ ∃ packages, (path, packages) ∈ r.files.entries ∧ e.name ∈ packages.toList
  /-- They stand in ascending order, none of them twice. -/
  ascending : ∀ e ∈ r.packages, e.files.Pairwise fun p q => compare p q = .lt
  count : ∀ e ∈ r.packages, e.count = e.files.length
  /-- The set of a file holds the packages that list the file. -/
  packages : ∀ f ∈ r.files.entries, ∀ n,
    n ∈ f.2.toList ↔ ∃ e ∈ r.packages, e.name = n ∧ f.1 ∈ e.files
  /-- Both ways tell of equally many uses. -/
  uses : (r.packages.map (·.count)).sum = (r.files.values.map (·.size)).sum
  /-- The files with more than three packages deserve a closer look, each once. -/
  deepDive : r.deepDive.Perm ((r.files.entries.filter fun f => 3 < f.2.size).map (·.1))
  scanned : r.summary.filesScanned = scanned.length
  analyzed : r.summary.filesAnalyzed = r.files.keys.length
  analyzed_le : r.summary.filesAnalyzed ≤ r.summary.filesScanned

/-! ### From sets to packages -/

section Survey

variable {survey : Survey} {metadata : MetadataMap}

/-- The packages of a report are those that some file uses, each with the files that use it. -/
theorem mem_packages_assemble (husage : survey.usage = aggregate survey.files.entries) {e : Entry} :
    e ∈ (assemble survey metadata).packages ↔
      filesUsing e.name survey.files.entries ≠ [] ∧
      e = ⟨e.name, (filesUsing e.name survey.files.entries).length,
        filesUsing e.name survey.files.entries, metadata.get? e.name⟩ := by
  rw [packages_assemble, List.mem_map, husage]
  constructor
  · rintro ⟨⟨n, u⟩, hmem, rfl⟩
    obtain ⟨hne, rfl⟩ := mem_aggregate_iff.1 ((rank_perm _).mem_iff.1 hmem)
    exact ⟨hne, rfl⟩
  · rintro ⟨hne, he⟩
    refine ⟨⟨e.name, _⟩, (rank_perm _).mem_iff.2 (mem_aggregate_iff.2 ⟨hne, rfl⟩), ?_⟩
    exact he.symm

/-- The entry of a package that some file uses. -/
theorem entry_mem_packages_assemble (husage : survey.usage = aggregate survey.files.entries)
    {n : PackageName} (h : filesUsing n survey.files.entries ≠ []) :
    ⟨n, (filesUsing n survey.files.entries).length, filesUsing n survey.files.entries,
      metadata.get? n⟩ ∈ (assemble survey metadata).packages :=
  (mem_packages_assemble husage).2 ⟨h, rfl⟩

theorem name_mem_packages_assemble (husage : survey.usage = aggregate survey.files.entries)
    {n : PackageName} :
    (∃ e ∈ (assemble survey metadata).packages, e.name = n) ↔
      filesUsing n survey.files.entries ≠ [] := by
  constructor
  · rintro ⟨e, he, rfl⟩
    exact ((mem_packages_assemble husage).1 he).1
  · intro hne
    exact ⟨_, entry_mem_packages_assemble husage hne, rfl⟩

theorem sum_counts_assemble (husage : survey.usage = aggregate survey.files.entries) :
    ((assemble survey metadata).packages.map (·.count)).sum
      = (survey.files.values.map (·.size)).sum := by
  calc ((assemble survey metadata).packages.map (·.count)).sum
      = ((rank survey.usage).map fun e => e.2.count).sum := by
        rw [packages_assemble, List.map_map]
        rfl
    _ = (survey.usage.entries.map fun e => e.2.count).sum :=
        ((rank_perm survey.usage).map fun e => e.2.count).sum_nat
    _ = survey.usage.total := by
        rw [UsageIndex.total, SortedMap.values, List.map_map]
        rfl
    _ = (survey.files.entries.map fun f => f.2.size).sum := by rw [husage, total_aggregate]
    _ = (survey.files.values.map (·.size)).sum := by
        rw [SortedMap.values, List.map_map]
        rfl

/-- The files of a package are in the order of the sets. -/
theorem ascending_filesUsing (files : FileMap) (n : PackageName) :
    (filesUsing n files.entries).Pairwise fun p q => compare p q = .lt := by
  rw [filesUsing, List.pairwise_map]
  exact files.sorted.filter _

end Survey

/-! ### From files to sets -/

section Gathers

variable {found : Finds} {scanned : List ReadFile}

theorem isEmpty_eq_false {packages : PackageSet} {n : PackageName} (h : n ∈ packages.toList) :
    packages.isEmpty = false := by
  rw [SortedSet.isEmpty, List.isEmpty_eq_false_iff]
  exact List.ne_nil_of_mem h

/-- Some set holds a package exactly if some text asks for it. -/
theorem exists_filesUsing_iff (hsets : found.files.entries.Perm (ReadFile.packageEntries scanned))
    {n : PackageName} :
    filesUsing n found.files.entries ≠ [] ↔ ∃ f ∈ scanned, Extracts f.text n := by
  rw [filesUsing_ne_nil_iff]
  constructor
  · rintro ⟨e, hmem, hn⟩
    obtain ⟨f, hf, -, rfl⟩ := ReadFile.mem_packageEntries.1 (hsets.subset hmem)
    exact ⟨f, hf, mem_packagesIn.1 hn⟩
  · rintro ⟨f, hf, hextracts⟩
    have hn : n ∈ f.packages.toList := mem_packagesIn.2 hextracts
    refine ⟨(f.path, f.packages), hsets.mem_iff.2 ?_, hn⟩
    exact ReadFile.mem_packageEntries.2 ⟨f, hf, isEmpty_eq_false hn, rfl⟩

/-- A set of more than three packages is not empty. -/
theorem large_and_used (packages : PackageSet) :
    (decide (3 < packages.size) && !packages.isEmpty) = needsDeepDive packages := by
  have hsome : 3 < packages.size → packages.isEmpty = false := by
    intro hsize
    rw [SortedSet.isEmpty, List.isEmpty_eq_false_iff]
    apply List.ne_nil_of_length_pos
    exact Nat.lt_of_le_of_lt (Nat.zero_le 3) hsize
  rw [needsDeepDive, deepDiveThreshold]
  by_cases hsize : 3 < packages.size <;> simp [hsize, hsome]

/-- The files that deserve a closer look are those with large sets. -/
theorem deepPaths_perm (hsets : found.files.entries.Perm (ReadFile.packageEntries scanned)) :
    (ReadFile.deepPaths scanned).Perm
      ((found.files.entries.filter fun f => 3 < f.2.size).map (·.1)) := by
  have hlarge : ((ReadFile.packageEntries scanned).filter fun f => 3 < f.2.size).map (·.1)
      = ReadFile.deepPaths scanned := by
    rw [ReadFile.packageEntries, List.filter_map, List.filter_filter, List.map_map,
      ReadFile.deepPaths]
    apply congrArg (List.map ReadFile.path)
    apply List.filter_congr
    intro f hf
    simp only [Function.comp_apply]
    rw [large_and_used]
  rw [← hlarge]
  exact ((hsets.filter _).map _).symm

theorem size_files_le (hsets : found.files.entries.Perm (ReadFile.packageEntries scanned)) :
    found.files.size ≤ scanned.length := by
  rw [SortedMap.size, hsets.length_eq, ReadFile.packageEntries, List.length_map]
  exact List.length_filter_le _ _

/-- The report on what gathers some files is an index of them. -/
theorem isIndexOf_of_gathers (hdiffer : scanned.Pairwise ReadFile.PathNe)
    (h : found.Gathers scanned) (tree : Option SourceTree) (metadata : MetadataMap) :
    (assemble ⟨tree, found.files, found.deepDive, found.filesScanned,
      aggregate found.files.entries⟩ metadata).IsIndexOf scanned := by
  have hsets := h.files hdiffer
  refine ⟨hsets, ?_, nodup_names_assemble, ?_, ?_, ?_, ?_, sum_counts_assemble rfl, ?_, h.scanned, ?_,
    ?_⟩
  · intro n
    rw [name_mem_packages_assemble rfl]
    exact exists_filesUsing_iff hsets
  · intro e he path
    rw [((mem_packages_assemble rfl).1 he).2]
    exact mem_filesUsing
  · intro e he
    rw [((mem_packages_assemble rfl).1 he).2]
    exact ascending_filesUsing found.files e.name
  · intro e he
    rw [((mem_packages_assemble rfl).1 he).2]
  · -- the way back: a set holds a package exactly if the package lists the file
    intro f hf n
    constructor
    · intro hn
      have hmem : f.1 ∈ filesUsing n found.files.entries := mem_filesUsing.2 ⟨f.2, hf, hn⟩
      exact ⟨_, entry_mem_packages_assemble rfl (List.ne_nil_of_mem hmem), rfl, hmem⟩
    · rintro ⟨e, he, rfl, hmem⟩
      rw [((mem_packages_assemble rfl).1 he).2] at hmem
      obtain ⟨packages, hpackages, hn⟩ := mem_filesUsing.1 hmem
      -- one path has one set
      have hsame : (f.1, packages) = f :=
        SortedMap.eq_of_mem_entries hpackages hf Std.ReflOrd.compare_self
      rw [← hsame]
      exact hn
  · show found.deepDive.Perm _
    rw [h.deepDive]
    exact deepPaths_perm hsets
  · show found.files.size = found.files.keys.length
    rw [SortedMap.size, SortedMap.keys, List.length_map]
  · show found.files.size ≤ found.filesScanned
    rw [h.scanned]
    exact size_files_le hsets

end Gathers

/-- **A report is an index of the files that were read.**  Let a target be made from paths, and let a scan
of it find packages.  The target determines which files the scan has read, and whatever records are
joined, the report is a faithful index of just these files. -/
theorem report_isIndexOf_scanned {made fs : FileSystem} {ps : List Path} {target : Target}
    {survey : Survey} (hfs : fs.WellFormed) (htarget : Target.ofPaths made ps = .ok target)
    (hscan : scan fs target = .ok (.found survey)) (metadata : MetadataMap) :
    ∃ scanned, (∀ others, target.Scans fs others ↔ others = scanned) ∧
      (assemble survey metadata).IsIndexOf scanned := by
  obtain ⟨tree, found, scanned, houtcome, hscans, hdiffer, hgathers⟩ :=
    gathers_of_scan hfs (Target.paths_pairwise htarget) hscan
  refine ⟨scanned, fun others => ⟨fun h => h.unique hscans, ?_⟩, ?_⟩
  · rintro rfl
    exact hscans
  · rw [Outcome.ofFinds] at houtcome
    split at houtcome
    · cases houtcome
    · cases houtcome
      exact isIndexOf_of_gathers hdiffer hgathers tree metadata

/-- One of the two files in sight uses a package, and the report on them is an index. -/
theorem report_isIndexOf_linkedEntries :
    ∃ survey scanned,
      scan ⟨.directory [("p", .directory linkedEntries)], []⟩ (.directory ⟨"/p"⟩)
        = .ok (.found survey) ∧
      (assemble survey .empty).IsIndexOf scanned := by
  have hfs : FileSystem.WellFormed ⟨.directory [("p", .directory linkedEntries)], []⟩ := by decide
  have htarget : Target.ofPaths ⟨.directory [("p", .directory linkedEntries)], []⟩ [⟨"p"⟩]
      = .ok (.directory ⟨"/p"⟩) := rfl
  have hfound : (match scan ⟨.directory [("p", .directory linkedEntries)], []⟩ (.directory ⟨"/p"⟩) with
      | .ok (.found _) => true
      | _ => false) = true := by decide +kernel
  split at hfound
  · next survey hscan =>
    obtain ⟨scanned, -, hindex⟩ := report_isIndexOf_scanned hfs htarget hscan .empty
    exact ⟨survey, scanned, hscan, hindex⟩
  · cases hfound

end Report

end ImportCensus
