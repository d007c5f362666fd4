/-
ImportCensus/Proofs/Usage.lean

The index from packages to files is the inverse of the map from files to packages.

The index is built by adding one file after the other.  A package's entry is at each moment the usage by
those of the added files that use it, in the order in which they were added; a package that none of them
uses has no entry.

Main statements: the entry of a package lists just the files that use it (`get?_aggregate`,
`aggregate_lists_uses`), and the counts of all packages add up to the sizes of all sets
(`total_aggregate`).
-/
import ImportCensus.Proofs.Order.SortedMap
import ImportCensus.Usage

namespace ImportCensus

/-- The packages that are asked for in a text. -/
def Extracts (text : String) (n : PackageName) : Prop :=
  ∃ specifier ∈ Source.specifiers text, PackageName.ofSpecifier? specifier = some n

theorem mem_packagesIn {text : String} {n : PackageName} :
    n ∈ (packagesIn text).toList ↔ Extracts text n := by
  rw [packagesIn, SortedSet.mem_ofList, List.mem_filterMap]
  rfl

/-- The files of a list that use a package, in the order of the list. -/
def filesUsing (n : PackageName) (files : List (Path × PackageSet)) : List Path :=
  (files.filter fun f => n ∈ f.2.toList).map (·.1)

/-- The usage of a package by some files, if there are any. -/
def usageBy? (files : List Path) : Option PackageUsage :=
  if files = [] then none else some ⟨files.length, files⟩

theorem mem_filesUsing {n : PackageName} {files : List (Path × PackageSet)} {p : Path} :
    p ∈ filesUsing n files ↔ ∃ packages, (p, packages) ∈ files ∧ n ∈ packages.toList := by
  simp [filesUsing]

theorem filesUsing_cons (n : PackageName) (f : Path × PackageSet) (files : List (Path × PackageSet)) :
    filesUsing n (f :: files) = (if n ∈ f.2.toList then [f.1] else []) ++ filesUsing n files := by
  by_cases h : n ∈ f.2.toList <;> simp [filesUsing, h]

/-! ### One more file -/

variable {index : UsageIndex} {n : PackageName} {file : Path}

/-- Adding a file at some packages changes the usage of just these. -/
theorem get?_foldl_update {l : List PackageName} (h : l.Nodup) :
    (l.foldl (fun index p => index.update p ⟨0, []⟩ (·.addFile file)) index).get? n
      = if n ∈ l then some (((index.get? n).getD ⟨0, []⟩).addFile file) else index.get? n := by
  induction l generalizing index with
  | nil => rfl
  | cons p r ih =>
    -- a set names each package once, so that the rest of it does not change `p` again
    obtain ⟨hp, hr⟩ := List.nodup_cons.1 h
    rw [List.foldl_cons, ih hr, SortedMap.get?_update]
    by_cases hn : n = p
    · subst hn
      simp [hp, Std.ReflOrd.compare_self]
    · have hne : compare n p ≠ .eq := fun heq => hn (Std.LawfulEqOrd.eq_of_compare heq)
      simp [hn, hne]

/-- A package that the file uses has one file more, and the others have the same ones. -/
theorem get?_addFile {before : List Path} (h : index.get? n = usageBy? before)
    (packages : PackageSet) :
    (index.addFile file packages).get? n
      = usageBy? (before ++ if n ∈ packages.toList then [file] else []) := by
  rw [UsageIndex.addFile, get?_foldl_update packages.nodup_toList]
  by_cases hn : n ∈ packages.toList
  · have hlast : (usageBy? before).getD ⟨0, []⟩ = ⟨before.length, before⟩ := by
      rw [usageBy?]
      split
      · next hnil => rw [hnil]; rfl
      · rfl
    rw [if_pos hn, if_pos hn, h, hlast, usageBy?, if_neg (by simp), PackageUsage.addFile,
      List.length_append]
    rfl
  · rw [if_neg hn, if_neg hn, List.append_nil, h]

/-- **The usage of a package is the usage by the files that use it.** -/
theorem get?_aggregate (files : List (Path × PackageSet)) (n : PackageName) :
    (aggregate files).get? n = usageBy? (filesUsing n files) := by
  -- the induction is over the files that are still to be added
  have hfold : ∀ (index : UsageIndex) (before : List Path), index.get? n = usageBy? before →
      (files.foldl (fun index f => index.addFile f.1 f.2) index).get? n
        = usageBy? (before ++ filesUsing n files) := by
    induction files with
    | nil =>
      intro index before h
      show index.get? n = usageBy? (before ++ [])
      rw [List.append_nil, h]
    | cons f r ih =>
      intro index before h
      rw [List.foldl_cons, ih _ _ (get?_addFile h f.2), filesUsing_cons, List.append_assoc]
  exact hfold .empty [] rfl

/-- Some file uses a package exactly if a set holds it. -/
theorem filesUsing_ne_nil_iff {n : PackageName} {files : List (Path × PackageSet)} :
    filesUsing n files ≠ [] ↔ ∃ f ∈ files, n ∈ f.2.toList := by
  rw [filesUsing, ne_eq, List.map_eq_nil_iff, List.filter_eq_nil_iff]
  simp

/-- The entries of the index. -/
theorem mem_aggregate_iff {files : List (Path × PackageSet)} {n : PackageName} {u : PackageUsage} :
    (n, u) ∈ (aggregate files).entries ↔
      filesUsing n files ≠ [] ∧ u = ⟨(filesUsing n files).length, filesUsing n files⟩ := by
  rw [SortedMap.mem_entries_iff, get?_aggregate, usageBy?]
  split
  · next hnil => simp [hnil]
  · next hne => simp [hne, eq_comm]

/-- The packages of an index stand in the order of its entries. -/
theorem toList_packages (index : UsageIndex) : index.packages.toList = index.keys :=
  congrArg SortedSet.toList (SortedSet.ofList_toList ⟨index.keys, index.keys_sorted⟩)

/-- **The index lists each use of a package by a file.**  Whatever the files, with repeated paths and empty
sets among them, a package has an entry exactly if some set holds it; the entry lists the paths of just the
files whose sets hold the package, in their order and with repetitions, and counts them; and the packages
of the index are those that have an entry. -/
theorem aggregate_lists_uses (files : List (Path × PackageSet)) :
    (∀ n, (∃ u, (n, u) ∈ (aggregate files).entries) ↔ ∃ f ∈ files, n ∈ f.2.toList) ∧
    (∀ n u, (n, u) ∈ (aggregate files).entries ↔
      u.files = (files.filter fun f => n ∈ f.2.toList).map (·.1) ∧ u.count = u.files.length ∧
        1 ≤ u.count) ∧
    (aggregate files).packages.toList = (aggregate files).keys := by
  refine ⟨fun n => ?_, fun n u => ?_, toList_packages _⟩
  · rw [← filesUsing_ne_nil_iff]
    constructor
    · rintro ⟨u, hu⟩
      exact (mem_aggregate_iff.1 hu).1
    · exact fun hne => ⟨_, mem_aggregate_iff.2 ⟨hne, rfl⟩⟩
  · show _ ↔ u.files = filesUsing n files ∧ _
    rw [mem_aggregate_iff]
    constructor
    · rintro ⟨hne, rfl⟩
      exact ⟨rfl, rfl, List.length_pos_of_ne_nil hne⟩
    · rintro ⟨hfiles, hcount, hpos⟩
      rw [hcount, hfiles] at hpos
      refine ⟨List.ne_nil_of_length_pos hpos, ?_⟩
      rw [← hfiles, ← hcount]

/-! ### Sums -/

/-- How often packages are used, all packages taken together. -/
def UsageIndex.total (index : UsageIndex) : Nat :=
  (index.values.map PackageUsage.count).sum

theorem total_update (index : UsageIndex) (p : PackageName) (file : Path) :
    UsageIndex.total (index.update p ⟨0, []⟩ (·.addFile file)) = index.total + 1 := by
  have h := SortedMap.sum_insert PackageUsage.count index p
    (((index.get? p).getD ⟨0, []⟩).addFile file)
  have hcount : (((index.get? p).getD ⟨0, []⟩).addFile file).count
      = ((index.get? p).map PackageUsage.count).getD 0 + 1 := by
    cases index.get? p <;> rfl
  rw [hcount] at h
  show ((index.insert p (((index.get? p).getD ⟨0, []⟩).addFile file)).values.map
    PackageUsage.count).sum = (index.values.map PackageUsage.count).sum + 1
  omega

theorem total_addFile (index : UsageIndex) (file : Path) (packages : PackageSet) :
    (index.addFile file packages).total = index.total + packages.size := by
  rw [UsageIndex.addFile, SortedSet.size]
  generalize packages.toList = l
  induction l generalizing index with
  | nil => rfl
  | cons p r ih =>
    rw [List.foldl_cons, ih, total_update, List.length_cons]
    omega

/-- **Each use of a package by a file is counted once.** -/
theorem total_aggregate (files : List (Path × PackageSet)) :
    (aggregate files).total = (files.map fun f => f.2.size).sum := by
  have hfold : ∀ index : UsageIndex,
      UsageIndex.total (files.foldl (fun index f => index.addFile f.1 f.2) index)
        = index.total + (files.map fun f => f.2.size).sum := by
    induction files with
    | nil =>
      intro index
      rfl
    | cons f r ih =>
      intro index
      rw [List.foldl_cons, ih, total_addFile, List.map_cons, List.sum_cons, Nat.add_assoc]
  have h := hfold .empty
  rw [aggregate, h]
  show 0 + _ = _
  rw [Nat.zero_add]

/-! ### Ranking -/

/-- Ranking puts the packages into another order. -/
theorem rank_perm (index : UsageIndex) : (rank index).Perm index.entries :=
  List.mergeSort_perm _ _

/-- No package is ranked twice. -/
theorem nodup_rank (index : UsageIndex) : ((rank index).map (·.1)).Nodup := by
  have hkeys : (index.entries.map (·.1)).Nodup := by
    rw [List.nodup_iff_pairwise_ne, List.pairwise_map]
    apply index.sorted.imp
    intro a b h heq
    rw [KeyLt, heq, Std.ReflOrd.compare_self] at h
    cases h
  exact ((rank_perm index).map _).nodup_iff.2 hkeys

end ImportCensus
