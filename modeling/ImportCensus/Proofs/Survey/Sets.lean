/-
ImportCensus/Proofs/Survey/Sets.lean

The sets of packages that a scan finds.

A list of files may name a file more than once and in several spellings, and spellings of one path are one
key of the map: the set that was put in last counts.  Still no file that deserves a closer look misses its
set, since what is read at two spellings of one path is the same.  In a walk no two files are one key, so
that each keeps the set of its own text.

Main statement: in the survey of any target, each file that deserves a closer look has its set, which has more
packages than the threshold (`hasSets_of_scan`).
-/
import ImportCensus.Proofs.FileSystem.SamePath
import ImportCensus.Proofs.Survey.Scan

namespace ImportCensus.Survey

open Text

variable {fs : FileSystem} {a b found : Finds} {p : Path} {packages : PackageSet} {contents : Bytes}

theorem isEmpty_of_needsDeepDive (h : needsDeepDive packages = true) : packages.isEmpty = false := by
  have hsize : deepDiveThreshold < packages.size := by simpa [needsDeepDive] using h
  rw [SortedSet.isEmpty, List.isEmpty_eq_false_iff]
  exact List.ne_nil_of_length_pos (Nat.zero_lt_of_lt hsize)

/-! ### Files that are read one by one -/

/-- Do sets and files that deserve a closer look come from files that were read? -/
structure Finds.AreRead (fs : FileSystem) (found : Finds) : Prop where
  /-- Each set is that of a file that was read, in the same or another spelling. -/
  sets : ∀ p packages, found.files.get? p = some packages →
    ∃ q contents, q.components = p.components ∧ fs.read q = .ok contents ∧ packagesOf contents = packages
  /-- A file that deserves a closer look has a set, and was read with many packages. -/
  deepDive : ∀ p ∈ found.deepDive, (found.files.get? p).isSome = true ∧
    ∃ contents, fs.read p = .ok contents ∧ needsDeepDive (packagesOf contents) = true

namespace Finds.AreRead

theorem none : Finds.none.AreRead fs where
  sets _ _ h := by cases h
  deepDive _ h := by cases h

theorem ofFile (hread : fs.read p = .ok contents) (name : String) :
    (Finds.ofFile name p (packagesOf contents)).AreRead fs where
  sets q packages h := by
    rw [Finds.ofFile] at h
    dsimp only at h
    split at h
    · cases h
    · rw [SortedMap.get?_insert, SortedMap.get?_empty] at h
      split at h
      · next hkey =>
        exact ⟨p, contents, (Path.compare_eq_iff_components.1 hkey).symm, hread, Option.some.inj h⟩
      · cases h
  deepDive q h := by
    rw [Finds.ofFile] at h ⊢
    dsimp only at h ⊢
    split at h
    · next hlarge =>
      obtain rfl := List.mem_singleton.1 h
      have hself : compare q q = .eq := Std.ReflCmp.compare_self
      rw [isEmpty_of_needsDeepDive hlarge, if_neg Bool.false_ne_true, SortedMap.get?_insert, if_pos hself]
      exact ⟨rfl, contents, hread, hlarge⟩
    · cases h

/-- What is read later may put a set in the place of one with the same key, and takes none away. -/
theorem append (ha : a.AreRead fs) (hb : b.AreRead fs) : (a ++ b).AreRead fs where
  sets q packages h := by
    have hget : ((b.files.get? q).or (a.files.get? q)) = some packages := by
      rw [← SortedMap.get?_union]
      exact h
    rcases Option.or_eq_some_iff.1 hget with h | ⟨-, h⟩
    · exact hb.sets q packages h
    · exact ha.sets q packages h
  deepDive q h := by
    have hget : (a ++ b).files.get? q = (b.files.get? q).or (a.files.get? q) := SortedMap.get?_union _ _ _
    rw [hget, Option.isSome_or, Bool.or_eq_true]
    rcases List.mem_append.1 h with h | h
    · exact ⟨.inr (ha.deepDive q h).1, (ha.deepDive q h).2⟩
    · exact ⟨.inl (hb.deepDive q h).1, (hb.deepDive q h).2⟩

end Finds.AreRead

theorem areRead_of_readFiles {ps : List Path} (h : readFiles fs ps = .ok found) : found.AreRead fs := by
  induction ps generalizing found with
  | nil =>
    cases h
    exact .none
  | cons p ps ih =>
    obtain ⟨packages, hpackages, hmore⟩ := exists_of_bind_ok h
    obtain ⟨rest, hrest, hfound⟩ := exists_of_bind_ok hmore
    obtain ⟨contents, hread, rfl⟩ := read_of_analyze hpackages
    cases hfound
    exact (Finds.AreRead.ofFile hread _).append (ih hrest)

/-! ### Any target -/

/-- Has each file that deserves a closer look its set, and is each set that of some text? -/
structure Finds.HasSets (found : Finds) : Prop where
  sets : ∀ p packages, found.files.get? p = some packages → ∃ contents, packagesOf contents = packages
  deepDive : ∀ p ∈ found.deepDive, ∃ packages, found.files.get? p = some packages ∧
    deepDiveThreshold < packages.size

/-- Whichever spelling of a file was read last, its set is that of the file. -/
theorem Finds.AreRead.hasSets (h : found.AreRead fs) : found.HasSets where
  sets p packages hget := by
    obtain ⟨-, contents, -, -, hpackages⟩ := h.sets p packages hget
    exact ⟨contents, hpackages⟩
  deepDive p hp := by
    obtain ⟨hsome, contents, hread, hlarge⟩ := h.deepDive p hp
    obtain ⟨packages, hget⟩ := Option.isSome_iff_exists.1 hsome
    -- the set may have been put there by another spelling, which leads to the same file
    obtain ⟨q, contents', hsame, hread', rfl⟩ := h.sets p packages hget
    obtain rfl := FileSystem.read_unique hsame hread' hread
    exact ⟨_, hget, by simpa [needsDeepDive] using hlarge⟩

theorem hasSets_of_scanFiles {ps : List Path} (h : scanFiles fs ps = .ok found) : found.HasSets := by
  obtain ⟨read, hread, hfound⟩ := exists_of_bind_ok h
  cases hfound
  have hsets := (areRead_of_readFiles hread).hasSets
  exact ⟨hsets.sets, fun p hp => hsets.deepDive p (mem_of_mem_distinct hp)⟩

/-- Where no two files are one key, each has the set of its own text. -/
theorem Finds.Gathers.hasSets {scanned : List ReadFile} (h : found.Gathers scanned)
    (hdiffer : scanned.Pairwise ReadFile.PathNe) : found.HasSets where
  sets p packages hget := by
    obtain ⟨e, he, -, rfl⟩ := SortedMap.get?_eq_some_iff.1 hget
    obtain ⟨f, -, -, rfl⟩ := ReadFile.mem_packageEntries.1 ((h.files hdiffer).subset he)
    exact ⟨f.contents, rfl⟩
  deepDive p hp := by
    rw [h.deepDive, ReadFile.deepPaths] at hp
    obtain ⟨f, hf, rfl⟩ := List.mem_map.1 hp
    obtain ⟨hf, hlarge⟩ := List.mem_filter.1 hf
    refine ⟨f.packages, SortedMap.get?_eq_some_iff.2 ⟨(f.path, f.packages), ?_, ?_, rfl⟩, ?_⟩
    · exact (h.files hdiffer).mem_iff.2
        (ReadFile.mem_packageEntries.2 ⟨f, hf, isEmpty_of_needsDeepDive hlarge, rfl⟩)
    · exact Std.ReflCmp.compare_self
    · simpa [needsDeepDive] using hlarge

theorem exists_of_ofFinds {tree : Option SourceTree} {survey : Survey}
    (h : Outcome.ofFinds tree found = .found survey) :
    survey = ⟨tree, found.files, found.deepDive, found.filesScanned, aggregate found.files.entries⟩ := by
  rw [Outcome.ofFinds] at h
  split at h
  · cases h
  · cases h
    rfl

/-- **What a survey of any target has found has its sets.**  The target may name a file more than once. -/
theorem hasSets_of_scan {target : Target} {survey : Survey} (hfs : fs.WellFormed)
    (h : scan fs target = .ok (.found survey)) :
    ∃ tree found, Finds.HasSets found ∧ survey
      = ⟨tree, found.files, found.deepDive, found.filesScanned, aggregate found.files.entries⟩ := by
  cases target with
  | directory p =>
    rw [scan_directory] at h
    split at h
    · cases h
    · next herror =>
      obtain ⟨scanned, -, hdiffer, hgathers⟩ := gathers_of_walk hfs herror
      exact ⟨_, _, hgathers.hasSets hdiffer, exists_of_ofFinds (Except.ok.inj h)⟩
  | file p =>
    obtain ⟨found, hfound, houtcome⟩ := exists_of_bind_ok h
    exact ⟨_, _, hasSets_of_scanFiles hfound, exists_of_ofFinds (Except.ok.inj houtcome)⟩
  | files ps =>
    obtain ⟨found, hfound, houtcome⟩ := exists_of_bind_ok h
    exact ⟨_, _, hasSets_of_scanFiles hfound, exists_of_ofFinds (Except.ok.inj houtcome)⟩

end ImportCensus.Survey
