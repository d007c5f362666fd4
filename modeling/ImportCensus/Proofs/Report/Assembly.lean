/-
ImportCensus/Proofs/Report/Assembly.lean

A report joins the packages of a survey with their records.

Each entry takes its record out of the map, so that the later ones look into a smaller map.  That no record
is missed rests on the ranking: it puts the entries of an index into another order, and an index names each
package once, so no entry looks for a record that an earlier one has taken.

Main statement: the report on a survey lists just the packages of the index, with the records under their
names, and the records change nothing else (`assemble_joins`).
-/
import ImportCensus.Proofs.Usage
import ImportCensus.Report
import Mathlib.Data.List.Nodup

namespace ImportCensus

namespace Report

variable {metadata : MetadataMap} {survey : Survey}

/-! ### Taking records out of the map -/

theorem entryFor_erase {p q : PackageName × PackageUsage} (h : q.1 ≠ p.1) :
    entryFor (metadata.erase p.1) q = entryFor metadata q := by
  have hkey : compare q.1 p.1 ≠ .eq := fun heq => h (Std.LawfulEqOrd.eq_of_compare heq)
  rw [entryFor, entryFor, SortedMap.get?_erase, if_neg hkey]

/-- Where no package stands twice, each finds its record as if none had been taken. -/
theorem takeEntries_eq_map {l : List (PackageName × PackageUsage)} (h : (l.map (·.1)).Nodup) :
    takeEntries metadata l = l.map (entryFor metadata) := by
  -- the map shrinks from one entry to the next, so that it is general in the induction
  induction l generalizing metadata with
  | nil => rfl
  | cons p r ih =>
    rw [List.map_cons, List.nodup_cons] at h
    rw [takeEntries, ih h.2, List.map_cons]
    congr 1
    apply List.map_congr_left
    intro q hq
    apply entryFor_erase
    intro heq
    exact h.1 (List.mem_map.2 ⟨q, hq, heq⟩)

/-- The packages of a report are those of the index in their ranking, each with its record. -/
theorem packages_assemble (survey : Survey) (metadata : MetadataMap) :
    (assemble survey metadata).packages = (rank survey.usage).map (entryFor metadata) :=
  takeEntries_eq_map (nodup_rank survey.usage)

theorem names_assemble (survey : Survey) (metadata : MetadataMap) :
    (assemble survey metadata).packages.map (·.name) = (rank survey.usage).map (·.1) := by
  rw [packages_assemble, List.map_map]
  rfl

theorem nodup_names_assemble : ((assemble survey metadata).packages.map (·.name)).Nodup := by
  rw [names_assemble]
  exact nodup_rank survey.usage

/-! ### What a report says -/

/-- Is the report a survey joined with records? -/
structure Joins (r : Report) (survey : Survey) (metadata : MetadataMap) : Prop where
  /-- The packages are those of the index. -/
  listed : (r.packages.map (·.name)).Perm survey.usage.keys
  /-- No package is listed twice. -/
  once : (r.packages.map (·.name)).Nodup
  /-- Counts and files are those of the index. -/
  usage : ∀ e ∈ r.packages, survey.usage.get? e.name = some ⟨e.count, e.files⟩
  /-- The record of a package is the one under its name, if there is one. -/
  record : ∀ e ∈ r.packages, e.metadata = metadata.get? e.name
  /-- A package is looked up by the text of its name. -/
  lookup : ∀ text e, r.package? text = some e ↔ e ∈ r.packages ∧ e.name.text = text
  present : ∀ text, (r.package? text).isSome ↔ ∃ n ∈ survey.usage.keys, n.text = text
  packagesFound : r.summary.packagesFound = r.packages.length
  /-- The failures are those of packages of the index. -/
  degradedPackages : r.summary.degradedPackages
    = (survey.usage.keys.filter fun n => (metadata.get? n).any (·.error.isSome)).length
  /-- All else is as the survey has it. -/
  rest : r.tree = survey.tree ∧ r.files = survey.files ∧ r.deepDive = survey.deepDive ∧
    r.summary.filesScanned = survey.filesScanned ∧ r.summary.filesAnalyzed = survey.files.size

/-- The report without records, and without the number of those that failed. -/
def withoutRecords (r : Report) : Report :=
  { r with
    packages := r.packages.map fun e => { e with metadata := none }
    summary := { r.summary with degradedPackages := 0 } }

theorem mem_packages_iff {e : Entry} :
    e ∈ (assemble survey metadata).packages ↔
      survey.usage.get? e.name = some ⟨e.count, e.files⟩ ∧ e.metadata = metadata.get? e.name := by
  rw [packages_assemble, List.mem_map, ← SortedMap.mem_entries_iff]
  constructor
  · rintro ⟨⟨n, u⟩, hmem, rfl⟩
    exact ⟨(rank_perm _).mem_iff.1 hmem, rfl⟩
  · rintro ⟨hmem, hrecord⟩
    refine ⟨_, (rank_perm _).mem_iff.2 hmem, ?_⟩
    rw [entryFor, ← hrecord]

/-- Of entries with different names, the one with the name that is looked for is found. -/
theorem package?_eq_some_iff {r : Report} (h : (r.packages.map (·.name)).Nodup) {text : String} {e : Entry} :
    r.package? text = some e ↔ e ∈ r.packages ∧ e.name.text = text := by
  rw [package?]
  constructor
  · intro hfound
    exact ⟨List.mem_of_find?_eq_some hfound, by simpa using List.find?_some hfound⟩
  · rintro ⟨hmem, rfl⟩
    have hfound : (r.packages.find? fun e' => e'.name.text == e.name.text).isSome := by
      rw [List.find?_isSome]
      exact ⟨e, hmem, by simp⟩
    obtain ⟨e', he'⟩ := Option.isSome_iff_exists.1 hfound
    have hname : e'.name = e.name := by
      have htext : e'.name.text = e.name.text := by simpa using List.find?_some he'
      exact Option.some.inj (by rw [← PackageName.ofText?_text, htext, PackageName.ofText?_text])
    rw [he', List.inj_on_of_nodup_map h (List.mem_of_find?_eq_some he') hmem hname]

/-- As many entries have a failed record as packages of the index have one. -/
theorem degraded_assemble (survey : Survey) (metadata : MetadataMap) :
    (assemble survey metadata).summary.degradedPackages
      = (survey.usage.keys.filter fun n => (metadata.get? n).any (·.error.isSome)).length := by
  show ((assemble survey metadata).packages.filter (·.isDegraded)).length = _
  have hranked : ((rank survey.usage).map (·.1)).Perm survey.usage.keys := (rank_perm _).map _
  rw [packages_assemble, List.filter_map, List.length_map, ← (hranked.filter _).length_eq,
    List.filter_map, List.length_map]
  rfl

theorem joins_assemble (survey : Survey) (metadata : MetadataMap) :
    (assemble survey metadata).Joins survey metadata where
  listed := by
    rw [names_assemble]
    exact (rank_perm _).map _
  once := nodup_names_assemble
  usage e he := (mem_packages_iff.1 he).1
  record e he := (mem_packages_iff.1 he).2
  lookup text e := package?_eq_some_iff nodup_names_assemble
  present text := by
    have hlisted : ((assemble survey metadata).packages.map (·.name)).Perm survey.usage.keys := by
      rw [names_assemble]
      exact (rank_perm _).map _
    simp only [Option.isSome_iff_exists, package?_eq_some_iff nodup_names_assemble, ← hlisted.mem_iff,
      List.mem_map, exists_exists_and_eq_and]
  packagesFound := by
    show survey.usage.size = (assemble survey metadata).packages.length
    rw [packages_assemble, List.length_map, (rank_perm _).length_eq, SortedMap.size]
  degradedPackages := degraded_assemble survey metadata
  rest := ⟨rfl, rfl, rfl, rfl, rfl⟩

/-- Records under the same names of packages of the index make the same report. -/
theorem assemble_congr {other : MetadataMap}
    (h : ∀ n ∈ survey.usage.keys, other.get? n = metadata.get? n) :
    assemble survey other = assemble survey metadata := by
  have hpackages : (assemble survey other).packages = (assemble survey metadata).packages := by
    rw [packages_assemble, packages_assemble]
    apply List.map_congr_left
    intro p hp
    rw [entryFor, entryFor, h p.1 (List.mem_map_of_mem ((rank_perm _).mem_iff.1 hp))]
  have hunfold : ∀ m : MetadataMap, assemble survey m =
      ⟨survey.tree, survey.files, survey.deepDive, (assemble survey m).packages,
        ⟨survey.filesScanned, survey.files.size, survey.usage.size,
          ((assemble survey m).packages.filter (·.isDegraded)).length⟩⟩ := fun _ => rfl
  rw [hunfold other, hunfold metadata, hpackages]

theorem withoutRecords_assemble (survey : Survey) (metadata other : MetadataMap) :
    (assemble survey other).withoutRecords = (assemble survey metadata).withoutRecords := by
  have hpackages : ∀ m : MetadataMap,
      (assemble survey m).packages.map (fun e => { e with metadata := none })
        = (rank survey.usage).map fun p => ⟨p.1, p.2.count, p.2.files, none⟩ := by
    intro m
    rw [packages_assemble, List.map_map]
    rfl
  rw [withoutRecords, withoutRecords, hpackages, hpackages]
  rfl

/-- **A report is the survey joined with the records of its packages.**  Whatever the index of the survey
holds and whichever records there are: every package of the index is listed once, and no other, with the
record under its name although the records are taken out of the map one by one; the numbers of the summary
agree with the list; records of other packages do not matter; and two reports on one survey differ in the
records and in the number of those that failed, and in nothing else. -/
theorem assemble_joins (survey : Survey) (metadata : MetadataMap) :
    (assemble survey metadata).Joins survey metadata ∧
    (∀ other : MetadataMap, (∀ n ∈ survey.usage.keys, other.get? n = metadata.get? n) →
      assemble survey other = assemble survey metadata) ∧
    ∀ other : MetadataMap, (assemble survey other).withoutRecords
      = (assemble survey metadata).withoutRecords :=
  ⟨joins_assemble survey metadata, fun _ h => assemble_congr h,
    fun other => withoutRecords_assemble survey metadata other⟩

/-- The failed record of a package that no file uses changes nothing. -/
theorem assemble_joins_stranger :
    let used : PackageName := ⟨"a", by decide⟩
    let stranger : PackageName := ⟨"b", by decide⟩
    let survey : Survey := ⟨none, .empty, [], 1, SortedMap.empty.insert used ⟨2, [⟨"/p/x.js"⟩]⟩⟩
    assemble survey (SortedMap.empty.insert stranger (.degraded stranger "HTTP 404"))
      = assemble survey .empty := by
  intro used stranger survey
  have hunlisted : ∀ n ∈ survey.usage.keys,
      SortedMap.get? (SortedMap.empty.insert stranger (.degraded stranger "HTTP 404")) n
        = (SortedMap.empty : MetadataMap).get? n := by
    decide
  exact (assemble_joins survey .empty).2.1 _ hunlisted

end Report

end ImportCensus
