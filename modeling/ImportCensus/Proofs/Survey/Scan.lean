/-
ImportCensus/Proofs/Survey/Scan.lean

What a scan of a target finds, whatever kind of target it is.

The files that a scan reads are said without the scan (`Target.Scans`): those of a directory are its
source files that can be followed, and those of other targets are the files themselves.  A target that was
made from paths names no file twice, so that a scan finds accounts of just these files.

Main statement: the files that a scan reads are determined by the target, and what it finds gathers them
(`gathers_of_scan`).
-/
import ImportCensus.Proofs.Survey.Walk
import ImportCensus.Survey.Scan

namespace ImportCensus

open Text

namespace Survey

/-! ### Paths that differ -/

theorem same_iff {p q : Path} : p.same q = true ↔ compare p q = .eq := by
  rw [Path.same, beq_iff_eq, Path.compare_eq_iff_components]

/-- A list of paths in which each stands once has no two that compare as equal. -/
theorem pairwise_distinct (ps : List Path) : (distinct ps).Pairwise fun p q => compare p q ≠ .eq := by
  induction ps with
  | nil => exact .nil
  | cons p r ih =>
    rw [distinct, List.pairwise_cons]
    refine ⟨?_, ih.filter _⟩
    intro q hq heq
    have hnot := (List.mem_filter.1 hq).2
    rw [same_iff.2 heq] at hnot
    cases hnot

/-- Paths no two of which compare as equal stay as they are. -/
theorem distinct_eq_self {ps : List Path} (h : ps.Pairwise fun p q => compare p q ≠ .eq) :
    distinct ps = ps := by
  induction ps with
  | nil => rfl
  | cons p r ih =>
    obtain ⟨hp, hr⟩ := List.pairwise_cons.1 h
    rw [distinct, ih hr]
    congr 1
    rw [List.filter_eq_self]
    intro q hq
    rw [Bool.not_eq_true', ← Bool.not_eq_true, same_iff]
    exact hp q hq

theorem mem_of_mem_distinct {p : Path} {ps : List Path} (h : p ∈ distinct ps) : p ∈ ps := by
  induction ps with
  | nil => exact h
  | cons q r ih =>
    rcases List.mem_cons.1 h with rfl | hr
    · exact List.mem_cons_self
    · exact List.mem_cons_of_mem _ (ih (List.mem_filter.1 hr).1)

/-! ### Targets -/

namespace Target

variable {fs : FileSystem} {target : Target}

theorem paths_pairwise_of_ofFile {p : Path} (h : ofFile fs p = .ok target) :
    target.paths.Pairwise fun p q => compare p q ≠ .eq := by
  obtain ⟨path, -, hfile⟩ := exists_of_bind_ok h
  cases hfile
  exact List.pairwise_singleton _ _

theorem paths_pairwise_of_ofFiles {ps : List Path} (h : ofFiles fs ps = .ok target) :
    target.paths.Pairwise fun p q => compare p q ≠ .eq := by
  rw [ofFiles] at h
  split at h
  · cases h
  · obtain ⟨paths, -, hfiles⟩ := exists_of_bind_ok h
    cases hfiles
    exact pairwise_distinct paths

/-- A target that was made from paths names nothing twice. -/
theorem paths_pairwise {ps : List Path} (h : ofPaths fs ps = .ok target) :
    target.paths.Pairwise fun p q => compare p q ≠ .eq := by
  rw [ofPaths.eq_def] at h
  split at h
  · cases h
  · obtain ⟨⟨path, isDirectory⟩, -, hkind⟩ := exists_of_bind_ok h
    cases isDirectory with
    | true =>
      cases hkind
      exact List.pairwise_singleton _ _
    | false => exact paths_pairwise_of_ofFile hkind
  · exact paths_pairwise_of_ofFiles h

/-- Are these the files that a scan of the target reads? -/
inductive Scans (fs : FileSystem) : Target → List ReadFile → Prop
  /-- A directory is walked from its plainest path, or from the given one if that is too long. -/
  | directory {p root : Path} {entries : Listing} (hroot : (fs.canonical p).toOption.getD p = root)
      (hlist : fs.list root = .ok entries) :
      Scans fs (.directory p) (readable (sourceFiles root entries))
  | file {f : ReadFile} (hread : fs.read f.path = .ok f.contents) : Scans fs (.file f.path) [f]
  | files {scanned : List ReadFile} (hread : ∀ f ∈ scanned, fs.read f.path = .ok f.contents) :
      Scans fs (.files (scanned.map (·.path))) scanned

end Target

variable {fs : FileSystem} {target : Target}

/-- Files are known by their paths if they are what is read there. -/
theorem eq_of_map_path {as bs : List ReadFile} (ha : ∀ f ∈ as, fs.read f.path = .ok f.contents)
    (hb : ∀ f ∈ bs, fs.read f.path = .ok f.contents)
    (h : as.map (·.path) = bs.map (·.path)) : as = bs := by
  induction as generalizing bs with
  | nil => exact (List.map_eq_nil_iff.1 h.symm).symm
  | cons a r ih =>
    cases bs with
    | nil => cases h
    | cons b s =>
      obtain ⟨hpath, hrest⟩ := List.cons.inj h
      have hfile : a = b := by
        have hread := ha a List.mem_cons_self
        have hpath : a.path = b.path := hpath
        rw [hpath, hb b List.mem_cons_self] at hread
        obtain ⟨path, contents⟩ := a
        obtain ⟨path', contents'⟩ := b
        cases hpath
        cases hread
        rfl
      have htail : r = s :=
        ih (fun f hf => ha f (List.mem_cons_of_mem _ hf)) (fun f hf => hb f (List.mem_cons_of_mem _ hf))
          hrest
      rw [hfile, htail]

/-- The files that a scan reads are determined by the target. -/
theorem Target.Scans.unique {as bs : List ReadFile} (ha : target.Scans fs as)
    (hb : target.Scans fs bs) : as = bs := by
  cases ha with
  | directory hroot hlist =>
    cases hb with
    | directory hroot' hlist' =>
      cases hroot.symm.trans hroot'
      cases hlist.symm.trans hlist'
      rfl
  | @file f hread =>
    generalize htarget : Target.file f.path = target at hb
    cases hb with
    | @file g hread' =>
      apply eq_of_map_path (by simpa using hread) (by simpa using hread')
      exact congrArg (fun p => [p]) (Target.file.inj htarget)
    | _ => cases htarget
  | files hread =>
    generalize htarget : Target.files (as.map (·.path)) = target at hb
    cases hb with
    | files hread' => exact eq_of_map_path hread hread' (Target.files.inj htarget)
    | _ => cases htarget

/-! ### Single files -/

theorem read_of_analyze {p : Path} {packages : PackageSet} (h : analyze fs p = .ok packages) :
    ∃ contents, fs.read p = .ok contents ∧ packagesOf contents = packages := by
  rw [analyze] at h
  split at h
  · next contents hread => exact ⟨contents, hread, Except.ok.inj h⟩
  · cases h

/-- Files that are read one by one are gathered in the order of their paths. -/
theorem gathers_of_readFiles {ps : List Path} {found : Finds} (h : readFiles fs ps = .ok found) :
    ∃ scanned : List ReadFile, scanned.map (·.path) = ps ∧
      (∀ f ∈ scanned, fs.read f.path = .ok f.contents) ∧ found.Gathers scanned := by
  induction ps generalizing found with
  | nil =>
    cases h
    exact ⟨[], rfl, by simp, Finds.gathers_none⟩
  | cons p r ih =>
    obtain ⟨packages, hpackages, hmore⟩ := exists_of_bind_ok h
    obtain ⟨rest, hrest, hfound⟩ := exists_of_bind_ok hmore
    obtain ⟨scanned, hpaths, hreads, hgathers⟩ := ih hrest
    obtain ⟨contents, hread, rfl⟩ := read_of_analyze hpackages
    cases hfound
    refine ⟨⟨p, contents⟩ :: scanned, ?_, ?_, ?_⟩
    · rw [List.map_cons, hpaths]
    · rw [List.forall_mem_cons]
      exact ⟨hread, hreads⟩
    · exact (Finds.gathers_ofFile ⟨p, contents⟩).append hgathers

/-- No path is taken out of the list of files that deserve a closer look. -/
theorem gathers_of_scanFiles {ps : List Path} {found : Finds}
    (hps : ps.Pairwise fun p q => compare p q ≠ .eq) (h : scanFiles fs ps = .ok found) :
    ∃ scanned : List ReadFile, scanned.map (·.path) = ps ∧
      (∀ f ∈ scanned, fs.read f.path = .ok f.contents) ∧ scanned.Pairwise ReadFile.PathNe ∧
      found.Gathers scanned := by
  obtain ⟨found', hread, hfound⟩ := exists_of_bind_ok h
  cases hfound
  obtain ⟨scanned, hpaths, hreads, hgathers⟩ := gathers_of_readFiles hread
  have hdiffer : scanned.Pairwise ReadFile.PathNe := by
    rw [← hpaths, List.pairwise_map] at hps
    exact hps
  have hdeep : (ReadFile.deepPaths scanned).Pairwise fun p q => compare p q ≠ .eq := by
    rw [ReadFile.deepPaths, List.pairwise_map]
    exact hdiffer.filter _
  refine ⟨scanned, hpaths, hreads, hdiffer, hgathers.shown, hgathers.files, ?_, hgathers.scanned⟩
  show distinct found'.deepDive = ReadFile.deepPaths scanned
  rw [hgathers.deepDive, distinct_eq_self hdeep]

/-! ### Whole scans -/

theorem gathers_of_walk {p : Path} (hfs : fs.WellFormed) (h : (walk fs p).rootError = none) :
    ∃ scanned, (Target.directory p).Scans fs scanned ∧ scanned.Pairwise ReadFile.PathNe ∧
      (walk fs p).finds.Gathers scanned := by
  generalize hroot : (fs.canonical p).toOption.getD p = root
  simp only [walk, hroot] at h ⊢
  cases hlist : fs.list root with
  | error e =>
    rw [hlist] at h
    cases h
  | ok entries =>
    have hwhole := FileSystem.wellFormed_of_list hfs hlist
    refine ⟨_, .directory hroot hlist, ?_, gathers_walkEntries hwhole root⟩
    exact (sourceFiles_pathNe hwhole root).filter _

/-- A scan of a directory tells what its walk has found, unless the root could not be listed. -/
theorem scan_directory (fs : FileSystem) (p : Path) :
    scan fs (.directory p) =
      match (walk fs p).rootError with
      | some e => .error (.unreadable p e)
      | none => .ok (.ofFinds (some (walk fs p).tree) (walk fs p).finds) := by
  rfl

/-- **What a scan finds are accounts of the files of its target.** -/
theorem gathers_of_scan {outcome : Outcome} (hfs : fs.WellFormed)
    (htarget : target.paths.Pairwise fun p q => compare p q ≠ .eq)
    (h : scan fs target = .ok outcome) :
    ∃ tree found scanned, outcome = .ofFinds tree found ∧ target.Scans fs scanned ∧
      scanned.Pairwise ReadFile.PathNe ∧ found.Gathers scanned := by
  cases target with
  | directory p =>
    rw [scan_directory] at h
    cases herror : (walk fs p).rootError with
    | some e =>
      simp only [herror] at h
      cases h
    | none =>
      simp only [herror, Except.ok.injEq] at h
      obtain ⟨scanned, hscans, hdiffer, hgathers⟩ := gathers_of_walk hfs herror
      exact ⟨_, _, scanned, h.symm, hscans, hdiffer, hgathers⟩
  | file p =>
    obtain ⟨found, hfound, houtcome⟩ := exists_of_bind_ok h
    obtain ⟨scanned, hpaths, hreads, hdiffer, hgathers⟩ := gathers_of_scanFiles htarget hfound
    obtain ⟨f, rfl, rfl⟩ := List.map_eq_singleton_iff.1 hpaths
    cases houtcome
    exact ⟨_, _, _, rfl, .file (hreads f List.mem_cons_self), hdiffer, hgathers⟩
  | files ps =>
    obtain ⟨found, hfound, houtcome⟩ := exists_of_bind_ok h
    obtain ⟨scanned, rfl, hreads, hdiffer, hgathers⟩ := gathers_of_scanFiles htarget hfound
    cases houtcome
    exact ⟨_, _, _, rfl, .files hreads, hdiffer, hgathers⟩

end Survey

end ImportCensus
