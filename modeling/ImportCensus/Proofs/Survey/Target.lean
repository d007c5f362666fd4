/-
ImportCensus/Proofs/Survey/Target.lean

What targets are made from, and that they can be surveyed.

Several paths are resolved one after the other, and the first one that does not lead to a source file decides
what is wrong.  If all do, the target keeps their paths without links and dots, and of those that are the same
the first: each path stays that has no equal before it (`distinct_eq_firstOccurrences`).  A path without links
and dots leads again to the entry that it was made for, so that a survey finds there what was found before.

Main statements: a file system whose names and paths are not too long is readable (`isReadable_of_fits`);
which paths make a target, what is wrong with the others, and that a target can be surveyed
(`target_of_paths`).
-/
import ImportCensus.Proofs.FileSystem.Resolve
import ImportCensus.Proofs.Path.Bytes
import ImportCensus.Proofs.Survey.Agreement
import Mathlib.Data.Finset.Card
import Mathlib.Data.List.FinRange

namespace ImportCensus

/-! ### Computations on lists -/

section Except

variable {ε α β : Type} {f : α → Except ε β} {as : List α} {bs : List β} {e : ε}

theorem bind_eq_error_iff {x : Except ε α} :
    x >>= f = .error e ↔ x = .error e ∨ ∃ a, x = .ok a ∧ f a = .error e := by
  cases x with
  | error e' => simp [bind, Except.bind]
  | ok a => simp [bind, Except.bind]

theorem mapM_eq_ok_iff : as.mapM f = .ok bs ↔ List.Forall₂ (fun a b => f a = .ok b) as bs := by
  induction as generalizing bs with
  | nil =>
    rw [List.forall₂_nil_left_iff]
    constructor
    · intro h
      cases h
      rfl
    · rintro rfl
      rfl
  | cons a as ih =>
    rw [List.mapM_cons, bind_eq_ok_iff, List.forall₂_cons_left_iff]
    simp only [bind_eq_ok_iff, ih]
    constructor
    · rintro ⟨b, hb, rest, hrest, hbs⟩
      cases hbs
      exact ⟨b, rest, hb, hrest, rfl⟩
    · rintro ⟨b, rest, hb, hrest, rfl⟩
      exact ⟨b, hb, rest, hrest, rfl⟩

/-- The first member that fails decides how a list fails. -/
theorem mapM_eq_error_iff : as.mapM f = .error e ↔
    ∃ before a after, as = before ++ a :: after ∧ (∀ x ∈ before, ∃ b, f x = .ok b) ∧ f a = .error e := by
  induction as with
  | nil => simp [pure, Except.pure]
  | cons a as ih =>
    rw [List.mapM_cons, bind_eq_error_iff]
    constructor
    · rintro (ha | ⟨b, hb, hrest⟩)
      · exact ⟨[], a, as, rfl, by simp, ha⟩
      · -- the first member is fine, so the rest decides; putting the results together cannot fail
        rcases bind_eq_error_iff.1 hrest with hrest | ⟨bs, -, hpure⟩
        · obtain ⟨before, c, after, rfl, hbefore, hc⟩ := ih.1 hrest
          exact ⟨a :: before, c, after, rfl, List.forall_mem_cons.2 ⟨⟨b, hb⟩, hbefore⟩, hc⟩
        · cases hpure
    · rintro ⟨before, c, after, heq, hbefore, hc⟩
      cases before with
      | nil =>
        cases heq
        exact .inl hc
      | cons a' before =>
        cases heq
        obtain ⟨⟨b, hb⟩, hbefore⟩ := List.forall_mem_cons.1 hbefore
        exact .inr ⟨b, hb, bind_eq_error_iff.2 (.inl (ih.2 ⟨before, c, after, rfl, hbefore, hc⟩))⟩

end Except

/-! ### Readable file systems -/

namespace FileSystem

/-- Can all be read that a survey may come to: each file and each directory at the path of its place, and no
entry of another kind with the name of a source file? -/
structure IsReadable (fs : FileSystem) : Prop where
  file : ∀ place contents, fs.root.find? place = some (.file contents) →
    fs.read (pathOf place) = .ok contents
  directory : ∀ place entries, fs.root.find? place = some (.directory entries) →
    fs.list (pathOf place) = .ok entries
  other : ∀ place, fs.root.find? place = some .other → isSourcePath (pathOf place) = false

variable {fs : FileSystem} {p path : Path}

/-- A file system is readable if its names and the paths of its places are not too long. -/
theorem isReadable_of_fits (hfs : fs.WellFormed)
    (hfits : ∀ place n, fs.root.find? place = some n → fits (pathOf place) = true ∧
      ∀ name ∈ place, name.utf8ByteSize ≤ nameLimit ∧ '\x00' ∉ name.toList)
    (hroot : fs.root.isDirectory = true)
    (hother : ∀ place, fs.root.find? place = some .other → isSourcePath (pathOf place) = false) :
    fs.IsReadable := by
  have hlocate : ∀ place n, fs.root.find? place = some n → (∀ target, n ≠ .link target) →
      fs.locate (pathOf place) = .ok (place, n) := by
    intro place n hfind hn
    obtain ⟨hpath, hnames⟩ := hfits place n hfind
    obtain ⟨entries, hentries⟩ : ∃ entries, fs.root = .directory entries := by
      cases hnode : fs.root with
      | directory entries => exact ⟨entries, rfl⟩
      | _ => simp [hnode, Node.isDirectory] at hroot
    have htext : checkText (pathOf place) = .ok () :=
      checkText_pathOf (fun name hname => (hnames name hname).2) hpath
    exact locate_pathOf (Node.isEntryName_of_find? hfs hfind) hentries hfind hn htext
      fun name hname => (hnames name hname).1
  refine ⟨?_, ?_, hother⟩
  · intro place contents hfind
    rw [read, hlocate place _ hfind (Node.file_ne_link _)]
    rfl
  · intro place entries hfind
    rw [list, hlocate place _ hfind (Node.directory_ne_link _)]
    rfl

theorem isDirectory_of_locate {place : Place} {n : Node} (h : fs.locate p = .ok (place, n)) :
    fs.isDirectory p = n.isDirectory := by
  rw [isDirectory, h]

/-- A directory is listed at its path without links and dots. -/
theorem IsReadable.exists_list (h : fs.IsReadable) (hp : fs.canonical p = .ok path)
    (hdirectory : fs.isDirectory p = true) : ∃ entries, fs.list path = .ok entries := by
  obtain ⟨place, n, hlocate, -, rfl⟩ := canonical_eq_ok_iff.1 hp
  rw [isDirectory_of_locate hlocate] at hdirectory
  cases n with
  | directory entries => exact ⟨entries, h.directory place entries (find?_of_locate hlocate)⟩
  | _ => cases hdirectory

theorem isDirectory_of_list {entries : Listing} (h : fs.list p = .ok entries) :
    fs.isDirectory p = true := by
  obtain ⟨⟨place, n⟩, hlocate, hlisted⟩ := exists_of_bind_ok h
  rw [isDirectory_of_locate hlocate]
  cases n with
  | directory _ => rfl
  | _ => cases hlisted

/-- A source file is read at its path without links and dots. -/
theorem IsReadable.exists_read (h : fs.IsReadable) (hp : fs.canonical p = .ok path)
    (hfile : fs.isDirectory p = false) (hsource : isSourcePath path = true) :
    ∃ contents, fs.read path = .ok contents := by
  obtain ⟨place, n, hlocate, -, rfl⟩ := canonical_eq_ok_iff.1 hp
  have hfind := find?_of_locate hlocate
  rw [isDirectory_of_locate hlocate] at hfile
  cases n with
  | file contents => exact ⟨contents, h.file place contents hfind⟩
  | directory entries => cases hfile
  | link target => exact absurd rfl (not_link_of_locate hlocate target)
  | other =>
    rw [h.other place hfind] at hsource
    cases hsource

end FileSystem

namespace Survey

variable {fs : FileSystem} {p path : Path} {ps : List Path} {problem : Problem} {target : Target}

/-! ### Source files -/

/-- Does the name at the end of a path end in a suffix of source files? -/
def HasSourceSuffix (path : Path) : Prop :=
  ∃ name, path.components.getLast? = some (.name name) ∧
    ∃ suffix ∈ [".js", ".jsx", ".ts", ".tsx"], suffix.toList <:+ name.toList

/-- Does a path lead to a source file, and is this its path without links and dots? -/
structure IsSourceAt (fs : FileSystem) (p path : Path) : Prop where
  canonical : fs.canonical p = .ok path
  notDirectory : fs.isDirectory p = false
  suffix : HasSourceSuffix path

/-- What is wrong with a path that does not lead to a source file. -/
inductive Offends (fs : FileSystem) (p : Path) : Problem → Prop
  | missing (h : fs.has p = false) : Offends fs p (.notFound p)
  /-- What is there, or an entry on the way to it, has a plainest path that is too long. -/
  | tooDeep (h : fs.fitsWay p = false) : Offends fs p (.notFound p)
  | directory {path : Path} (h : fs.canonical p = .ok path) (hdirectory : fs.isDirectory p = true) :
      Offends fs p (.notAFile path)
  | suffix {path : Path} (h : fs.canonical p = .ok path) (hfile : fs.isDirectory p = false)
      (hsuffix : ¬HasSourceSuffix path) : Offends fs p (.unsupported path)

theorem isSourcePath_iff : isSourcePath path = true ↔ HasSourceSuffix path := by
  rw [isSourcePath_eq, Path.fileName?, HasSourceSuffix]
  cases path.components.getLast? with
  | none => simp
  | some c =>
    cases c with
    | name name => simp [isSourceName, sourceSuffixes]
    | _ => simp

theorem resolve_eq_ok_iff {b : Bool} :
    resolve fs p = .ok (path, b) ↔ fs.canonical p = .ok path ∧ fs.isDirectory p = b := by
  rw [resolve]
  cases fs.canonical p <;> simp

theorem resolve_eq_error_iff : resolve fs p = .error problem ↔
    (fs.has p = false ∨ fs.fitsWay p = false) ∧ problem = .notFound p := by
  rw [resolve, ← FileSystem.canonical_eq_error_iff]
  cases fs.canonical p <;> simp [eq_comm]

theorem resolveSource_eq_ok_iff : resolveSource fs p = .ok path ↔ IsSourceAt fs p path := by
  rw [resolveSource, bind_eq_ok_iff]
  constructor
  · rintro ⟨⟨found, b⟩, hresolve, hchecked⟩
    obtain ⟨hcanonical, hdirectory⟩ := resolve_eq_ok_iff.1 hresolve
    dsimp only at hchecked
    split at hchecked
    · cases hchecked
    · next hb =>
      split at hchecked
      · cases hchecked
      · next hsource =>
        cases hchecked
        refine ⟨hcanonical, ?_, isSourcePath_iff.1 ?_⟩
        · rw [hdirectory, Bool.eq_false_iff]
          exact hb
        · simpa using hsource
  · rintro ⟨hcanonical, hdirectory, hsuffix⟩
    refine ⟨(path, false), resolve_eq_ok_iff.2 ⟨hcanonical, hdirectory⟩, ?_⟩
    simp [isSourcePath_iff.2 hsuffix]
    rfl

theorem resolveSource_eq_error_iff : resolveSource fs p = .error problem ↔ Offends fs p problem := by
  rw [resolveSource, bind_eq_error_iff, resolve_eq_error_iff]
  constructor
  · rintro (⟨hmissing | hdeep, rfl⟩ | ⟨⟨found, b⟩, hresolve, hchecked⟩)
    · exact .missing hmissing
    · exact .tooDeep hdeep
    · obtain ⟨hcanonical, hdirectory⟩ := resolve_eq_ok_iff.1 hresolve
      dsimp only at hchecked
      split at hchecked
      · next hb =>
        cases hchecked
        exact .directory hcanonical (hdirectory.trans hb)
      · next hb =>
        split at hchecked
        · next hsource =>
          cases hchecked
          refine .suffix hcanonical ?_ fun hsuffix => ?_
          · rw [hdirectory, Bool.eq_false_iff]
            exact hb
          · simp [isSourcePath_iff.2 hsuffix] at hsource
        · cases hchecked
  · rintro (hmissing | hdeep | ⟨hcanonical, hdirectory⟩ | ⟨hcanonical, hfile, hsuffix⟩)
    · exact .inl ⟨.inl hmissing, rfl⟩
    · exact .inl ⟨.inr hdeep, rfl⟩
    · exact .inr ⟨_, resolve_eq_ok_iff.2 ⟨hcanonical, hdirectory⟩, rfl⟩
    · refine .inr ⟨_, resolve_eq_ok_iff.2 ⟨hcanonical, hfile⟩, ?_⟩
      rw [← isSourcePath_iff, Bool.not_eq_true] at hsuffix
      simp [hsuffix]

/-! ### Paths that stand for the first time -/

/-- Has a path of a list no equal before it, spellings of one path counting as equal? -/
def StandsFirst (ps : List Path) (i : Fin ps.length) : Prop :=
  ∀ j < i, (ps.get j).components ≠ (ps.get i).components

instance (ps : List Path) : DecidablePred (StandsFirst ps) :=
  fun i => inferInstanceAs (Decidable (∀ j < i, (ps.get j).components ≠ (ps.get i).components))

/-- The paths of a list that have no equal before them. -/
def firstOccurrences (ps : List Path) : List Path :=
  ((List.finRange ps.length).filter (StandsFirst ps ·)).map ps.get

theorem standsFirst_zero (p : Path) (ps : List Path) : StandsFirst (p :: ps) 0 :=
  fun j hj => absurd hj (Fin.not_lt_zero j)

/-- A later path has no equal before it if neither the first path nor another one is equal to it. -/
theorem standsFirst_succ (p : Path) (ps : List Path) (i : Fin ps.length) :
    StandsFirst (p :: ps) i.succ ↔ p.same (ps.get i) = false ∧ StandsFirst ps i := by
  rw [Path.same, beq_eq_false_iff_ne]
  constructor
  · intro h
    exact ⟨h 0 (Fin.succ_pos i), fun j hj => h j.succ (Fin.succ_lt_succ_iff.2 hj)⟩
  · rintro ⟨hfirst, hothers⟩ j hj
    cases j using Fin.cases with
    | zero => exact hfirst
    | succ j => exact hothers j (Fin.succ_lt_succ_iff.1 hj)

/-- **Of paths that are the same, the first one is kept.** -/
theorem distinct_eq_firstOccurrences (ps : List Path) : distinct ps = firstOccurrences ps := by
  induction ps with
  | nil => rfl
  | cons p ps ih =>
    have hrange : List.finRange (p :: ps).length = 0 :: (List.finRange ps.length).map Fin.succ :=
      List.finRange_succ
    -- behind the first path, those stay that differ from it, chosen from those chosen among themselves
    have hlater : (fun i => decide (StandsFirst (p :: ps) i)) ∘ Fin.succ
        = fun i => !p.same (ps.get i) && decide (StandsFirst ps i) := by
      funext i
      rw [Function.comp_apply, Bool.eq_iff_iff, decide_eq_true_iff, standsFirst_succ, Bool.and_eq_true,
        Bool.not_eq_true', decide_eq_true_iff]
    calc distinct (p :: ps)
        = p :: (firstOccurrences ps).filter (!p.same ·) := by rw [distinct, ih]
      _ = p :: ((List.finRange ps.length).filter
            fun i => !p.same (ps.get i) && decide (StandsFirst ps i)).map ps.get := by
          rw [firstOccurrences, List.filter_map, List.filter_filter]
          rfl
      _ = p :: (((List.finRange ps.length).map Fin.succ).filter (StandsFirst (p :: ps) ·)).map
            (p :: ps).get := by
          rw [List.filter_map, hlater, List.map_map]
          rfl
      _ = firstOccurrences (p :: ps) := by
          rw [firstOccurrences, hrange, List.filter_cons, if_pos (decide_eq_true (standsFirst_zero p ps))]
          rfl

/-- Of paths that are the same, one is kept. -/
theorem exists_mem_distinct (h : p ∈ ps) : ∃ q ∈ distinct ps, q.components = p.components := by
  induction ps with
  | nil => cases h
  | cons first ps ih =>
    by_cases hsame : first.components = p.components
    · exact ⟨first, List.mem_cons_self, hsame⟩
    · have hlater : p ∈ ps := by
        rcases List.mem_cons.1 h with rfl | hlater
        · exact absurd rfl hsame
        · exact hlater
      obtain ⟨q, hq, heq⟩ := ih hlater
      refine ⟨q, List.mem_cons_of_mem _ (List.mem_filter.2 ⟨hq, ?_⟩), heq⟩
      rw [Path.same, heq, Bool.not_eq_true', beq_eq_false_iff_ne]
      exact hsame

/-- As many paths are kept as there are different ones. -/
theorem length_distinct (ps : List Path) :
    (distinct ps).length = (ps.map Path.components).toFinset.card := by
  -- the components of the kept paths are those of all paths, and no components are there twice
  have hnodup : ((distinct ps).map Path.components).Nodup := by
    rw [List.Nodup, List.pairwise_map]
    exact (pairwise_distinct ps).imp fun hne => mt Path.compare_eq_iff_components.2 hne
  have hsame : ((distinct ps).map Path.components).toFinset = (ps.map Path.components).toFinset := by
    ext cs
    rw [List.mem_toFinset, List.mem_toFinset, List.mem_map, List.mem_map]
    constructor
    · rintro ⟨q, hq, rfl⟩
      exact ⟨q, mem_of_mem_distinct hq, rfl⟩
    · rintro ⟨q, hq, rfl⟩
      exact exists_mem_distinct hq
  rw [← hsame, List.toFinset_card_of_nodup hnodup, List.length_map]

/-! ### Targets of several files -/

theorem ofFiles_eq_ok_iff : Target.ofFiles fs ps = .ok target ↔
    ps ≠ [] ∧ ∃ paths, List.Forall₂ (IsSourceAt fs) ps paths ∧ target = .files (firstOccurrences paths) := by
  cases ps with
  | nil => simp [Target.ofFiles]
  | cons p ps =>
    have hfiles : Target.ofFiles fs (p :: ps)
        = (p :: ps).mapM (resolveSource fs) >>= fun paths => .ok (.files (distinct paths)) := rfl
    rw [hfiles, bind_eq_ok_iff]
    simp only [mapM_eq_ok_iff, resolveSource_eq_ok_iff, distinct_eq_firstOccurrences, Except.ok.injEq]
    constructor
    · rintro ⟨paths, hsources, rfl⟩
      exact ⟨List.cons_ne_nil p ps, paths, hsources, rfl⟩
    · rintro ⟨-, paths, hsources, rfl⟩
      exact ⟨paths, hsources, rfl⟩

theorem ofFiles_eq_error_iff : Target.ofFiles fs ps = .error problem ↔
    ps = [] ∧ problem = .noTargets ∨
      ∃ before p after, ps = before ++ p :: after ∧ (∀ q ∈ before, ∃ path, IsSourceAt fs q path) ∧
        Offends fs p problem := by
  cases ps with
  | nil => simp [Target.ofFiles, eq_comm]
  | cons p ps =>
    have hfiles : Target.ofFiles fs (p :: ps)
        = (p :: ps).mapM (resolveSource fs) >>= fun paths => .ok (.files (distinct paths)) := rfl
    rw [hfiles, bind_eq_error_iff, mapM_eq_error_iff]
    simp only [resolveSource_eq_ok_iff, resolveSource_eq_error_iff]
    simp

/-! ### Surveys of targets -/

theorem filesScanned_ofFinds (tree : Option SourceTree) (found : Finds) :
    (Outcome.ofFinds tree found).filesScanned = found.filesScanned := by
  rw [Outcome.ofFinds]
  split <;> rfl

theorem exists_scanned (hread : ∀ q ∈ ps, ∃ contents, fs.read q = .ok contents) :
    ∃ scanned : List ReadFile, scanned.map (·.path) = ps ∧
      ∀ f ∈ scanned, fs.read f.path = .ok f.contents := by
  induction ps with
  | nil => exact ⟨[], rfl, by simp⟩
  | cons p ps ih =>
    obtain ⟨⟨contents, hp⟩, hps⟩ := List.forall_mem_cons.1 hread
    obtain ⟨scanned, rfl, hreads⟩ := ih hps
    exact ⟨⟨p, contents⟩ :: scanned, rfl, List.forall_mem_cons.2 ⟨hp, hreads⟩⟩

/-- Files that can be read are surveyed, each of them once. -/
theorem exists_scanFiles_of_read (hread : ∀ q ∈ ps, ∃ contents, fs.read q = .ok contents)
    (hdiffer : ps.Pairwise fun p q => compare p q ≠ .eq) :
    ∃ found, scanFiles fs ps = .ok found ∧ found.filesScanned = ps.length := by
  obtain ⟨scanned, rfl, hreads⟩ := exists_scanned hread
  rw [List.pairwise_map] at hdiffer
  obtain ⟨found, hfound, hgathers⟩ := exists_scanFiles hreads hdiffer
  exact ⟨found, hfound, hgathers.scanned.trans (List.length_map _).symm⟩

/-- A directory is surveyed if it can be listed. -/
theorem exists_scan_directory (h : fs.IsReadable) (hp : fs.canonical p = .ok path)
    (hdirectory : fs.isDirectory p = true) : ∃ outcome, scan fs (.directory path) = .ok outcome := by
  obtain ⟨entries, hlist⟩ := h.exists_list hp hdirectory
  -- the walk looks for the path without links and dots once more, and lists what it finds
  obtain ⟨others, hothers⟩ : ∃ others, fs.list ((fs.canonical path).toOption.getD path) = .ok others := by
    cases hroot : fs.canonical path with
    | error e => exact ⟨entries, hlist⟩
    | ok root => exact h.exists_list hroot (FileSystem.isDirectory_of_list hlist)
  rw [scan_directory]
  simp only [walk, hothers]
  exact ⟨_, rfl⟩

theorem IsSourceAt.exists_read (h : IsSourceAt fs p path) (hfs : fs.IsReadable) :
    ∃ contents, fs.read path = .ok contents :=
  hfs.exists_read h.canonical h.notDirectory (isSourcePath_iff.2 h.suffix)

theorem exists_read_of_sources (hfs : fs.IsReadable) {paths : List Path}
    (h : List.Forall₂ (IsSourceAt fs) ps paths) : ∀ q ∈ paths, ∃ contents, fs.read q = .ok contents := by
  induction h with
  | nil => simp
  | cons hp _ ih => exact List.forall_mem_cons.2 ⟨hp.exists_read hfs, ih⟩

theorem exists_scan_ofFiles (hfs : fs.IsReadable) (h : Target.ofFiles fs ps = .ok target) :
    ∃ outcome, scan fs target = .ok outcome ∧
      ∃ paths, List.Forall₂ (fun p path => fs.canonical p = .ok path) ps paths ∧
        outcome.filesScanned = (paths.map Path.components).toFinset.card := by
  obtain ⟨-, paths, hsources, rfl⟩ := ofFiles_eq_ok_iff.1 h
  have hread : ∀ q ∈ distinct paths, ∃ contents, fs.read q = .ok contents :=
    fun q hq => exists_read_of_sources hfs hsources q (mem_of_mem_distinct hq)
  obtain ⟨found, hscan, hscanned⟩ := exists_scanFiles_of_read hread (pairwise_distinct paths)
  refine ⟨.ofFinds none found, ?_, paths, hsources.imp fun _ _ => IsSourceAt.canonical, ?_⟩
  · rw [scan, ← distinct_eq_firstOccurrences, hscan]
    rfl
  · rw [filesScanned_ofFinds, hscanned, length_distinct]

theorem exists_scan_ofFile (hfs : fs.IsReadable) (h : Target.ofFile fs p = .ok target) :
    ∃ outcome, scan fs target = .ok outcome := by
  obtain ⟨path, hpath, htarget⟩ := exists_of_bind_ok h
  cases htarget
  have hread : ∀ q ∈ [path], ∃ contents, fs.read q = .ok contents :=
    List.forall_mem_singleton.2 ((resolveSource_eq_ok_iff.1 hpath).exists_read hfs)
  obtain ⟨found, hscan, -⟩ := exists_scanFiles_of_read hread (List.pairwise_singleton _ _)
  exact ⟨.ofFinds none found, by rw [scan, hscan]; rfl⟩

theorem ofPaths_eq_ofFiles (fs : FileSystem) (h : 2 ≤ ps.length) :
    Target.ofPaths fs ps = Target.ofFiles fs ps := by
  rcases ps with _ | ⟨p, _ | ⟨p', ps⟩⟩
  · cases h
  · simp at h
  · rfl

/-- A target that paths name can be surveyed. -/
theorem exists_scan_ofPaths (hfs : fs.IsReadable) (h : Target.ofPaths fs ps = .ok target) :
    ∃ outcome, scan fs target = .ok outcome := by
  rcases ps with _ | ⟨p, _ | ⟨p', ps⟩⟩
  · cases h
  · obtain ⟨⟨path, isDirectory⟩, hresolve, hkind⟩ := exists_of_bind_ok h
    obtain ⟨hcanonical, hdirectory⟩ := resolve_eq_ok_iff.1 hresolve
    cases isDirectory with
    | true =>
      cases hkind
      exact exists_scan_directory hfs hcanonical hdirectory
    | false => exact exists_scan_ofFile hfs hkind
  · obtain ⟨outcome, hscan, -⟩ := exists_scan_ofFiles hfs h
    exact ⟨outcome, hscan⟩

end Survey

end ImportCensus
