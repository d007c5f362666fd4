/-
ImportCensus/Proofs/Survey/Removal.lean

What a survey of some paths depends on.

A survey looks at the entries to which the paths lead, and it reads the source files that it scans
(`LooksAt`).  A file that is neither of these can be another one, or not be there: no path leads elsewhere for
that, and a walk that comes to the directory of the file finds the same.  It may skip an entry more or less,
but nothing that it shows tells of that (`Finds.shown`).

Main statements: the removal of a file that is not read leaves what a walk shows
(`shown_walkEntries_change`), and in file systems that are the same but for a file at which a survey does not
look, the survey has the same target and the same outcome (`sameSurvey_of_sameBut`).
-/
import ImportCensus.Proofs.FileSystem.Removal
import ImportCensus.Proofs.Survey.Agreement

namespace ImportCensus.Survey

open Text Node

variable {path : Path} {name : String} {entries entries' : Listing} {names : Place}

/-! ### What is shown -/

/-- What was found, however much could not be read. -/
def Finds.shown (f : Finds) : Finds :=
  { f with skipped := 0 }

theorem Finds.shown_children (f : Finds) : f.shown.children = f.children := rfl

theorem Finds.shown_append (a b : Finds) : (a ++ b).shown = a.shown ++ b.shown := rfl

theorem Finds.shown_inDirectory (f : Finds) (name : String) (path : Path) :
    (f.inDirectory name path).shown = f.shown.inDirectory name path := rfl

theorem Finds.shown_unreadable : Finds.unreadable.shown = .none := rfl

/-- How much could not be read is not told. -/
theorem Outcome.ofFinds_shown (tree : Option SourceTree) (f : Finds) :
    ofFinds tree f.shown = ofFinds tree f := rfl

/-! ### Entries of one directory -/

/-- An entry in which no directory is found can be removed. -/
theorem walkDirectories_removeEntry
    (h : ∀ n, (name, n) ∈ entries → walkNode name (path.child name) n = .none) :
    walkDirectories path (removeEntry name entries) = walkDirectories path entries := by
  induction entries with
  | nil => rfl
  | cons e r ih =>
    obtain ⟨other, n⟩ := e
    have hr := ih fun n hn => h n (List.mem_cons_of_mem _ hn)
    rw [removeEntry, List.filter_cons]
    split
    · rw [walkDirectories, walkDirectories, ← hr]
      rfl
    · next hother =>
      obtain rfl : other = name := by simpa using hother
      rw [walkDirectories, h n List.mem_cons_self, Finds.none_append]
      exact hr

/-- A file that is not read can be removed. -/
theorem shown_walkFiles_removeEntry
    (h : ∀ contents, (name, .file contents) ∈ entries → isSourceName name = true →
      FileSystem.fits (path.child name) = false) :
    (walkFiles path (removeEntry name entries)).shown = (walkFiles path entries).shown := by
  induction entries with
  | nil => rfl
  | cons e r ih =>
    obtain ⟨other, n⟩ := e
    have hr := ih fun contents hcontents => h contents (List.mem_cons_of_mem _ hcontents)
    rw [removeEntry, List.filter_cons]
    split
    · cases n with
      | file contents =>
        rw [walkFiles, walkFiles]
        split
        · rw [Finds.shown_append, Finds.shown_append, ← hr]
          rfl
        · exact hr
      | _ => exact hr
    · next hother =>
      obtain rfl : other = name := by simpa using hother
      cases n with
      | file contents =>
        rw [walkFiles]
        split
        · next hsource =>
          rw [walkFile, h contents List.mem_cons_self hsource, if_neg Bool.false_ne_true,
            Finds.shown_append, Finds.shown_unreadable, Finds.none_append]
          exact hr
        · exact hr
      | _ => exact hr

/-- An entry can be changed if what is found in it is shown as before. -/
theorem shown_walkDirectories_putEntry {n n' : Node} (h : entry? name entries = some n)
    (hshown : (walkNode name (path.child name) n').shown = (walkNode name (path.child name) n).shown) :
    (walkDirectories path (putEntry name n' entries)).shown = (walkDirectories path entries).shown := by
  induction entries with
  | nil => cases h
  | cons e r ih =>
    obtain ⟨other, m⟩ := e
    rw [entry?_cons] at h
    rw [putEntry]
    split
    · next hother =>
      obtain rfl : other = name := hother
      rw [if_pos rfl] at h
      cases h
      rw [walkDirectories, walkDirectories, Finds.shown_append, Finds.shown_append, hshown]
    · next hother =>
      rw [if_neg hother] at h
      rw [walkDirectories, walkDirectories, Finds.shown_append, Finds.shown_append, ih h]

/-- Directories do not count among the files. -/
theorem walkFiles_putEntry {below : Listing} (h : entry? name entries = some (.directory below))
    (below' : Listing) :
    walkFiles path (putEntry name (.directory below') entries) = walkFiles path entries := by
  induction entries with
  | nil => cases h
  | cons e r ih =>
    obtain ⟨other, m⟩ := e
    rw [entry?_cons] at h
    rw [putEntry]
    split
    · next hother =>
      rw [if_pos hother] at h
      cases h
      rfl
    · next hother =>
      rw [if_neg hother] at h
      cases m with
      | file contents => rw [walkFiles, walkFiles, ih h]
      | _ => exact ih h

/-! ### Files below a directory -/

/-- What is read in a directory is read from above, unless the directory is left out. -/
theorem mem_readable_of_entry {below : Listing} (h : (Node.directory entries).WellFormed)
    (hentry : entry? name entries = some (.directory below)) (hname : isExcludedDirectory name = false)
    {f : ReadFile} (hf : f ∈ readable (sourceFiles (path.child name) below)) :
    f ∈ readable (sourceFiles path entries) := by
  obtain ⟨hsource, hfits⟩ := List.mem_filter.1 hf
  have hbelow : (Node.directory below).WellFormed := h.entry _ (mem_of_lookup hentry)
  obtain ⟨directories, last, hpath, hfind, hlast, hdirectories⟩ := (mem_sourceFiles hbelow).1 hsource
  have hfound : (Node.directory entries).find? (name :: (directories ++ [last])) = some (.file f.contents) :=
    find?_directory_cons.2 ⟨_, hentry, hfind⟩
  have hin : ∀ d ∈ name :: directories, isExcludedDirectory d = false :=
    List.forall_mem_cons.2 ⟨hname, hdirectories⟩
  exact List.mem_filter.2
    ⟨(mem_sourceFiles h).2 ⟨name :: directories, last, hpath, hfound, hlast, hin⟩, hfits⟩

/-- What is shown of a directory is what is shown of its entries, unless it is left out. -/
theorem shown_walkNode (h : isExcludedDirectory name = false →
      (walkEntries path entries').shown = (walkEntries path entries).shown) :
    (walkNode name path (.directory entries')).shown = (walkNode name path (.directory entries)).shown := by
  rw [walkNode, walkNode]
  split
  · rfl
  · next hname =>
    have hentries := h (by simpa using hname)
    rw [walkEntries, walkEntries] at hentries
    split
    · rfl
    · rw [Finds.shown_inDirectory, Finds.shown_inDirectory, hentries]

/-- Is an entry some way below a directory a file that a walk does not read, or is there none? -/
def IsUnread (path : Path) (entries : Listing) (place : Place) : Prop :=
  ∀ n, (Node.directory entries).find? place = some n →
    (∃ contents, n = .file contents) ∧
      ∀ f ∈ readable (sourceFiles path entries), f.path ≠ path.below place

/-- What is not read seen from above is not read seen from below. -/
theorem IsUnread.of_entry {below : Listing} {place : Place} (h : (Node.directory entries).WellFormed)
    (hunread : IsUnread path entries (name :: place))
    (hentry : entry? name entries = some (.directory below)) (hname : isExcludedDirectory name = false) :
    IsUnread (path.child name) below place := by
  intro n hn
  obtain ⟨hfile, hpaths⟩ := hunread n (find?_directory_cons.2 ⟨_, hentry, hn⟩)
  exact ⟨hfile, fun f hf => hpaths f (mem_readable_of_entry h hentry hname hf)⟩

/-- The removal of a file of a directory. -/
theorem shown_walkEntries_removeEntry (h : (Node.directory entries).WellFormed)
    (hunread : IsUnread path entries [name]) :
    (walkEntries path (removeEntry name entries)).shown = (walkEntries path entries).shown := by
  have hfind : ∀ n, (name, n) ∈ entries → (Node.directory entries).find? [name] = some n := fun n hn =>
    find?_directory_cons.2 ⟨n, (entry?_eq_some_iff h.nodup).2 hn, rfl⟩
  rw [walkEntries, walkEntries, Finds.shown_append, Finds.shown_append, walkDirectories_removeEntry,
    shown_walkFiles_removeEntry]
  · intro contents hmem hsource
    rw [← Bool.not_eq_true]
    intro hfits
    have hread : ⟨path.child name, contents⟩ ∈ sourceFiles path entries :=
      (mem_sourceFiles h).2 ⟨[], name, rfl, hfind _ hmem, hsource, by simp⟩
    exact (hunread _ (hfind _ hmem)).2 _ (List.mem_filter.2 ⟨hread, hfits⟩) rfl
  · intro n hmem
    obtain ⟨⟨contents, rfl⟩, -⟩ := hunread n (hfind n hmem)
    rfl

/-- **The removal of a file that is not read leaves what a walk shows.** -/
theorem shown_walkEntries_change (h : (Node.directory entries).WellFormed)
    (hunread : IsUnread path entries (names ++ [name]))
    (hchange : change (removeEntry name) names (.directory entries) = .directory entries') :
    (walkEntries path entries').shown = (walkEntries path entries).shown := by
  induction names generalizing path entries entries' with
  | nil =>
    cases hchange
    exact shown_walkEntries_removeEntry h hunread
  | cons next names ih =>
    rw [change] at hchange
    cases hentry : entry? next entries with
    | none =>
      simp only [hentry] at hchange
      cases hchange
      rfl
    | some n =>
      simp only [hentry] at hchange
      cases hchange
      cases n with
      | directory below =>
        obtain ⟨below', hbelow'⟩ := exists_change_eq_directory (removeEntry name) names below
        rw [hbelow', walkEntries, walkEntries, Finds.shown_append, Finds.shown_append,
          walkFiles_putEntry hentry, shown_walkDirectories_putEntry hentry]
        apply shown_walkNode
        intro hnext
        exact ih (h.entry _ (mem_of_lookup hentry)) (hunread.of_entry h hentry hnext) hbelow'
      | _ => rw [change_of_isDirectory rfl, putEntry_self hentry]

/-! ### Targets -/

variable {fs fs' : FileSystem} {place : Place} {p : Path} {ps : List Path} {target : Target}

/-- Does a path lead elsewhere than to a place, if it leads anywhere? -/
def Avoids (fs : FileSystem) (place : Place) (p : Path) : Prop :=
  ∀ n, fs.locate p ≠ .ok (place, n)

/-- Is a path the plainest one of another entry, to which some path leads? -/
def IsPlainest (fs : FileSystem) (place : Place) (path : Path) : Prop :=
  ∃ p q n, fs.locate p = .ok (q, n) ∧ q ≠ place ∧ path = FileSystem.pathOf q

theorem IsPlainest.avoids (hfs : fs.WellFormed) (h : IsPlainest fs place path) : Avoids fs place path := by
  obtain ⟨p, q, n, hlocate, hq, rfl⟩ := h
  intro m hm
  have hfind := FileSystem.find?_of_locate hlocate
  obtain ⟨rfl, -⟩ := FileSystem.eq_of_locate_pathOf (Node.isEntryName_of_find? hfs hfind) hfind
    (FileSystem.not_link_of_locate hlocate) hm
  exact hq rfl

/-- In another file system, the path of another entry is that too. -/
theorem IsPlainest.of_sameBut (h : fs.SameBut place fs') (hpath : IsPlainest fs place path) :
    IsPlainest fs' place path := by
  obtain ⟨p, q, n, hlocate, hq, rfl⟩ := hpath
  obtain ⟨n', hlocate', -⟩ := h.locate hlocate hq
  exact ⟨p, q, n', hlocate', hq, rfl⟩

theorem isPlainest_of_resolve {b : Bool} (hp : Avoids fs place p) (h : resolve fs p = .ok (path, b)) :
    IsPlainest fs place path := by
  rw [resolve] at h
  split at h
  · next found hcanonical =>
    cases h
    obtain ⟨q, n, hlocate, -, rfl⟩ := FileSystem.canonical_eq_ok_iff.1 hcanonical
    refine ⟨p, q, n, hlocate, ?_, rfl⟩
    rintro rfl
    exact hp n hlocate
  · cases h

theorem isPlainest_of_resolveSource (hp : Avoids fs place p) (h : resolveSource fs p = .ok path) :
    IsPlainest fs place path := by
  obtain ⟨⟨found, b⟩, hresolve, hrest⟩ := exists_of_bind_ok h
  have hplainest := isPlainest_of_resolve hp hresolve
  dsimp only at hrest
  split at hrest
  · cases hrest
  · split at hrest
    · cases hrest
    · cases hrest
      exact hplainest

/-- Where a path leads does not depend on a file elsewhere, and neither does what is said if it leads
nowhere. -/
theorem resolve_of_sameBut (h : fs.SameBut place fs') (hp : Avoids fs place p) (hp' : Avoids fs' place p) :
    resolve fs' p = resolve fs p := by
  rw [resolve, resolve]
  cases hlocate : fs.locate p with
  | ok found =>
    obtain ⟨q, n⟩ := found
    have hq : q ≠ place := by
      rintro rfl
      exact hp n hlocate
    obtain ⟨n', hlocate', hsurface⟩ := h.locate hlocate hq
    have hdirectory : fs'.isDirectory p = fs.isDirectory p := by
      rw [FileSystem.isDirectory, FileSystem.isDirectory, hlocate, hlocate']
      rcases directories_or_eq hsurface with ⟨entries, entries', rfl, rfl⟩ | rfl
      · rfl
      · rfl
    rw [h.canonical hlocate hq, hdirectory]
  | error e =>
    cases hlocate' : fs'.locate p with
    | error e' =>
      rw [FileSystem.canonical, FileSystem.canonical, hlocate, hlocate']
      rfl
    | ok found =>
      -- a path that leads elsewhere in the one leads there in the other
      obtain ⟨q, n⟩ := found
      have hq : q ≠ place := by
        rintro rfl
        exact hp' n hlocate'
      obtain ⟨n', hfound, -⟩ := h.symm.locate hlocate' hq
      rw [hlocate] at hfound
      cases hfound

theorem resolveSource_of_sameBut (h : fs.SameBut place fs') (hp : Avoids fs place p)
    (hp' : Avoids fs' place p) : resolveSource fs' p = resolveSource fs p := by
  rw [resolveSource, resolveSource, resolve_of_sameBut h hp hp']

namespace Target

/-- **The target of a survey does not depend on a file to which none of its paths leads.** -/
theorem ofPaths_of_sameBut (h : fs.SameBut place fs') (hfs : fs.WellFormed) (hfs' : fs'.WellFormed)
    (hps : ∀ p ∈ ps, Avoids fs place p) (hps' : ∀ p ∈ ps, Avoids fs' place p) :
    ofPaths fs' ps = ofPaths fs ps := by
  have hsources : ps.mapM (resolveSource fs') = ps.mapM (resolveSource fs) := by
    induction ps with
    | nil => rfl
    | cons p r ih =>
      obtain ⟨hp, hr⟩ := List.forall_mem_cons.1 hps
      obtain ⟨hp', hr'⟩ := List.forall_mem_cons.1 hps'
      rw [List.mapM_cons, List.mapM_cons, resolveSource_of_sameBut h hp hp', ih hr hr']
  rcases ps with _ | ⟨p, _ | ⟨p', r⟩⟩
  · rfl
  · have hp := hps p List.mem_cons_self
    rw [ofPaths, ofPaths, resolve_of_sameBut h hp (hps' p List.mem_cons_self)]
    cases hresolve : resolve fs p with
    | error e => rfl
    | ok found =>
      have hplainest := isPlainest_of_resolve hp hresolve
      show (if _ then _ else ofFile fs' found.1) = if _ then _ else ofFile fs found.1
      rw [ofFile, ofFile, resolveSource_of_sameBut h (hplainest.avoids hfs)
        ((hplainest.of_sameBut h).avoids hfs')]
  · show ofFiles fs' (p :: p' :: r) = ofFiles fs (p :: p' :: r)
    rw [ofFiles, ofFiles, hsources]

theorem isPlainest_of_mapM {paths : List Path} (hps : ∀ p ∈ ps, Avoids fs place p)
    (h : ps.mapM (resolveSource fs) = .ok paths) : ∀ path ∈ paths, IsPlainest fs place path := by
  induction ps generalizing paths with
  | nil =>
    cases h
    simp
  | cons p r ih =>
    obtain ⟨hp, hr⟩ := List.forall_mem_cons.1 hps
    rw [List.mapM_cons] at h
    obtain ⟨first, hfirst, hmore⟩ := exists_of_bind_ok h
    obtain ⟨rest, hrest, hpaths⟩ := exists_of_bind_ok hmore
    cases hpaths
    exact List.forall_mem_cons.2 ⟨isPlainest_of_resolveSource hp hfirst, ih hr hrest⟩

/-- The paths of a target are the plainest ones of the entries to which the given paths lead. -/
theorem isPlainest_of_ofPaths (hfs : fs.WellFormed) (hps : ∀ p ∈ ps, Avoids fs place p)
    (h : ofPaths fs ps = .ok target) : ∀ path ∈ target.paths, IsPlainest fs place path := by
  rcases ps with _ | ⟨p, _ | ⟨p', r⟩⟩
  · cases h
  · obtain ⟨⟨found, b⟩, hresolve, hkind⟩ := exists_of_bind_ok h
    have hplainest := isPlainest_of_resolve (hps p List.mem_cons_self) hresolve
    cases b with
    | true =>
      cases hkind
      simpa [paths] using hplainest
    | false =>
      obtain ⟨source, hsource, hfile⟩ := exists_of_bind_ok hkind
      cases hfile
      simpa [paths] using isPlainest_of_resolveSource (hplainest.avoids hfs) hsource
  · have hfiles : ofFiles fs (p :: p' :: r) = .ok target := h
    rw [ofFiles] at hfiles
    obtain ⟨found, hfound, hdistinct⟩ := exists_of_bind_ok hfiles
    cases hdistinct
    intro path hpath
    exact isPlainest_of_mapM hps hfound path (mem_of_mem_distinct hpath)

end Target

/-! ### Scans -/

/-- What is found in single files depends on what is read there. -/
theorem readFiles_congr (h : ∀ p ∈ ps, fs'.read p = fs.read p) : readFiles fs' ps = readFiles fs ps := by
  induction ps with
  | nil => rfl
  | cons p r ih =>
    obtain ⟨hp, hr⟩ := List.forall_mem_cons.1 h
    rw [readFiles, readFiles, analyze, analyze, hp, ih hr]

theorem scanFiles_of_sameBut (h : fs.SameBut place fs') (hfs : fs.WellFormed) (hfs' : fs'.WellFormed)
    (hps : ∀ p ∈ ps, IsPlainest fs place p) : scanFiles fs' ps = scanFiles fs ps := by
  rw [scanFiles, scanFiles, readFiles_congr]
  intro p hp
  obtain ⟨p', q, n, hlocate, hq, rfl⟩ := hps p hp
  exact h.read_pathOf hfs hfs' hlocate hq

/-- The survey of a directory that was walked. -/
def Outcome.ofEntries (path : Path) (entries : Listing) : Outcome :=
  ofFinds (some (Walk.tree ⟨path, walkEntries path entries, none⟩)) (walkEntries path entries)

theorem Outcome.ofEntries_of_shown
    (h : (walkEntries path entries').shown = (walkEntries path entries).shown) :
    ofEntries path entries' = ofEntries path entries := by
  have hchildren : (walkEntries path entries').children = (walkEntries path entries).children := by
    rw [← Finds.shown_children, h, Finds.shown_children]
  rw [ofEntries, ofEntries, Walk.tree, Walk.tree, hchildren, ← ofFinds_shown _ (walkEntries path entries'),
    h, ofFinds_shown]

/-- A directory is walked from its plainest path. -/
theorem root_pathOf {q : Place} {n : Node} (hfs : fs.WellFormed) (h : fs.locate p = .ok (q, n)) :
    (fs.canonical (FileSystem.pathOf q)).toOption.getD (FileSystem.pathOf q) = FileSystem.pathOf q := by
  cases hcanonical : fs.canonical (FileSystem.pathOf q) with
  | error e => rfl
  | ok path =>
    obtain ⟨place, m, hlocate, -, rfl⟩ := FileSystem.canonical_eq_ok_iff.1 hcanonical
    have hfind := FileSystem.find?_of_locate h
    obtain ⟨rfl, -⟩ := FileSystem.eq_of_locate_pathOf (Node.isEntryName_of_find? hfs hfind) hfind
      (FileSystem.not_link_of_locate h) hlocate
    rfl

/-- A scan of a directory at its plainest path. -/
theorem scan_directory_pathOf {q : Place} {n : Node} (hfs : fs.WellFormed)
    (h : fs.locate p = .ok (q, n)) :
    scan fs (.directory (FileSystem.pathOf q))
      = match fs.list (FileSystem.pathOf q) with
        | .ok entries => .ok (.ofEntries (FileSystem.pathOf q) entries)
        | .error e => .error (.unreadable (FileSystem.pathOf q) e) := by
  rw [scan, walk, root_pathOf hfs h]
  cases fs.list (FileSystem.pathOf q) <;> rfl

/-- Is the file at a place none of those that a scan of a target reads? -/
def Target.Misses (target : Target) (fs : FileSystem) (place : Place) : Prop :=
  ∀ scanned, target.Scans fs scanned → ∀ f ∈ scanned, f.path ≠ FileSystem.pathOf place

/-- A file that is not scanned with its directory is not read in it. -/
theorem isUnread_of_misses {q : Place} (hfs : fs.WellFormed)
    (hlocate : fs.locate p = .ok (q, .directory entries)) (hcheck : FileSystem.checkPlace q = .ok ())
    (hfile : FileSystem.IsFileOrNothing fs.root (q ++ names))
    (hmisses : (Target.directory (FileSystem.pathOf q)).Misses fs (q ++ names)) :
    IsUnread (FileSystem.pathOf q) entries names := by
  intro n hn
  have hfind : fs.root.find? (q ++ names) = some n := by
    rw [Node.find?_append, FileSystem.find?_of_locate hlocate]
    exact hn
  have hscans : (Target.directory (FileSystem.pathOf q)).Scans fs
      (readable (sourceFiles (FileSystem.pathOf q) entries)) := by
    apply Target.Scans.directory (root_pathOf hfs hlocate)
    rw [FileSystem.list_pathOf_eq hfs hlocate, hcheck]
    rfl
  refine ⟨hfile n hfind, ?_⟩
  rw [FileSystem.below_pathOf (Node.isEntryName_of_find? hfs hfind)]
  exact hmisses _ hscans

/-- What is shown of a directory does not depend on a file that is not scanned. -/
theorem shown_walkEntries_of_sameBut {q : Place} (h : fs.SameBut place fs') (hfs : fs.WellFormed)
    (hfs' : fs'.WellFormed) (hlocate : fs.locate p = .ok (q, .directory entries))
    (hlocate' : fs'.locate p = .ok (q, .directory entries')) (hcheck : FileSystem.checkPlace q = .ok ())
    (hmisses : (Target.directory (FileSystem.pathOf q)).Misses fs place)
    (hmisses' : (Target.directory (FileSystem.pathOf q)).Misses fs' place) :
    (walkEntries (FileSystem.pathOf q) entries').shown
      = (walkEntries (FileSystem.pathOf q) entries).shown := by
  have hwell := FileSystem.wellFormed_of_locate hfs hlocate
  have hwell' := FileSystem.wellFormed_of_locate hfs' hlocate'
  rcases h.directory (FileSystem.find?_of_locate hlocate) (FileSystem.find?_of_locate hlocate') with
    rfl | ⟨names, name, rfl, hsame⟩
  · rfl
  · -- both walks show what a walk without the file shows
    obtain ⟨rest, hrest⟩ := exists_change_eq_directory (removeEntry name) names entries
    have hnot := isUnread_of_misses hfs hlocate hcheck h.before hmisses
    have hnot' := isUnread_of_misses hfs' hlocate' hcheck h.after hmisses'
    rw [← shown_walkEntries_change hwell hnot hrest,
      ← shown_walkEntries_change hwell' hnot' (hsame.trans hrest)]

/-- A scan of a directory does not depend on a file that is not scanned. -/
theorem scan_directory_of_sameBut (h : fs.SameBut place fs') (hfs : fs.WellFormed)
    (hfs' : fs'.WellFormed) (hpath : IsPlainest fs place path)
    (hmisses : (Target.directory path).Misses fs place)
    (hmisses' : (Target.directory path).Misses fs' place) :
    scan fs' (.directory path) = scan fs (.directory path) := by
  obtain ⟨p, q, n, hlocate, hq, rfl⟩ := hpath
  obtain ⟨n', hlocate', hsurface⟩ := h.locate hlocate hq
  rw [scan_directory_pathOf hfs hlocate, scan_directory_pathOf hfs' hlocate']
  rcases directories_or_eq hsurface with ⟨entries, entries', rfl, rfl⟩ | rfl
  · rw [FileSystem.list_pathOf_eq hfs hlocate, FileSystem.list_pathOf_eq hfs' hlocate']
    cases hcheck : FileSystem.checkPlace q with
    | error e => rfl
    | ok _ =>
      have hshown := shown_walkEntries_of_sameBut h hfs hfs' hlocate hlocate' hcheck hmisses hmisses'
      exact congrArg Except.ok (Outcome.ofEntries_of_shown hshown)
  · rw [FileSystem.list, FileSystem.list, FileSystem.locate_pathOf_eq hfs hlocate,
      FileSystem.locate_pathOf_eq hfs' hlocate']

/-- **The outcome of a scan does not depend on a file that is not scanned.** -/
theorem scan_of_sameBut (h : fs.SameBut place fs') (hfs : fs.WellFormed) (hfs' : fs'.WellFormed)
    (htarget : ∀ path ∈ target.paths, IsPlainest fs place path)
    (hmisses : target.Misses fs place) (hmisses' : target.Misses fs' place) :
    scan fs' target = scan fs target := by
  cases target with
  | directory path =>
    exact scan_directory_of_sameBut h hfs hfs' (htarget path List.mem_cons_self) hmisses hmisses'
  | file path =>
    have hfiles : scanFiles fs' [path] = scanFiles fs [path] := scanFiles_of_sameBut h hfs hfs' htarget
    rw [scan, scan, hfiles]
  | files paths =>
    have hfiles : scanFiles fs' paths = scanFiles fs paths := scanFiles_of_sameBut h hfs hfs' htarget
    rw [scan, scan, hfiles]

/-! ### Surveys -/

/-- Does a survey of some paths look at a place: does one of the paths lead there, or is the file there one
of those that are scanned? -/
inductive LooksAt (fs : FileSystem) (ps : List Path) (place : Place) : Prop
  | led {p : Path} {n : Node} (hp : p ∈ ps) (hlocate : fs.locate p = .ok (place, n))
  | scanned {target : Target} {scanned : List ReadFile} {f : ReadFile}
      (htarget : Target.ofPaths fs ps = .ok target) (hscans : target.Scans fs scanned)
      (hf : f ∈ scanned) (hpath : f.path = FileSystem.pathOf place)

theorem avoids_of_not_looksAt (h : ¬LooksAt fs ps place) : ∀ p ∈ ps, Avoids fs place p :=
  fun _ hp _ hlocate => h (.led hp hlocate)

theorem not_looksAt {scanned : List ReadFile} (hps : ∀ p ∈ ps, Avoids fs place p)
    (htarget : Target.ofPaths fs ps = .ok target) (hscans : target.Scans fs scanned)
    (hunread : ∀ f ∈ scanned, f.path ≠ FileSystem.pathOf place) : ¬LooksAt fs ps place := by
  intro h
  cases h with
  | led hp hlocate => exact hps _ hp _ hlocate
  | scanned htarget' hscans' hf hpath =>
    cases htarget.symm.trans htarget'
    rw [hscans'.unique hscans] at hf
    exact hunread _ hf hpath

/-- Does a survey of some paths come to the same in two file systems? -/
structure SameSurvey (fs fs' : FileSystem) (ps : List Path) : Prop where
  target : Target.ofPaths fs' ps = Target.ofPaths fs ps
  scan {target : Target} (h : Target.ofPaths fs ps = .ok target) : scan fs' target = scan fs target

/-- **A survey does not depend on a file at which it does not look.** -/
theorem sameSurvey_of_sameBut (h : fs.SameBut place fs') (hfs : fs.WellFormed) (hfs' : fs'.WellFormed)
    (hlooks : ¬LooksAt fs ps place) (hlooks' : ¬LooksAt fs' ps place) : SameSurvey fs fs' ps := by
  have hpaths := avoids_of_not_looksAt hlooks
  have htarget := Target.ofPaths_of_sameBut h hfs hfs' hpaths (avoids_of_not_looksAt hlooks')
  refine ⟨htarget, ?_⟩
  intro target hof
  apply scan_of_sameBut h hfs hfs' (Target.isPlainest_of_ofPaths hfs hpaths hof)
  · exact fun scanned hscans f hf hpath => hlooks (.scanned hof hscans hf hpath)
  · exact fun scanned hscans f hf hpath => hlooks' (.scanned (htarget.trans hof) hscans hf hpath)

end ImportCensus.Survey
