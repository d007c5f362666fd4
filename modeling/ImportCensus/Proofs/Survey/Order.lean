/-
ImportCensus/Proofs/Survey/Order.lean

Surveys do not depend on the order in which directories list their entries.

A walk of a directory in another order gathers the same files in another order, so its accounts that are
sorted or count do not change, and the others are permuted.  The hierarchy that it shows changes in each
directory for itself: the directories come first in any case, and both the directories and the files are
permuted (`SourceTree.Reordered`).

Main statement: scans of one directory in file systems that differ in the order of listings at most have
surveys that differ in the order of files and trees at most, or both find nothing, or fail alike
(`scan_of_reordered`).
-/
import ImportCensus.Proofs.FileSystem.Order
import ImportCensus.Proofs.Survey.Scan
import ImportCensus.Report

namespace ImportCensus

/-! ### Trees -/

/-- Are two trees the same up to the order of directories among directories and of files among files in each
directory? -/
inductive SourceTree.Reordered : SourceTree → SourceTree → Prop
  | file (name : String) (path : Path) : Reordered (.file name path) (.file name path)
  | directory (name : String) (path : Path) {children aligned children' : List SourceTree}
      (hsame : List.Forall₂ Reordered children aligned) (horder : aligned.Perm children')
      (hkinds : aligned.map isDirectory = children'.map isDirectory) :
      Reordered (.directory name path children) (.directory name path children')

namespace Survey

open ReadFile

variable {path : Path} {entries entries' aligned : Listing} {n n' : Node} {fs fs' : FileSystem}

theorem children_walkDirectories (path : Path) (entries : Listing) :
    (walkDirectories path entries).children
      = entries.flatMap fun e => (walkNode e.1 (path.child e.1) e.2).children := by
  induction entries with
  | nil => rfl
  | cons e r ih =>
    obtain ⟨name, n⟩ := e
    rw [walkDirectories, List.flatMap_cons, ← ih]
    rfl

theorem children_walkFiles (path : Path) (entries : Listing) :
    (walkFiles path entries).children = entries.flatMap fun e => (walkFiles path [e]).children := by
  induction entries with
  | nil => rfl
  | cons e r ih =>
    obtain ⟨name, n⟩ := e
    rw [List.flatMap_cons, ← ih]
    cases n with
    | file contents =>
      simp only [walkFiles]
      split
      · show _ ++ _ = (_ ++ []) ++ _
        rw [List.append_nil]
      · rfl
    | _ => rfl

/-- What is shown of directories are directories. -/
theorem isDirectory_of_mem_walkDirectories {t : SourceTree} (h : t ∈ (walkDirectories path entries).children) :
    t.isDirectory = true := by
  rw [children_walkDirectories, List.mem_flatMap] at h
  obtain ⟨⟨name, n⟩, -, ht⟩ := h
  cases n with
  | directory entries =>
    rw [walkNode] at ht
    split at ht
    · cases ht
    · split at ht
      · cases ht
      · cases List.mem_singleton.1 ht
        rfl
  | _ => cases ht

/-- What is shown of files are files. -/
theorem isDirectory_of_mem_walkFiles {t : SourceTree} (h : t ∈ (walkFiles path entries).children) :
    t.isDirectory = false := by
  rw [children_walkFiles, List.mem_flatMap] at h
  obtain ⟨⟨name, n⟩, -, ht⟩ := h
  cases n with
  | file contents =>
    rw [walkFiles] at ht
    split at ht
    · rcases List.mem_append.1 ht with ht | ht
      · rw [walkFile] at ht
        split at ht
        · cases List.mem_singleton.1 ht
          rfl
        · cases ht
      · cases ht
    · cases ht
  | _ => cases ht

/-- Directories stand before files, whatever their order. -/
theorem kinds_walkEntries (path : Path) (entries : Listing) :
    (walkEntries path entries).children.map SourceTree.isDirectory
      = List.replicate (walkDirectories path entries).children.length true
        ++ List.replicate (walkFiles path entries).children.length false := by
  show ((walkDirectories path entries).children ++ (walkFiles path entries).children).map _ = _
  rw [List.map_append]
  congr 1
  · exact List.map_eq_replicate_iff.2 fun t => isDirectory_of_mem_walkDirectories
  · exact List.map_eq_replicate_iff.2 fun t => isDirectory_of_mem_walkFiles

theorem reordered_refl_of_files {ts : List SourceTree} (h : ∀ t ∈ ts, t.isDirectory = false) :
    List.Forall₂ SourceTree.Reordered ts ts := by
  rw [List.forall₂_same]
  intro t ht
  cases t with
  | file name path => exact .file name path
  | directory name path children => cases h _ ht

/-- Are two entries reorderings of each other, and shown as such wherever they stand? -/
def Corresponds (n n' : Node) : Prop :=
  n.Reordered n' ∧ ∀ name path,
    List.Forall₂ SourceTree.Reordered (walkNode name path n).children (walkNode name path n').children

/-- Entries that correspond to each other are shown in one order. -/
theorem reordered_walkEntries_aligned
    (h : List.Forall₂ (fun e e' => e.1 = e'.1 ∧ Corresponds e.2 e'.2) entries aligned) (path : Path) :
    List.Forall₂ SourceTree.Reordered (walkEntries path entries).children
      (walkEntries path aligned).children := by
  apply List.rel_append
  · rw [children_walkDirectories, children_walkDirectories]
    refine List.rel_flatMap h ?_
    rintro ⟨name, n⟩ ⟨_, n'⟩ ⟨rfl, -, hshown⟩
    exact hshown ..
  · rw [children_walkFiles, children_walkFiles]
    refine List.rel_flatMap h ?_
    rintro ⟨name, n⟩ ⟨_, n'⟩ ⟨rfl, hnode, -⟩
    -- only files are shown here, and they have no order of their own
    cases hnode with
    | file contents => exact reordered_refl_of_files fun t => isDirectory_of_mem_walkFiles
    | directory | link | other => exact .nil

/-- Entries in another order are shown in another order, but directories first. -/
theorem perm_walkEntries (h : aligned.Perm entries') (path : Path) :
    (walkEntries path aligned).children.Perm (walkEntries path entries').children ∧
      (walkEntries path aligned).children.map SourceTree.isDirectory
        = (walkEntries path entries').children.map SourceTree.isDirectory := by
  have hdirectories : (walkDirectories path aligned).children.Perm (walkDirectories path entries').children := by
    rw [children_walkDirectories, children_walkDirectories]
    exact h.flatMap_right _
  have hfiles : (walkFiles path aligned).children.Perm (walkFiles path entries').children := by
    rw [children_walkFiles, children_walkFiles]
    exact h.flatMap_right _
  refine ⟨hdirectories.append hfiles, ?_⟩
  rw [kinds_walkEntries, kinds_walkEntries, hdirectories.length_eq, hfiles.length_eq]

/-- What is shown of a directory whose entries correspond to those of another one. -/
theorem reordered_directory (hnames : (entries'.map (·.1)).Perm (entries.map (·.1)))
    (hnodes : ∀ name n n', (name, n) ∈ entries → (name, n') ∈ entries' → Corresponds n n')
    (name : String) (path : Path) :
    SourceTree.Reordered (.directory name path (walkEntries path entries).children)
      (.directory name path (walkEntries path entries').children) := by
  -- first entry by entry in one order, then in the other order
  obtain ⟨aligned, hperm, hsame⟩ := Node.exists_aligned hnames hnodes
  obtain ⟨horder, hkinds⟩ := perm_walkEntries hperm path
  exact .directory name path (reordered_walkEntries_aligned hsame path) horder hkinds

/-- Reorderings are shown as such. -/
theorem corresponds (h : n.Reordered n') : Corresponds n n' := by
  refine ⟨h, ?_⟩
  induction h with
  | @directory entries entries' hnames hnodes ih =>
    intro name path
    rw [walkNode, walkNode]
    split
    · exact .nil
    · split
      · exact .nil
      · refine .cons (reordered_directory hnames ?_ name path) .nil
        exact fun name n n' hn hn' => ⟨hnodes name n n' hn hn', ih name n n' hn hn'⟩
  | file | link | other => exact fun _ _ => .nil

/-- The hierarchy below the root of a walk. -/
theorem reordered_tree (h : (Node.directory entries).Reordered (.directory entries')) (name : String)
    (path : Path) :
    SourceTree.Reordered (.directory name path (walkEntries path entries).children)
      (.directory name path (walkEntries path entries').children) := by
  cases h with
  | directory hnames hnodes =>
    exact reordered_directory hnames (fun name n n' hn hn' => corresponds (hnodes name n n' hn hn')) name path

/-! ### Accounts -/

/-- The source files of a directory do not depend on its order. -/
theorem sourceFiles_perm (h : (Node.directory entries).Reordered (.directory entries'))
    (hn : (Node.directory entries).WellFormed) (root : Path) :
    (sourceFiles root entries').Perm (sourceFiles root entries) :=
  ((h.leaves_perm hn).filter _).map _

/-- Accounts of the same files agree up to the order of what they list. -/
theorem Finds.Gathers.agree_of_perm {a b : Finds} {scanned scanned' : List ReadFile}
    (ha : a.Gathers scanned) (hb : b.Gathers scanned') (hpaths : scanned.Pairwise PathNe)
    (hpaths' : scanned'.Pairwise PathNe) (h : scanned'.Perm scanned) :
    b.files = a.files ∧ b.deepDive.Perm a.deepDive ∧ b.filesScanned = a.filesScanned := by
  refine ⟨?_, ?_, by rw [ha.scanned, hb.scanned, h.length_eq]⟩
  · have hentries : (packageEntries scanned').Perm (packageEntries scanned) := (h.filter _).map _
    apply SortedMap.eq_of_perm
    calc b.files.entries
        |>.Perm (packageEntries scanned') := hb.files hpaths'
      _ |>.Perm (packageEntries scanned) := hentries
      _ |>.Perm a.files.entries := (ha.files hpaths).symm
  · rw [ha.deepDive, hb.deepDive]
    exact (h.filter _).map _

end Survey

/-! ### Surveys -/

/-- Do two surveys differ in the order of the files worth a closer look and of their hierarchies at most? -/
structure Survey.Reordered (s s' : Survey) : Prop where
  tree : Option.Rel SourceTree.Reordered s.tree s'.tree
  files : s'.files = s.files
  deepDive : s'.deepDive.Perm s.deepDive
  filesScanned : s'.filesScanned = s.filesScanned
  usage : s'.usage = s.usage

namespace Survey

/-- Are both outcomes a survey, the same up to order, or did both read the same number of files in vain? -/
inductive Outcome.Reordered : Outcome → Outcome → Prop
  | found {s s' : Survey} (h : s.Reordered s') : Reordered (.found s) (.found s')
  | nothing (filesScanned : Nat) : Reordered (.nothing filesScanned) (.nothing filesScanned)

/-- The surveys of what two walks have found, which agree up to order. -/
theorem Outcome.reordered_ofFinds {tree tree' : SourceTree} {a b : Finds} (htree : tree.Reordered tree')
    (hfiles : b.files = a.files) (hdeep : b.deepDive.Perm a.deepDive)
    (hscanned : b.filesScanned = a.filesScanned) :
    Outcome.Reordered (.ofFinds (some tree) a) (.ofFinds (some tree') b) := by
  rw [ofFinds, ofFinds, hfiles, hscanned]
  split
  · exact .nothing _
  · exact .found ⟨.some htree, rfl, hdeep, rfl, rfl⟩

/-- A directory can be surveyed in any order. -/
theorem reordered_scan (h : fs.Reordered fs') (hfs : fs.WellFormed) (p : Path) :
    SameResult Outcome.Reordered (scan fs (.directory p)) (scan fs' (.directory p)) := by
  rw [scan_directory, scan_directory, walk, walk, h.canonical p]
  generalize (fs.canonical p).toOption.getD p = root
  have hentries := h.list root
  generalize hlist : fs.list root = listed, fs'.list root = listed' at hentries
  cases hentries with
  | error e => exact .error _
  | @ok entries entries' hsame =>
    have hwhole := FileSystem.wellFormed_of_list hfs hlist
    have hwhole' := hsame.wellFormed hwhole
    obtain ⟨hfiles, hdeep, hscanned⟩ := (gathers_walkEntries hwhole root).agree_of_perm
      (gathers_walkEntries hwhole' root) ((sourceFiles_pathNe hwhole root).filter _)
      ((sourceFiles_pathNe hwhole' root).filter _) ((sourceFiles_perm hsame hwhole root).filter _)
    exact .ok (Outcome.reordered_ofFinds (reordered_tree hsame _ root) hfiles hdeep hscanned)

/-- Reports on surveys that differ in order rank the same packages and count the same. -/
theorem Reordered.assemble {s s' : Survey} (h : s.Reordered s') (records : MetadataMap) :
    (Report.assemble s' records).packages = (Report.assemble s records).packages ∧
      (Report.assemble s' records).summary = (Report.assemble s records).summary := by
  rw [Report.assemble, Report.assemble, h.usage, h.files, h.filesScanned]
  exact ⟨rfl, rfl⟩

/-- **The order in which directories are listed does not matter.**  Let two well-formed file systems have the
same entries, listed in any order.  Then scans of one directory fail alike, or both read the same number of
files and find no package, or have surveys with the same packages of each file, the same usage index and the
same number of files, with the same files worth a closer look in some order, and with hierarchies that are
the same up to the order of directories among directories and of files among files.  So the same packages are
asked for, and with any records the reports rank the same packages and count the same. -/
theorem scan_of_reordered (h : fs.Reordered fs') (hfs : fs.WellFormed) (p : Path) :
    SameResult Outcome.Reordered (scan fs (.directory p)) (scan fs' (.directory p)) ∧
    ∀ s s', scan fs (.directory p) = .ok (.found s) → scan fs' (.directory p) = .ok (.found s') →
      (SortedSet.ofList s'.usage.keys : PackageSet) = .ofList s.usage.keys ∧
      ∀ records, (Report.assemble s' records).packages = (Report.assemble s records).packages ∧
        (Report.assemble s' records).summary = (Report.assemble s records).summary := by
  have hscan := reordered_scan h hfs p
  refine ⟨hscan, ?_⟩
  intro s s' hs hs'
  rw [hs, hs'] at hscan
  cases hscan with
  | ok hfound =>
    cases hfound with
    | found hsame => exact ⟨by rw [hsame.usage], hsame.assemble⟩

/-- A directory with two directories and two source files. -/
def pairedEntries : Listing :=
  [("a.js", .file "import 'x'".toUTF8.toList),
   ("lib", .directory [("c.ts", .file []), ("d.ts", .file [])]),
   ("b.js", .file []), ("sub", .directory [("e.ts", .file [])])]

/-- The same directory, listed backwards, as all in it is. -/
def pairedEntriesBackwards : Listing :=
  [("sub", .directory [("e.ts", .file [])]), ("b.js", .file []),
   ("lib", .directory [("d.ts", .file []), ("c.ts", .file [])]),
   ("a.js", .file "import 'x'".toUTF8.toList)]

theorem reordered_pairedEntries : FileSystem.Reordered ⟨.directory [("p", .directory pairedEntries)], []⟩
    ⟨.directory [("p", .directory pairedEntriesBackwards)], []⟩ := by
  have hlib : (Node.directory [("c.ts", .file []), ("d.ts", .file [])]).Reordered
      (.directory [("d.ts", .file []), ("c.ts", .file [])]) :=
    .of_aligned (by decide) (List.forall₂_same.2 (by simp [Node.Reordered.file])) (List.reverse_perm _).symm
  have hsub : (Node.directory [("e.ts", .file [])]).WellFormed := by decide
  have haligned : List.Forall₂ (fun e e' => e.1 = e'.1 ∧ e.2.Reordered e'.2) pairedEntries
      pairedEntriesBackwards.reverse :=
    .cons ⟨rfl, .file _⟩ (.cons ⟨rfl, hlib⟩ (.cons ⟨rfl, .file _⟩ (.cons ⟨rfl, .refl hsub⟩ .nil)))
  have hp : (Node.directory pairedEntries).Reordered (.directory pairedEntriesBackwards) :=
    .of_aligned (by decide) haligned (List.reverse_perm _)
  have hroot : List.Forall₂ (fun e e' => e.1 = e'.1 ∧ e.2.Reordered e'.2)
      [("p", Node.directory pairedEntries)] [("p", .directory pairedEntriesBackwards)] :=
    .cons ⟨rfl, hp⟩ .nil
  exact ⟨.of_aligned (by decide) hroot (.refl _), rfl⟩

/-- Two listings of five source files, which are shown in different orders.  Both surveys find the one package in
use, in one of the five. -/
theorem scan_of_pairedEntries :
    (∃ s s', scan ⟨.directory [("p", .directory pairedEntries)], []⟩ (.directory ⟨"p"⟩) = .ok (.found s) ∧
      scan ⟨.directory [("p", .directory pairedEntriesBackwards)], []⟩ (.directory ⟨"p"⟩) = .ok (.found s') ∧
      s.Reordered s' ∧ s.usage.entries = [(⟨"x", by decide⟩, ⟨1, [⟨"/p/a.js"⟩]⟩)] ∧ s.filesScanned = 5) ∧
    (walk ⟨.directory [("p", .directory pairedEntries)], []⟩ ⟨"p"⟩).tree.fileEntries.map (·.path)
      = [⟨"/p/lib/c.ts"⟩, ⟨"/p/lib/d.ts"⟩, ⟨"/p/sub/e.ts"⟩, ⟨"/p/a.js"⟩, ⟨"/p/b.js"⟩] ∧
    (walk ⟨.directory [("p", .directory pairedEntriesBackwards)], []⟩ ⟨"p"⟩).tree.fileEntries.map (·.path)
      = [⟨"/p/sub/e.ts"⟩, ⟨"/p/lib/d.ts"⟩, ⟨"/p/lib/c.ts"⟩, ⟨"/p/b.js"⟩, ⟨"/p/a.js"⟩] := by
  have hfs : FileSystem.WellFormed ⟨.directory [("p", .directory pairedEntries)], []⟩ := by decide
  have hfound : (match scan ⟨.directory [("p", .directory pairedEntries)], []⟩ (.directory ⟨"p"⟩) with
      | .ok (.found s) => decide (s.usage.entries = [(⟨"x", by decide⟩, ⟨1, [⟨"/p/a.js"⟩]⟩)] ∧ s.filesScanned = 5)
      | _ => false) = true := by decide +kernel
  refine ⟨?_, by decide, by decide⟩
  have hscan := (scan_of_reordered reordered_pairedEntries hfs ⟨"p"⟩).1
  generalize scan ⟨.directory [("p", .directory pairedEntries)], []⟩ (.directory ⟨"p"⟩) = outcome at hscan hfound ⊢
  generalize scan ⟨.directory [("p", .directory pairedEntriesBackwards)], []⟩ (.directory ⟨"p"⟩) = outcome' at hscan ⊢
  cases hscan with
  | error => cases hfound
  | ok hsame =>
    cases hsame with
    | @found s s' hsame => exact ⟨s, s', rfl, rfl, hsame, of_decide_eq_true hfound⟩
    | nothing => cases hfound

end Survey

end ImportCensus
