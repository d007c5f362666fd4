/-
ImportCensus/Proofs/Survey/Finds.lean

What has been found in a list of files.

A walk keeps several accounts at once: the hierarchy, the packages of each file, the files that deserve a
closer look, and how many files there were.  `Finds.Gathers` says that all of them are accounts of one
list of files, in its order; each operation of a walk on what it has found has its counterpart on such
lists.

Main statements: putting two finds together gathers the files of both (`Finds.Gathers.append`), and the
file entries of a tree are as many as the tree counts (`SourceTree.fileCount_eq`).
-/
import ImportCensus.Proofs.Order.SortedMap
import ImportCensus.Survey.Walk

namespace ImportCensus

open Text

/-! ### The files of a tree -/

namespace SourceTree

mutual

theorem fileCount_eq (depth : Nat) : (t : SourceTree) →
    t.fileCount = (((entriesFrom depth t).map (·.2)).filter (!·.isDirectory)).length
  | .directory name path children => by
    rw [fileCount, fileCounts_eq (depth + 1) children, entriesFrom, List.map_cons,
      List.filter_cons_of_neg (by simp [isDirectory])]
  | .file name path => rfl

theorem fileCounts_eq (depth : Nat) : (ts : List SourceTree) →
    fileCounts ts = (((entriesOfAll depth ts).map (·.2)).filter (!·.isDirectory)).length
  | [] => rfl
  | t :: ts => by
    rw [fileCounts, fileCount_eq depth t, fileCounts_eq depth ts, entriesOfAll, List.map_append,
      List.filter_append, List.length_append]

end

/-- The entries of a tree that are files, a directory before what is in it. -/
def fileEntries (t : SourceTree) : List SourceTree :=
  t.entries.filter (!·.isDirectory)

theorem entriesOfAll_append (depth : Nat) (ts us : List SourceTree) :
    entriesOfAll depth (ts ++ us) = entriesOfAll depth ts ++ entriesOfAll depth us := by
  induction ts with
  | nil => rfl
  | cons t r ih => rw [List.cons_append, entriesOfAll, entriesOfAll, ih, List.append_assoc]

end SourceTree

namespace Survey

/-! ### Files that were read -/

/-- A file that was read. -/
structure ReadFile where
  path : Path
  contents : Bytes

namespace ReadFile

/-- The text of a file; what is no text in it is replaced. -/
def text (f : ReadFile) : String :=
  String.ofList (decodeLossy f.contents)

/-- The packages that a file uses. -/
def packages (f : ReadFile) : PackageSet :=
  packagesIn f.text

/-- A file as an entry of the hierarchy. -/
def entry (f : ReadFile) : SourceTree :=
  .file (nodeName f.path) f.path

/-- Are the paths of two files different keys? -/
def PathNe (f g : ReadFile) : Prop :=
  compare f.path g.path ≠ .eq

/-- The packages of each of the files that use one. -/
def packageEntries (fs : List ReadFile) : List (Path × PackageSet) :=
  (fs.filter (!·.packages.isEmpty)).map fun f => (f.path, f.packages)

/-- The paths of the files that deserve a closer look. -/
def deepPaths (fs : List ReadFile) : List Path :=
  (fs.filter fun f => needsDeepDive f.packages).map (·.path)

theorem packageEntries_append (fs gs : List ReadFile) :
    packageEntries (fs ++ gs) = packageEntries fs ++ packageEntries gs := by
  rw [packageEntries, List.filter_append, List.map_append]
  rfl

theorem deepPaths_append (fs gs : List ReadFile) :
    deepPaths (fs ++ gs) = deepPaths fs ++ deepPaths gs := by
  rw [deepPaths, List.filter_append, List.map_append]
  rfl

theorem mem_packageEntries {fs : List ReadFile} {e : Path × PackageSet} :
    e ∈ packageEntries fs ↔
      ∃ f ∈ fs, f.packages.isEmpty = false ∧ e = (f.path, f.packages) := by
  simp only [packageEntries, List.mem_map, List.mem_filter, Bool.not_eq_true', and_assoc,
    @eq_comm _ e]

end ReadFile

open ReadFile

/-! ### Accounts of files -/

/-- Is everything that was found an account of these files? -/
structure Finds.Gathers (found : Finds) (fs : List ReadFile) : Prop where
  /-- The file entries of the hierarchy, however deep it stands. -/
  shown : ∀ depth,
    ((SourceTree.entriesOfAll depth found.children).map (·.2)).filter (!·.isDirectory)
      = fs.map entry
  /-- No file's packages are lost, unless two files stand under one key. -/
  files : fs.Pairwise PathNe → found.files.entries.Perm (packageEntries fs)
  deepDive : found.deepDive = deepPaths fs
  scanned : found.filesScanned = fs.length

namespace Finds

variable {a b : Finds} {fs gs : List ReadFile}

@[simp] theorem none_append (found : Finds) : none ++ found = found := by
  show append none found = found
  simp [append, none]

theorem gathers_none : none.Gathers [] where
  shown _ := rfl
  files _ := .nil
  deepDive := rfl
  scanned := rfl

theorem gathers_unreadable : unreadable.Gathers [] where
  shown _ := rfl
  files _ := .nil
  deepDive := rfl
  scanned := rfl

theorem gathers_ofFile (f : ReadFile) : (ofFile (nodeName f.path) f.path f.packages).Gathers [f] where
  shown _ := rfl
  files _ := by
    rw [ofFile, packageEntries, List.filter_cons]
    cases f.packages.isEmpty with
    | true => simp
    | false => simp
  deepDive := by
    rw [ofFile, deepPaths, List.filter_cons]
    cases needsDeepDive f.packages with
    | true => simp
    | false => simp
  scanned := rfl

/-- Two finds are put together as the files they account for. -/
theorem Gathers.append (ha : a.Gathers fs) (hb : b.Gathers gs) : (a ++ b).Gathers (fs ++ gs) where
  shown depth := by
    show ((SourceTree.entriesOfAll depth (a.children ++ b.children)).map (·.2)).filter
      (!·.isDirectory) = _
    rw [SourceTree.entriesOfAll_append, List.map_append, List.filter_append, ha.shown, hb.shown,
      List.map_append]
  files h := by
    obtain ⟨hfs, hgs, hcross⟩ := List.pairwise_append.1 h
    have hfiles := ha.files hfs
    have hfiles' := hb.files hgs
    -- a key of the first map is a path of `fs`, and one of the second a path of `gs`
    have hkeys : ∀ e ∈ a.files.entries, ∀ e' ∈ b.files.entries, KeyNe e e' := by
      intro e he e' he'
      obtain ⟨f, hf, -, rfl⟩ := mem_packageEntries.1 (hfiles.subset he)
      obtain ⟨g, hg, -, rfl⟩ := mem_packageEntries.1 (hfiles'.subset he')
      exact hcross f hf g hg
    show (a.files.union b.files).entries.Perm _
    rw [packageEntries_append]
    exact (SortedMap.entries_union hkeys).trans (hfiles.append hfiles')
  deepDive := by
    show a.deepDive ++ b.deepDive = _
    rw [ha.deepDive, hb.deepDive, deepPaths_append]
  scanned := by
    show a.filesScanned + b.filesScanned = _
    rw [ha.scanned, hb.scanned, List.length_append]

/-- Seen from the directory above, what was found stays the same. -/
theorem Gathers.inDirectory (h : a.Gathers fs) (name : String) (path : Path) :
    (a.inDirectory name path).Gathers fs where
  shown depth := by
    -- the directory itself is no file, and what is in it stands one step deeper
    show ((SourceTree.entriesOfAll depth [.directory name path a.children]).map (·.2)).filter
      (!·.isDirectory) = _
    rw [SourceTree.entriesOfAll, SourceTree.entriesOfAll, List.append_nil, SourceTree.entriesFrom,
      List.map_cons, List.filter_cons_of_neg (by simp [SourceTree.isDirectory]), h.shown]
  files := h.files
  deepDive := h.deepDive
  scanned := h.scanned

end Finds

end Survey

end ImportCensus
