/-
ImportCensus/Proofs/Survey/Walk.lean

A walk finds what an enumeration of the files would find.

The reference is flat: of all regular files of a hierarchy, enumerated depth first, those are kept that
have the name of a source file and are not in a directory that is left out (`Leaf.isEligible`).  A walk
looks at names on the way down instead and puts its accounts together on the way up; the induction over
the hierarchy shows that directory by directory both come to the same list of files.

Main statement: what a walk leaves behind are accounts of just the enumerated files, no two of which share
a key, and links and the like do not count (`walk_accounts_sourceFiles`).
-/
import ImportCensus.Proofs.FileSystem.Deep
import ImportCensus.Proofs.Survey.Finds

namespace ImportCensus

open Text

/-- Is this a source file, and in no directory that is left out? -/
def Leaf.isEligible (l : Leaf) : Bool :=
  l.place.getLast?.any isSourceName && l.place.dropLast.all fun name => !isExcludedDirectory name

namespace Survey

open ReadFile

/-- A file of the hierarchy below a path, as it is read. -/
def readAt (path : Path) (l : Leaf) : ReadFile :=
  ⟨path.below l.place, l.contents⟩

/-- The source files in a directory that a survey looks at, in the order of the enumeration. -/
def sourceFiles (path : Path) (entries : Listing) : List ReadFile :=
  ((Node.directory entries).leaves.filter Leaf.isEligible).map (readAt path)

/-- The files whose paths can be followed. -/
def readable (fs : List ReadFile) : List ReadFile :=
  fs.filter fun f => FileSystem.fits f.path

variable {path : Path} {name : String} {entries : Listing}

/-! ### The files of an enumeration that are read -/

/-- The files among some of a hierarchy that are read when it is walked from a path. -/
def filesRead (path : Path) (ls : List Leaf) : List ReadFile :=
  readable ((ls.filter Leaf.isEligible).map (readAt path))

theorem filesRead_append (ls ms : List Leaf) :
    filesRead path (ls ++ ms) = filesRead path ls ++ filesRead path ms := by
  rw [filesRead, List.filter_append, List.map_append, readable, List.filter_append]
  rfl

/-- A file of a directory is read if it has the name of a source file. -/
theorem filesRead_file (contents : Bytes) :
    filesRead path [⟨[name], contents⟩]
      = if isSourceName name then readable [⟨path.child name, contents⟩] else [] := by
  have hleaf : (Leaf.mk [name] contents).isEligible = isSourceName name := by
    simp [Leaf.isEligible]
  rw [filesRead, List.filter_cons, hleaf]
  split <;> rfl

theorem isEligible_under {l : Leaf} (h : l.place ≠ []) :
    (l.under name).isEligible = (!isExcludedDirectory name && l.isEligible) := by
  obtain ⟨first, rest, hplace⟩ := List.exists_cons_of_ne_nil h
  rw [Leaf.isEligible, Leaf.isEligible, Leaf.under, hplace, List.getLast?_cons_cons,
    List.dropLast_cons_cons, List.all_cons, Bool.and_left_comm]

/-- Seen from above, the files of a directory are the same, unless the directory is left out. -/
theorem filesRead_under {ls : List Leaf} (h : ∀ l ∈ ls, l.place ≠ []) :
    filesRead path (ls.map (.under name))
      = if isExcludedDirectory name then [] else filesRead (path.child name) ls := by
  have hfilter : (ls.map (Leaf.under name)).filter Leaf.isEligible
      = (ls.filter fun l => !isExcludedDirectory name && l.isEligible).map (Leaf.under name) := by
    rw [List.filter_map]
    congr 1
    apply List.filter_congr
    intro l hl
    exact isEligible_under (h l hl)
  rw [filesRead, hfilter, List.map_map]
  cases isExcludedDirectory name with
  | true =>
    simp only [Bool.not_true, Bool.false_and, List.filter_false, if_true]
    rfl
  | false =>
    simp only [Bool.not_false, Bool.true_and, Bool.false_eq_true, if_false]
    rfl

/-- Below a directory that cannot be followed, no file can be. -/
theorem filesRead_of_not_fits {ls : List Leaf} (hfits : FileSystem.fits path = false)
    (h : ∀ l ∈ ls, ∀ name ∈ l.place, IsEntryName name) : filesRead path ls = [] := by
  rw [filesRead, readable, List.filter_eq_nil_iff]
  intro f hf
  obtain ⟨l, hl, rfl⟩ := List.mem_map.1 hf
  intro hdeep
  rw [FileSystem.fits_of_fits_below (h l (List.mem_filter.1 hl).1) hdeep] at hfits
  cases hfits

/-! ### Directory by directory -/

theorem nodeName_child (hname : IsEntryName name) : nodeName (path.child name) = name := by
  rw [nodeName, Path.fileName?_child path hname]
  rfl

theorem gathers_walkFile (hname : IsEntryName name) (contents : Bytes) :
    (walkFile name (path.child name) contents).Gathers (readable [⟨path.child name, contents⟩]) := by
  rw [walkFile, readable, List.filter_cons]
  split
  · have h := Finds.gathers_ofFile ⟨path.child name, contents⟩
    rw [nodeName_child hname] at h
    exact h
  · exact Finds.gathers_unreadable

/-- The files of a directory are its regular files with the name of a source file. -/
theorem gathers_walkFiles (hnames : ∀ e ∈ entries, IsEntryName e.1) (path : Path) :
    (walkFiles path entries).Gathers (filesRead path (entries.filterMap Leaf.ofEntry?)) := by
  induction entries with
  | nil => exact Finds.gathers_none
  | cons e r ih =>
    have hr := ih fun e' he' => hnames e' (List.mem_cons_of_mem _ he')
    obtain ⟨name, n⟩ := e
    have hname : IsEntryName name := hnames _ List.mem_cons_self
    cases n with
    | file contents =>
      show (walkFiles path ((name, .file contents) :: r)).Gathers
        (filesRead path ([⟨[name], contents⟩] ++ r.filterMap Leaf.ofEntry?))
      rw [filesRead_append, filesRead_file, walkFiles]
      split
      · exact (gathers_walkFile hname contents).append hr
      · exact hr
    | _ => exact hr

/-- The files in the directories of a directory, if each of these is walked as it should be. -/
theorem gathers_walkDirectories
    (h : ∀ e ∈ entries, ∀ path : Path,
      (walkNode e.1 (path.child e.1) e.2).Gathers (filesRead path (e.2.leaves.map (.under e.1))))
    (path : Path) :
    (walkDirectories path entries).Gathers (filesRead path (Node.leavesBelow entries)) := by
  induction entries with
  | nil => exact Finds.gathers_none
  | cons e r ih =>
    obtain ⟨name, n⟩ := e
    have hr := ih fun e' he' => h e' (List.mem_cons_of_mem _ he')
    rw [walkDirectories, Node.leavesBelow, filesRead_append]
    exact (h _ List.mem_cons_self path).append hr

/-- A directory among the entries of another one is walked as it should be. -/
theorem gathers_walkNode {n : Node} (hn : n.WellFormed) (name : String) (path : Path) :
    (walkNode name (path.child name) n).Gathers (filesRead path (n.leaves.map (.under name))) := by
  induction hn generalizing name path with
  | @directory entries hnames hnodup hnodes ih =>
    -- the three cases are those of the walk: left out, too deep, or listed
    have hwhole : (Node.directory entries).WellFormed := .directory hnames hnodup hnodes
    rw [filesRead_under fun l hl => Node.place_ne_nil hl, walkNode]
    split
    · exact Finds.gathers_none
    · split
      · next hfits =>
        rw [Bool.not_eq_true'] at hfits
        rw [filesRead_of_not_fits hfits fun l hl => Node.isEntryName_of_mem_leaves hwhole hl]
        exact Finds.gathers_unreadable
      · rw [Node.leaves, filesRead_append]
        have hbelow := gathers_walkDirectories (fun e he p => ih e he e.1 p) (path.child name)
        exact (hbelow.append (gathers_walkFiles hnames (path.child name))).inDirectory name (path.child name)
  | _ => exact Finds.gathers_none

/-- What is found in a directory are its source files that can be followed. -/
theorem gathers_walkEntries (h : (Node.directory entries).WellFormed) (path : Path) :
    (walkEntries path entries).Gathers (readable (sourceFiles path entries)) := by
  have hbelow := gathers_walkDirectories (fun e he p => gathers_walkNode (h.entry e he) e.1 p) path
  have hfiles := gathers_walkFiles h.isEntryName path
  have hall := hbelow.append hfiles
  rw [← filesRead_append] at hall
  exact hall

/-! ### The enumerated files -/

/-- No two enumerated files have one key. -/
theorem sourceFiles_pathNe (h : (Node.directory entries).WellFormed) (path : Path) :
    (sourceFiles path entries).Pairwise PathNe := by
  have hplaces := Node.nodup_leaves h
  rw [List.nodup_iff_pairwise_ne, List.pairwise_map] at hplaces
  rw [sourceFiles, List.pairwise_map]
  apply List.Pairwise.filter
  apply hplaces.imp_of_mem
  intro l m hl hm hne heq
  have hlnames := Node.isEntryName_of_mem_leaves h hl
  have hmnames := Node.isEntryName_of_mem_leaves h hm
  exact hne (Path.eq_of_compare_below hlnames hmnames heq)

/-- An enumerated file is a regular file with the name of a source file, and the directories on the way
to it are none that are left out. -/
theorem mem_sourceFiles (h : (Node.directory entries).WellFormed) {f : ReadFile} :
    f ∈ sourceFiles path entries ↔ ∃ directories name,
      f.path = path.below (directories ++ [name]) ∧
      (Node.directory entries).find? (directories ++ [name]) = some (.file f.contents) ∧
      isSourceName name = true ∧ ∀ d ∈ directories, isExcludedDirectory d = false := by
  rw [sourceFiles, List.mem_map]
  constructor
  · rintro ⟨l, hl, rfl⟩
    obtain ⟨hleaf, heligible⟩ := List.mem_filter.1 hl
    obtain ⟨hne, hfind⟩ := (Node.mem_leaves h).1 hleaf
    obtain ⟨directories, name, hplace⟩ := (List.eq_nil_or_concat' l.place).resolve_left hne
    rw [Leaf.isEligible, hplace] at heligible
    simp only [List.getLast?_concat, Option.any_some, List.dropLast_concat, Bool.and_eq_true,
      List.all_eq_true, Bool.not_eq_true'] at heligible
    rw [hplace] at hfind
    refine ⟨directories, name, ?_, hfind, heligible⟩
    rw [readAt, hplace]
  · rintro ⟨directories, name, hpath, hfind, hname, hdirectories⟩
    refine ⟨⟨directories ++ [name], f.contents⟩, List.mem_filter.2 ⟨?_, ?_⟩, ?_⟩
    · exact (Node.mem_leaves h).2 ⟨by simp, hfind⟩
    · rw [Leaf.isEligible]
      simp only [List.getLast?_concat, Option.any_some, List.dropLast_concat, Bool.and_eq_true,
        List.all_eq_true, Bool.not_eq_true']
      exact ⟨hname, hdirectories⟩
    · rw [readAt, ← hpath]

/-! ### Links and entries of other kinds -/

theorem walkFiles_plainEntries (path : Path) (entries : Listing) :
    walkFiles path (Node.plainEntries entries) = walkFiles path entries := by
  induction entries with
  | nil => rfl
  | cons e r ih =>
    obtain ⟨name, n⟩ := e
    cases n with
    | file contents =>
      show walkFiles path ((name, .file contents) :: Node.plainEntries r) = _
      rw [walkFiles, walkFiles, ih]
    | directory entries => exact ih
    | _ => exact ih

mutual

theorem walkNode_plain (name : String) (path : Path) : (n : Node) →
    walkNode name path n.plain = walkNode name path n
  | .directory entries => by
    rw [Node.plain, walkNode, walkNode, walkDirectories_plainEntries path entries,
      walkFiles_plainEntries]
  | .file contents => rfl
  | .link target => rfl
  | .other => rfl

theorem walkDirectories_plainEntries (path : Path) : (entries : Listing) →
    walkDirectories path (Node.plainEntries entries) = walkDirectories path entries
  | [] => rfl
  | (name, n) :: r => by
    have hr := walkDirectories_plainEntries path r
    have hn := walkNode_plain name (path.child name) n
    rw [Node.plainEntries, walkDirectories]
    split
    · rw [walkDirectories, hn, hr]
    · next hother =>
      -- what is no directory is walked as if nothing were there
      have hnone : walkNode name (path.child name) n = .none := by
        cases n with
        | directory _ => exact absurd rfl hother
        | _ => rfl
      rw [hnone, Finds.none_append, hr]

end

/-! ### Whole walks -/

/-- Is everything that a walk leaves behind an account of these files? -/
structure Walk.Accounts (w : Walk) (fs : List ReadFile) : Prop where
  /-- The file entries of the tree are the files, in their order. -/
  shown : w.tree.fileEntries = fs.map entry
  scanned : w.finds.filesScanned = fs.length
  counted : w.tree.fileCount = w.finds.filesScanned
  /-- The packages of each file that uses one, and nothing else. -/
  files : w.finds.files.entries.Perm (packageEntries fs)
  deepDive : w.finds.deepDive = deepPaths fs

theorem Finds.Gathers.accounts {found : Finds} {fs : List ReadFile} (h : found.Gathers fs)
    (hpaths : fs.Pairwise PathNe) (root : Path) :
    Walk.Accounts ⟨root, found, Option.none⟩ fs := by
  have hshown : (Walk.tree ⟨root, found, Option.none⟩).fileEntries = fs.map entry := by
    rw [SourceTree.fileEntries, SourceTree.entries, Walk.tree, SourceTree.entriesFrom, List.map_cons,
      List.filter_cons_of_neg (by simp [SourceTree.isDirectory]), h.shown]
  have hcounted : (Walk.tree ⟨root, found, Option.none⟩).fileCount = found.filesScanned := by
    calc (Walk.tree ⟨root, found, Option.none⟩).fileCount
        = (Walk.tree ⟨root, found, Option.none⟩).fileEntries.length := SourceTree.fileCount_eq 0 _
      _ = fs.length := by rw [hshown, List.length_map]
      _ = found.filesScanned := h.scanned.symm
  exact ⟨hshown, h.scanned, hcounted, h.files hpaths, h.deepDive⟩

theorem walk_of_list {fs : FileSystem} {p root : Path} (hroot : fs.canonical p = .ok root)
    (hlist : fs.list root = .ok entries) :
    walk fs p = ⟨root, walkEntries root entries, Option.none⟩ := by
  simp only [walk, hroot, Except.toOption, Option.getD_some, hlist]

/-- **A walk is an enumeration.**  In a well-formed file system, let a directory be listed, and let each of
its source files have a path that can be followed.  Then what a walk of the directory leaves behind are
accounts of just its source files, in their order; no two of these share a key; they are the regular files
with the name of a source file that are reached through directories of which none is left out; and links
and entries of other kinds, wherever they stand and lead, change nothing. -/
theorem walk_accounts_sourceFiles {fs : FileSystem} {p root : Path} {entries : Listing}
    (hfs : fs.WellFormed) (hroot : fs.canonical p = .ok root) (hlist : fs.list root = .ok entries)
    (hreadable : ∀ f ∈ sourceFiles root entries, FileSystem.fits f.path = true) :
    (walk fs p).root = root ∧ (walk fs p).rootError = none ∧
    (walk fs p).Accounts (sourceFiles root entries) ∧
    (sourceFiles root entries).Pairwise PathNe ∧
    (∀ f, f ∈ sourceFiles root entries ↔ ∃ directories name,
      f.path = root.below (directories ++ [name]) ∧
      (Node.directory entries).find? (directories ++ [name]) = some (.file f.contents) ∧
      isSourceName name = true ∧ ∀ d ∈ directories, isExcludedDirectory d = false) ∧
    walkEntries root (Node.plainEntries entries) = walkEntries root entries := by
  have hwhole : (Node.directory entries).WellFormed := FileSystem.wellFormed_of_list hfs hlist
  have hwalk := walk_of_list hroot hlist
  have hall : readable (sourceFiles root entries) = sourceFiles root entries :=
    List.filter_eq_self.2 hreadable
  have hgathers := gathers_walkEntries hwhole root
  rw [hall] at hgathers
  -- the packages are lost from no account because no two files have one key
  have hpaths := sourceFiles_pathNe hwhole root
  rw [hwalk]
  refine ⟨rfl, rfl, hgathers.accounts hpaths root, hpaths, fun f => mem_sourceFiles hwhole, ?_⟩
  rw [walkEntries, walkEntries, walkDirectories_plainEntries, walkFiles_plainEntries]

/-- A directory with source files in and out of sight, among links that lead in circles. -/
def linkedEntries : Listing :=
  [("a.js", .file "import 'x'".toUTF8.toList), ("loop", .link "."), ("socket.js", .other),
   ("node_modules", .directory [("x.js", .file [])]), (".git", .directory [("y.js", .file [])]),
   ("sub", .directory [("up", .link ".."), ("b.ts", .file []), ("c.txt", .file [])])]

/-- Of these files, the two in sight are walked, that in the directory first. -/
theorem walk_accounts_linkedEntries :
    (walk ⟨.directory [("p", .directory linkedEntries)], []⟩ ⟨"p"⟩).Accounts
      (sourceFiles ⟨"/p"⟩ linkedEntries) ∧
    (sourceFiles ⟨"/p"⟩ linkedEntries).map (·.path) = [⟨"/p/sub/b.ts"⟩, ⟨"/p/a.js"⟩] := by
  have hfs : FileSystem.WellFormed ⟨.directory [("p", .directory linkedEntries)], []⟩ := by decide
  have hreadable : ∀ f ∈ sourceFiles ⟨"/p"⟩ linkedEntries, FileSystem.fits f.path = true := by decide
  exact ⟨(walk_accounts_sourceFiles hfs rfl rfl hreadable).2.2.1, by decide⟩

/-- A walk reads the source files that can be followed, and no more. -/
theorem filesScanned_walk {fs : FileSystem} {p root : Path} (hfs : fs.WellFormed)
    (hroot : fs.canonical p = .ok root) (hlist : fs.list root = .ok entries) :
    (walk fs p).finds.filesScanned = (readable (sourceFiles root entries)).length := by
  rw [walk_of_list hroot hlist]
  exact (gathers_walkEntries (FileSystem.wellFormed_of_list hfs hlist) root).scanned

/-- The chain of directories is in sight. -/
theorem isExcludedDirectory_longName : isExcludedDirectory FileSystem.longName = false := by
  rw [isExcludedDirectory, Bool.or_eq_false_iff, beq_eq_false_iff_ne, beq_eq_false_iff_ne]
  refine ⟨?_, FileSystem.longName_ne (by decide)⟩
  intro hdot
  exact absurd (FileSystem.eq_of_mem_longName (List.mem_of_mem_head? hdot)) (by decide)

/-- **Not every regular file with the suffix of a source file is walked.**  One that lies so deep that its
path cannot be followed is left out, although it can be read through a link; and a name counts only if its
bytes are a text, even if they end in those of a suffix. -/
theorem walk_not_accounts_deepFile :
    let fs := FileSystem.deepFiles
    let entries := FileSystem.deepEntries
    fs.WellFormed ∧ fs.canonical ⟨"/"⟩ = .ok ⟨"/"⟩ ∧ fs.list ⟨"/"⟩ = .ok entries ∧
    (∃ f ∈ sourceFiles ⟨"/"⟩ entries, fs.read FileSystem.deepPath = .ok f.contents) ∧
    ¬(walk fs ⟨"/"⟩).Accounts (sourceFiles ⟨"/"⟩ entries) ∧
    ∃ name : Bytes, encode ".js".toList <:+ name ∧ isSourceBytes name = false := by
  intro fs entries
  have hfs : fs.WellFormed := FileSystem.wellFormed_deepFiles
  have hroot : fs.canonical ⟨"/"⟩ = .ok ⟨"/"⟩ := rfl
  have hlist : fs.list ⟨"/"⟩ = .ok entries := rfl
  have hfind := FileSystem.find?_deepPlace
  let f : ReadFile := ⟨FileSystem.pathOf FileSystem.deepPlace, FileSystem.deepContents⟩
  have hf : f ∈ sourceFiles ⟨"/"⟩ entries := by
    refine (mem_sourceFiles hfs).2 ⟨List.replicate 17 FileSystem.longName, "x.js", ?_, hfind, by decide, ?_⟩
    · exact FileSystem.pathOf_deepPlace
    · intro name hname
      rw [List.eq_of_mem_replicate hname]
      exact isExcludedDirectory_longName
  have hread : fs.read FileSystem.deepPath = .ok f.contents := by
    rw [FileSystem.read, FileSystem.locate_deepPath]
    rfl
  have hnot : ¬(walk fs ⟨"/"⟩).Accounts (sourceFiles ⟨"/"⟩ entries) := by
    intro h
    -- all source files would have been read, and so all could be followed
    have hall : (readable (sourceFiles ⟨"/"⟩ entries)).length = (sourceFiles ⟨"/"⟩ entries).length :=
      (filesScanned_walk hfs hroot hlist).symm.trans h.scanned
    have hfits := List.length_filter_eq_length_iff.1 hall f hf
    rw [FileSystem.not_fits_deepPlace] at hfits
    cases hfits
  exact ⟨hfs, hroot, hlist, ⟨f, hf, hread⟩, hnot,
    encode "caf".toList ++ 0xE9 :: encode ".js".toList, by decide, by decide⟩

end Survey

end ImportCensus
