/-
ImportCensus/Proofs/Survey/Agreement.lean

Surveying a directory and surveying the files that were found in it come to the same.

A scan of a directory walks a hierarchy, and a scan of a list of files reads one after the other.  Both
gather accounts of files (`Finds.Gathers`), and accounts of the same files are the same but for the
hierarchy.  It remains that the path under which a walk shows a file leads to that file again: it goes on
from the directory and passes no link there, so nothing but names that no file system keeps could prevent it.

Main statement: a scan of the files of a walked hierarchy has the outcome of a scan of its root, without
the hierarchy (`scan_files_of_walk`).
-/
import ImportCensus.Proofs.FileSystem.Below
import ImportCensus.Proofs.Survey.Scan

namespace ImportCensus

open Text

/-- Are all names on the way to a file such that a file system can keep them: not too long, and without
the character that ends paths? -/
def FileSystem.NamesFit (fs : FileSystem) : Prop :=
  ∀ l ∈ fs.root.leaves, ∀ name ∈ l.place,
    name.utf8ByteSize ≤ FileSystem.nameLimit ∧ '\x00' ∉ name.toList

instance (fs : FileSystem) : Decidable fs.NamesFit :=
  inferInstanceAs (Decidable (∀ l ∈ fs.root.leaves, ∀ name ∈ l.place,
    name.utf8ByteSize ≤ FileSystem.nameLimit ∧ '\x00' ∉ name.toList))

namespace Survey

variable {fs : FileSystem} {a b found : Finds} {scanned : List ReadFile}

/-! ### Accounts of the same files -/

/-- Accounts of the same files agree on everything but the hierarchy. -/
theorem Finds.Gathers.agree (ha : a.Gathers scanned) (hb : b.Gathers scanned)
    (hpaths : scanned.Pairwise ReadFile.PathNe) :
    a.files = b.files ∧ a.deepDive = b.deepDive ∧ a.filesScanned = b.filesScanned := by
  refine ⟨?_, ha.deepDive.trans hb.deepDive.symm, ha.scanned.trans hb.scanned.symm⟩
  exact SortedMap.eq_of_perm ((ha.files hpaths).trans (hb.files hpaths).symm)

/-- The outcome without the hierarchy that was walked. -/
def Outcome.withoutTree : Outcome → Outcome
  | .found survey => .found { survey with tree := none }
  | .nothing filesScanned => .nothing filesScanned

theorem withoutTree_ofFinds (tree : Option SourceTree) (hfiles : a.files = b.files)
    (hdeep : a.deepDive = b.deepDive) (hscanned : a.filesScanned = b.filesScanned) :
    (Outcome.ofFinds tree a).withoutTree = .ofFinds none b := by
  rw [Outcome.ofFinds, Outcome.ofFinds, hfiles, hdeep, hscanned]
  split <;> rfl

theorem tree_of_ofFinds {tree : Option SourceTree} {survey : Survey}
    (h : Outcome.ofFinds tree found = .found survey) : survey.tree = tree := by
  rw [Outcome.ofFinds] at h
  split at h
  · cases h
  · cases h
    rfl

/-! ### Files one by one -/

/-- Files that can be read are all read, whatever is in them. -/
theorem exists_readFiles (h : ∀ f ∈ scanned, fs.read f.path = .ok f.contents) :
    ∃ found, readFiles fs (scanned.map (·.path)) = .ok found := by
  induction scanned with
  | nil => exact ⟨.none, rfl⟩
  | cons f r ih =>
    obtain ⟨hf, hr⟩ := List.forall_mem_cons.1 h
    obtain ⟨rest, hrest⟩ := ih hr
    have hanalyze : analyze fs f.path = .ok (packagesOf f.contents) := by
      rw [analyze, hf]
    refine ⟨.ofFile (nodeName f.path) f.path (packagesOf f.contents) ++ rest, ?_⟩
    rw [List.map_cons, readFiles, hanalyze, hrest]
    rfl

/-- A scan of files that can be read gathers just these. -/
theorem exists_scanFiles (h : ∀ f ∈ scanned, fs.read f.path = .ok f.contents)
    (hpaths : scanned.Pairwise ReadFile.PathNe) :
    ∃ found, scanFiles fs (scanned.map (·.path)) = .ok found ∧ found.Gathers scanned := by
  obtain ⟨found, hread⟩ := exists_readFiles h
  have hscan : scanFiles fs (scanned.map (·.path)) = .ok { found with deepDive := distinct found.deepDive } := by
    rw [scanFiles, hread]
    rfl
  have hdiffer : (scanned.map (·.path)).Pairwise fun p q => compare p q ≠ .eq :=
    List.pairwise_map.2 hpaths
  obtain ⟨others, hothers, hreads, -, hgathers⟩ := gathers_of_scanFiles hdiffer hscan
  -- the files are known by their paths
  obtain rfl : others = scanned := eq_of_map_path hreads h hothers
  exact ⟨_, hscan, hgathers⟩

/-! ### The files of a walk -/

/-- **The files that a walk shows can be read where it shows them.** -/
theorem read_of_mem_readable {root : Path} {entries : Listing} {f : ReadFile} (hfs : fs.WellFormed)
    (hnames : fs.NamesFit) (hlist : fs.list root = .ok entries)
    (hf : f ∈ readable (sourceFiles root entries)) : fs.read f.path = .ok f.contents := by
  obtain ⟨⟨place, n⟩, hlocate, hlisted⟩ := exists_of_bind_ok hlist
  obtain rfl : n = .directory entries := by
    cases n with
    | directory others =>
      cases hlisted
      rfl
    | _ => cases hlisted
  have hplace := FileSystem.find?_of_locate hlocate
  obtain ⟨hsource, hfits⟩ := List.mem_filter.1 hf
  have hentries : (Node.directory entries).WellFormed := Node.WellFormed.find? hfs hplace
  obtain ⟨directories, name, hpath, hbelow, -⟩ := (mem_sourceFiles hentries).1 hsource
  have hleaf : (⟨place ++ (directories ++ [name]), f.contents⟩ : Leaf) ∈ fs.root.leaves := by
    refine (Node.mem_leaves hfs).2 ⟨by simp, ?_⟩
    rw [Node.find?_append, hplace]
    exact hbelow
  have hkept := fun name hname => hnames _ hleaf name (List.mem_append_right place hname)
  rw [hpath] at hfits ⊢
  rw [FileSystem.read, FileSystem.locate_below (Node.isEntryName_of_find? hentries hbelow) hkept hlocate hbelow
    (Node.file_ne_link _) hfits]
  rfl

/-- **A scan of the files of a walked hierarchy has the outcome of a scan of its root.**  In a well-formed
file system with names that fit, let a directory be walked whose root can be listed.  Then a scan of the
directory and a scan of the file entries of the hierarchy, in their order, both succeed; both find packages
or both do not; and they agree on all but the hierarchy, which only the first one has. -/
theorem scan_files_of_walk {p : Path} (hfs : fs.WellFormed) (hnames : fs.NamesFit)
    (hroot : (walk fs p).rootError = none) :
    ∃ outcome, scan fs (.directory p) = .ok outcome ∧
      scan fs (.files ((walk fs p).tree.fileEntries.map (·.path))) = .ok outcome.withoutTree ∧
      ∀ survey, outcome = .found survey → survey.tree = some (walk fs p).tree := by
  obtain ⟨scanned, hscans, hpaths, hgathers⟩ := gathers_of_walk hfs hroot
  have hreads : ∀ f ∈ scanned, fs.read f.path = .ok f.contents := by
    cases hscans with
    | directory hroot hlist => exact fun f => read_of_mem_readable hfs hnames hlist
  have hfiles : (walk fs p).tree.fileEntries.map (·.path) = scanned.map (·.path) := by
    have hshown : (walk fs p).tree.fileEntries = scanned.map ReadFile.entry :=
      (hgathers.accounts hpaths (walk fs p).root).shown
    rw [hshown, List.map_map]
    rfl
  obtain ⟨found, hscan, hfound⟩ := exists_scanFiles hreads hpaths
  obtain ⟨hmap, hdeep, hcount⟩ := hgathers.agree hfound hpaths
  refine ⟨.ofFinds (some (walk fs p).tree) (walk fs p).finds, ?_, ?_, ?_⟩
  · rw [scan, hroot]
  · rw [hfiles, scan, hscan, withoutTree_ofFinds _ hmap hdeep hcount]
    rfl
  · exact fun survey => tree_of_ofFinds

/-- The two files in sight among links that lead in circles, surveyed one by one: both surveys find the one
package in use, in one of two files. -/
theorem scan_files_of_linkedEntries :
    ∃ survey,
      scan ⟨.directory [("p", .directory linkedEntries)], []⟩ (.directory ⟨"p"⟩) = .ok (.found survey) ∧
      scan ⟨.directory [("p", .directory linkedEntries)], []⟩ (.files [⟨"/p/sub/b.ts"⟩, ⟨"/p/a.js"⟩])
        = .ok (.found { survey with tree := none }) ∧
      survey.usage.entries = [(⟨"x", by decide⟩, ⟨1, [⟨"/p/a.js"⟩]⟩)] ∧ survey.filesScanned = 2 := by
  have hfs : FileSystem.WellFormed ⟨.directory [("p", .directory linkedEntries)], []⟩ := by decide
  have hnames : FileSystem.NamesFit ⟨.directory [("p", .directory linkedEntries)], []⟩ := by decide
  have hfiles : (walk ⟨.directory [("p", .directory linkedEntries)], []⟩ ⟨"p"⟩).tree.fileEntries.map
      (·.path) = [⟨"/p/sub/b.ts"⟩, ⟨"/p/a.js"⟩] := by decide
  have hfound : (match scan ⟨.directory [("p", .directory linkedEntries)], []⟩ (.directory ⟨"p"⟩) with
      | .ok (.found survey) => decide (survey.usage.entries = [(⟨"x", by decide⟩, ⟨1, [⟨"/p/a.js"⟩]⟩)] ∧
          survey.filesScanned = 2)
      | _ => false) = true := by decide +kernel
  obtain ⟨outcome, hdirectory, hlist, -⟩ := scan_files_of_walk (p := ⟨"p"⟩) hfs hnames rfl
  rw [hfiles] at hlist
  rw [hdirectory] at hfound ⊢
  cases outcome with
  | found survey => exact ⟨survey, rfl, hlist, of_decide_eq_true hfound⟩
  | nothing => cases hfound

end Survey

end ImportCensus
