/-
ImportCensus/Proofs/FileSystem/Deep.lean

What lies deeper than paths can tell.

A path may be short and lead far down, through links.  The path without links and dots names every directory
on the way, so that it may be too long to be followed although the entry can be read.  It is then not found
out: a path that is found out can be followed (`fits_of_canonical`).

Main statements: `fits_of_canonical`; and in a chain of directories with a link to one of them (`deepFiles`),
a file is read at a path of moderate length (`locate_deepPath`) whose own path is too long
(`not_fits_deepPlace`).
-/
import ImportCensus.Proofs.FileSystem.Below
import ImportCensus.Proofs.FileSystem.Resolve
import Mathlib.Algebra.GroupWithZero.Nat

namespace ImportCensus

open Text

/-! ### Sizes -/

theorem Path.size_child_le {name : String} (p : Path) (h : IsEntryName name) :
    (p.child name).text.utf8ByteSize ≤ p.text.utf8ByteSize + (name.utf8ByteSize + 1) := by
  have hslash : "/".utf8ByteSize = 1 := rfl
  rcases child_cases p h with ⟨-, hchild⟩ | ⟨front, htext, hchild⟩ | ⟨-, hchild⟩
  · rw [hchild]
    dsimp only
    omega
  · rw [hchild, htext]
    simp only [String.utf8ByteSize_append]
    omega
  · rw [hchild]
    simp only [String.utf8ByteSize_append]
    omega

theorem Path.size_below_le {names : List String} (p : Path) (h : ∀ name ∈ names, IsEntryName name) :
    (p.below names).text.utf8ByteSize
      ≤ p.text.utf8ByteSize + (names.map fun name => name.utf8ByteSize + 1).sum := by
  induction names generalizing p with
  | nil => exact Nat.le_refl _
  | cons name rest ih =>
    obtain ⟨hname, hrest⟩ := List.forall_mem_cons.1 h
    have hchild := size_child_le p hname
    have hbelow := ih (p.child name) hrest
    rw [below_cons, List.map_cons, List.sum_cons]
    omega

namespace FileSystem

variable {fs : FileSystem} {root : Node} {p path : Path} {links left : Nat} {place q rest : Place}
  {xs : List (List Char)}

/-- The plainest path of an entry has the bytes of the names on the way, each behind a slash. -/
theorem size_pathOf (h : place ≠ []) :
    (pathOf place).text.utf8ByteSize = (place.map fun name => name.utf8ByteSize + 1).sum := by
  have hchars : ∀ names : Place,
      (String.ofList (names.flatMap fun name => '/' :: name.toList)).utf8ByteSize
        = (names.map fun name => name.utf8ByteSize + 1).sum := by
    intro names
    induction names with
    | nil => rfl
    | cons name rest ih =>
      have hsplit : String.ofList ((name :: rest).flatMap fun name => '/' :: name.toList)
          = "/" ++ name ++ String.ofList (rest.flatMap fun name => '/' :: name.toList) := by
        apply String.ext
        simp
      have hslash : "/".utf8ByteSize = 1 := rfl
      rw [hsplit, String.utf8ByteSize_append, String.utf8ByteSize_append, ih, hslash, List.map_cons,
        List.sum_cons]
      omega
  rw [← hchars place, ← toList_pathOf h, String.ofList_toList]

/-- A directory above an entry has a shorter path. -/
theorem fits_of_fits_append (h : fits (pathOf (place ++ rest)) = true) : fits (pathOf place) = true := by
  by_cases hplace : place = []
  · rw [hplace]
    rfl
  · have hall : place ++ rest ≠ [] := fun hnil => hplace (List.append_eq_nil_iff.1 hnil).1
    rw [fits, decide_eq_true_iff, size_pathOf hall, List.map_append, List.sum_append] at h
    rw [fits, decide_eq_true_iff, size_pathOf hplace]
    omega

theorem fits_dropLast (h : fits (pathOf place) = true) : fits (pathOf place.dropLast) = true := by
  rcases List.eq_nil_or_concat' place with rfl | ⟨front, name, rfl⟩
  · exact h
  · rw [List.dropLast_concat]
    exact fits_of_fits_append h

theorem fits_linkStart (h : fits (pathOf place) = true) (target : String) :
    fits (pathOf (linkStart place target)) = true := by
  rw [linkStart]
  split
  · rw [← List.nil_append place] at h
    exact fits_of_fits_append h
  · exact h

/-! ### Paths that are found out -/

/-- If every entry on a way has a path that can be followed, the one at its end has. -/
theorem Goes.fits (h : Goes root links place xs left q) (hplace : fits (pathOf place) = true)
    (hway : fitsLinks root links place xs = true) : fits (pathOf q) = true := by
  induction h with
  | done => exact hplace
  | @silent links left place q piece rest _ hpiece _ ih =>
    apply ih hplace
    cases links <;> simpa only [fitsLinks, fitsPieces, hpiece, if_true] using hway
  | @up links left place q rest _ _ ih =>
    have hsilent : isSilent ['.', '.'] = false := rfl
    apply ih (fits_dropLast hplace)
    cases links <;> simpa only [fitsLinks, fitsPieces, hsilent, Bool.false_eq_true, if_false, if_true] using hway
  | @enter links left place q piece rest n _ hpiece hentry hn _ ih =>
    have hlink : linkTarget? root (place ++ [String.ofList piece]) = none := by
      rw [linkTarget?, hentry]
      cases n with
      | link target => exact absurd rfl (hn target)
      | _ => rfl
    have hstep : FileSystem.fits (pathOf (place ++ [String.ofList piece])) = true ∧
        fitsLinks root links (place ++ [String.ofList piece]) rest = true := by
      cases links <;> simpa only [fitsLinks, fitsPieces, hpiece.not_silent, hpiece.not_parent, hlink,
        Bool.false_eq_true, if_false, Bool.and_eq_true] using hway
    exact ih hstep.1 hstep.2
  | @follow links left place q piece rest target _ hpiece hentry _ _ ih =>
    have hlink : linkTarget? root (place ++ [String.ofList piece]) = some target := by
      rw [linkTarget?, hentry]
    rw [fitsLinks, fitsPieces] at hway
    simp only [hpiece.not_silent, hpiece.not_parent, hlink, Bool.false_eq_true, if_false,
      Bool.and_eq_true] at hway
    exact ih (fits_linkStart hplace target) hway.2

/-- **A path without links and dots that is found out can be followed.** -/
theorem fits_of_canonical (hcurrent : fits (pathOf fs.current) = true) (h : fs.canonical p = .ok path) :
    fits path = true := by
  obtain ⟨place, n, hlocate, hway, rfl⟩ := canonical_eq_ok_iff.1 h
  obtain ⟨left, hgoes, -⟩ := exists_goes_of_found (locate_eq_ok_iff.1 hlocate).2
  refine hgoes.fits ?_ hway
  rw [start]
  split
  · rfl
  · exact hcurrent

/-! ### A chain of directories -/

/-- A name of so many letters. -/
def letters (n : Nat) : String :=
  String.ofList (List.replicate n 'a')

theorem size_letters (n : Nat) : (letters n).utf8ByteSize = n := by
  induction n with
  | zero => rfl
  | succ n ih =>
    have hsplit : letters (n + 1) = "a" ++ letters n := by
      apply String.ext
      simp [letters, List.replicate_succ]
    have hfirst : "a".utf8ByteSize = 1 := rfl
    rw [hsplit, String.utf8ByteSize_append, ih, hfirst]
    omega

theorem eq_of_mem_letters {c : Char} {n : Nat} (h : c ∈ (letters n).toList) : c = 'a' := by
  rw [letters, String.toList_ofList] at h
  exact List.eq_of_mem_replicate h

/-- A name as long as names may be. -/
def longName : String :=
  letters nameLimit

theorem size_longName : longName.utf8ByteSize = nameLimit :=
  size_letters nameLimit

theorem eq_of_mem_longName {c : Char} (h : c ∈ longName.toList) : c = 'a' :=
  eq_of_mem_letters h

-- from here on its size and its letters are all that counts, and it is not to be spelled out
attribute [irreducible] longName

theorem longName_ne {name : String} (h : name.utf8ByteSize < nameLimit) : longName ≠ name := by
  rintro rfl
  exact absurd size_longName (Nat.ne_of_lt h)

theorem isEntryName_longName : IsEntryName longName where
  ne_empty := longName_ne (by decide)
  ne_current := longName_ne (by decide)
  ne_parent := longName_ne (by decide)
  no_slash := fun h => absurd (eq_of_mem_longName h) (by decide)

theorem sum_sizes (depth : Nat) :
    ((List.replicate depth longName ++ ["x.js"]).map fun name => name.utf8ByteSize + 1).sum
      = depth * 256 + 5 := by
  have hfile : "x.js".utf8ByteSize = 4 := rfl
  simp [size_longName, hfile, nameLimit]

/-- So many directories, each the only entry of the one above it, and some entries in the last of them. -/
def nested (entries : Listing) : Nat → Listing
  | 0 => entries
  | depth + 1 => [(longName, .directory (nested entries depth))]

theorem find?_nested (entries : Listing) (depth more : Nat) (rest : Place) :
    (Node.directory (nested entries (more + depth))).find? (List.replicate depth longName ++ rest)
      = (Node.directory (nested entries more)).find? rest := by
  induction depth with
  | zero => rfl
  | succ depth ih =>
    rw [List.replicate_succ, List.cons_append, ← Nat.add_assoc, nested, Node.find?]
    simp only [Node.entry?, List.find?_cons, beq_self_eq_true, Option.map_some]
    exact ih

theorem wellFormed_nested {entries : Listing} (h : (Node.directory entries).WellFormed) (depth : Nat) :
    (Node.directory (nested entries depth)).WellFormed := by
  induction depth with
  | zero => exact h
  | succ depth ih =>
    refine .directory ?_ (List.nodup_singleton _) ?_
    · rintro e he
      rw [List.mem_singleton.1 he]
      exact isEntryName_longName
    · rintro e he
      rw [List.mem_singleton.1 he]
      exact ih

def deepContents : Bytes :=
  "import 'x'\n".toUTF8.toList

/-- One source file. -/
def oneSource : Listing :=
  [("x.js", .file deepContents)]

/-- The path of the eighth directory from the root. -/
def linkTarget : String :=
  String.ofList (join '/' ((List.replicate 8 longName).map String.toList))

/-- A source file below seventeen directories, and a link to the eighth of them. -/
def deepEntries : Listing :=
  [(longName, .directory (nested oneSource 16)), ("s", .link linkTarget)]

def deepFiles : FileSystem :=
  ⟨.directory deepEntries, []⟩

/-- The place of the file. -/
def deepPlace : Place :=
  List.replicate 17 longName ++ ["x.js"]

/-- A path of the file that starts with the link. -/
def deepPath : Path :=
  (⟨"s"⟩ : Path).below (List.replicate 9 longName ++ ["x.js"])

theorem wellFormed_deepFiles : deepFiles.WellFormed := by
  have hsource : (Node.directory oneSource).WellFormed := by decide
  refine .directory ?_ ?_ ?_
  · rintro e he
    simp only [deepEntries, List.mem_cons, List.not_mem_nil, or_false] at he
    rcases he with rfl | rfl
    · exact isEntryName_longName
    · decide
  · have hne : longName ≠ "s" := longName_ne (by decide)
    simp [deepEntries, hne]
  · rintro e he
    simp only [deepEntries, List.mem_cons, List.not_mem_nil, or_false] at he
    rcases he with rfl | rfl
    · exact wellFormed_nested hsource 16
    · exact .link _

theorem find?_deepFiles (depth more : Nat) (h : depth + more = 16) (rest : Place) :
    deepFiles.root.find? (List.replicate (depth + 1) longName ++ rest)
      = (Node.directory (nested oneSource more)).find? rest := by
  rw [List.replicate_succ, List.cons_append, deepFiles, deepEntries, Node.find?]
  simp only [Node.entry?, List.find?_cons, beq_self_eq_true, Option.map_some]
  rw [← h, Nat.add_comm]
  exact find?_nested oneSource depth more rest

theorem find?_deepPlace : deepFiles.root.find? deepPlace = some (.file deepContents) :=
  find?_deepFiles 16 0 rfl ["x.js"]

theorem isEntryName_deepPlace : ∀ name ∈ deepPlace, IsEntryName name :=
  Node.isEntryName_of_find? wellFormed_deepFiles find?_deepPlace

theorem pathOf_deepPlace : pathOf deepPlace = (⟨"/"⟩ : Path).below deepPlace :=
  (@below_pathOf [] deepPlace isEntryName_deepPlace).symm

/-- The link leads to a directory half way down. -/
theorem locate_link :
    deepFiles.locate ⟨"s"⟩ = .ok (List.replicate 8 longName, .directory (nested oneSource 9)) := by
  have hnames : ∀ name ∈ List.replicate 8 longName, IsEntryName name := by
    intro name hname
    rw [List.eq_of_mem_replicate hname]
    exact isEntryName_longName
  have hsizes : ∀ name ∈ List.replicate 8 longName, name.utf8ByteSize ≤ nameLimit := by
    intro name hname
    rw [List.eq_of_mem_replicate hname]
    exact Nat.le_of_eq size_longName
  have hfind : deepFiles.root.find? ([] ++ List.replicate 8 longName)
      = some (.directory (nested oneSource 9)) := by
    have hdown := find?_deepFiles 7 9 rfl []
    rw [List.append_nil] at hdown
    exact hdown
  -- the pieces of the target are the names that it was put together from
  have hpieces : split '/' (join '/' ((List.replicate 8 longName).map String.toList))
      = (List.replicate 8 longName).map String.toList := by
    apply Text.split_join
    · exact List.cons_ne_nil _ _
    · intro piece hpiece
      obtain ⟨name, hname, rfl⟩ := List.mem_map.1 hpiece
      exact (hnames name hname).no_slash
  have hdown : walkLinks deepFiles.root true 39 [] ((List.replicate 8 longName).map String.toList)
      = .ok (.found (List.replicate 8 longName) (.directory (nested oneSource 9))) := by
    rw [walkLinks_eq, walkPieces_names hnames hfind (Node.directory_ne_link _) true, if_pos hsizes]
    rfl
  have htarget : linkTarget ≠ "" := by
    intro hempty
    rw [String.ofList_eq_empty_iff.1 hempty] at hpieces
    have hlength := congrArg List.length hpieces
    rw [List.length_map, List.length_replicate] at hlength
    cases hlength
  have hentry : Node.entry? (String.ofList ['s']) deepEntries = some (.link linkTarget) := by
    have hne : (longName == "s") = false := beq_eq_false_iff_ne.2 (longName_ne (by decide))
    simp [deepEntries, Node.entry?, hne]
  have hrest : walkLinks deepFiles.root true 39 (linkStart [] linkTarget) (split '/' linkTarget.toList ++ [])
      = .ok (.found (List.replicate 8 longName) (.directory (nested oneSource 9))) := by
    rw [linkStart, ite_self, linkTarget, String.toList_ofList, hpieces, List.append_nil]
    exact hdown
  have hstep : IsStep ['s'] := ⟨rfl, by decide, by decide⟩
  have hwalk := walkLinks_cons_iff.2 ⟨deepEntries, rfl, .follow hstep hentry (.inr rfl) htarget rfl hrest⟩
  exact locate_eq_ok_iff.2 ⟨rfl, hwalk⟩

/-- The file is read at its path through the link. -/
theorem locate_deepPath :
    deepFiles.locate deepPath = .ok (deepPlace, .file deepContents) := by
  have hsizes : ∀ name ∈ List.replicate 9 longName ++ ["x.js"],
      IsEntryName name ∧ name.utf8ByteSize ≤ nameLimit ∧ '\x00' ∉ name.toList := by
    intro name hname
    rcases List.mem_append.1 hname with hname | hname
    · rw [List.eq_of_mem_replicate hname]
      exact ⟨isEntryName_longName, Nat.le_of_eq size_longName,
        fun h => absurd (eq_of_mem_longName h) (by decide)⟩
    · rw [List.mem_singleton.1 hname]
      decide
  have hfind : (Node.directory (nested oneSource 9)).find? (List.replicate 9 longName ++ ["x.js"])
      = some (.file deepContents) := find?_nested oneSource 9 0 ["x.js"]
  have hfits : fits deepPath = true := by
    have hsize : deepPath.text.utf8ByteSize ≤ 1 + _ :=
      Path.size_below_le ⟨"s"⟩ fun name hname => (hsizes name hname).1
    rw [sum_sizes] at hsize
    rw [fits, decide_eq_true_iff, pathLimit]
    omega
  exact locate_below (fun name hname => (hsizes name hname).1) (fun name hname => (hsizes name hname).2)
    locate_link hfind (Node.file_ne_link _) hfits

/-- The path of its place is too long. -/
theorem not_fits_deepPlace : fits (pathOf deepPlace) = false := by
  have hplace : deepPlace ≠ [] := by simp [deepPlace]
  rw [fits, decide_eq_false_iff_not, size_pathOf hplace, deepPlace, sum_sizes, pathLimit]
  omega

/-- So the file is not found out. -/
theorem fitsWay_deepPath : deepFiles.fitsWay deepPath = false := by
  cases hway : deepFiles.fitsWay deepPath with
  | false => rfl
  | true =>
    have hcanonical := canonical_eq_ok_iff.2 ⟨deepPlace, _, locate_deepPath, hway, rfl⟩
    have hfits := fits_of_canonical rfl hcanonical
    rw [not_fits_deepPlace] at hfits
    cases hfits

end FileSystem

end ImportCensus
