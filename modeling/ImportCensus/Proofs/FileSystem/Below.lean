/-
ImportCensus/Proofs/FileSystem/Below.lean

What is below a directory is found at the paths below it.

However a path leads to a directory, through links or past silent pieces, the path with a name behind it has
this directory and leads to its entry of that name.  So name by name a path goes on to everything below the
directory, as long as it is not too long and passes no link.

Main statement: `locate_below`.
-/
import ImportCensus.Proofs.FileSystem.Directory

namespace ImportCensus

open Text

/-! ### The last name of a path -/

namespace Path

variable {name : String}

theorem endsIn_child (p : Path) (h : IsEntryName name) : (p.child name).EndsIn name where
  fileName := fileName?_child p h
  last := by
    have hbehind : ∀ text : String, (split '/' (text ++ "/" ++ name).toList).getLast? = some name.toList := by
      intro text
      have hsplit : split '/' (text ++ "/" ++ name).toList = split '/' text.toList ++ [name.toList] := by
        rw [String.toList_append, String.toList_append, List.append_assoc, ← split_of_notMem h.no_slash]
        exact split_append_sep text.toList name.toList
      rw [hsplit, List.getLast?_concat]
    rcases child_cases p h with ⟨-, hchild⟩ | ⟨text, -, hchild⟩ | ⟨-, hchild⟩
    · rw [hchild, split_of_notMem h.no_slash]
      rfl
    · rw [hchild]
      exact hbehind text
    · rw [hchild]
      exact hbehind p.text

/-- A character of the path of an entry is one of its directory or of its name. -/
theorem mem_child {c : Char} {p : Path} (h : IsEntryName name) (hc : c ∈ (p.child name).text.toList) :
    c ∈ p.text.toList ∨ c = '/' ∨ c ∈ name.toList := by
  rcases child_cases p h with ⟨-, hchild⟩ | ⟨text, htext, hchild⟩ | ⟨-, hchild⟩
  · rw [hchild] at hc
    exact .inr (.inr hc)
  · rw [hchild, String.toList_append, List.mem_append, ← htext] at hc
    exact hc.imp_right .inr
  · rw [hchild, String.toList_append, String.toList_append, List.append_assoc, List.mem_append,
      List.mem_append] at hc
    exact hc.imp_right (Or.imp_left List.mem_singleton.1)

end Path

namespace FileSystem

variable {fs : FileSystem} {p : Path} {name : String} {place names : Place} {n : Node} {entries : Listing}

/-! ### One name further -/

theorem checkText_eq_ok_iff : checkText p = .ok () ↔
    p.text ≠ "" ∧ '\x00' ∉ p.text.toList ∧ fits p = true := by
  rw [checkText]
  by_cases hempty : p.text = ""
  · simp [hempty]
  · by_cases hnul : '\x00' ∈ p.text.toList
    · simp [hempty, hnul]
    · cases hfits : fits p <;> simp [hempty, hnul]

theorem checkText_child (h : checkText p = .ok ()) (hname : IsEntryName name) (hnul : '\x00' ∉ name.toList)
    (hfits : fits (p.child name) = true) : checkText (p.child name) = .ok () := by
  obtain ⟨-, hp, -⟩ := checkText_eq_ok_iff.1 h
  refine checkText_eq_ok_iff.2 ⟨?_, ?_, hfits⟩
  · intro hempty
    have hnone : (⟨""⟩ : Path).fileName? = some name := by
      rw [← hempty]
      exact Path.fileName?_child p hname
    cases hnone
  · intro hmem
    rcases Path.mem_child hname hmem with hmem | hslash | hmem
    · exact hp hmem
    · exact absurd hslash (by decide)
    · exact hnul hmem

/-- The directory of an entry is the one to which the path before its name leads. -/
theorem directory?_child (hname : IsEntryName name) (h : fs.locate p = .ok (place, .directory entries)) :
    fs.directory? (p.child name) = some place := by
  obtain ⟨-, hwalk⟩ := locate_eq_ok_iff.1 h
  obtain ⟨left, hgoes, hfind⟩ := exists_goes_of_found hwalk
  have hcomponents := Path.components_child p hname
  have hstart : fs.start (p.child name) = fs.start p := by
    apply start_eq
    rw [hcomponents]
    cases p.components <;> simp
  refine directory?_eq_some_iff.2 ⟨⟨entries, hfind⟩, left, ?_⟩
  rw [hstart, directoryPieces, hcomponents, List.dropLast_concat]
  apply hgoes.congr ⟨entries, hfind⟩
  simp only [isSilent_eq]
  exact Path.filter_split p

/-- The path of an entry leads to it, unless it is a link. -/
theorem locate_child (hname : IsEntryName name)
    (hkept : name.utf8ByteSize ≤ nameLimit ∧ '\x00' ∉ name.toList)
    (h : fs.locate p = .ok (place, .directory entries)) (hentry : Node.entry? name entries = some n)
    (hn : ∀ target, n ≠ .link target) (hfits : fits (p.child name) = true) :
    fs.locate (p.child name) = .ok (place ++ [name], n) := by
  have htext := checkText_child (locate_eq_ok_iff.1 h).1 hname hkept.2 hfits
  have hfind : fs.root.find? (place ++ [name]) = some n := by
    rw [Node.find?_concat (find?_of_locate h), hentry]
  rw [locate, spot_true_eq_found (Path.endsIn_child p hname) (directory?_child hname h) htext hkept.1 hfind hn]
  rfl

/-! ### Many names further -/

/-- **What is below a directory is found at the paths below the path of the directory**, as long as these are
not too long. -/
theorem locate_below (hnames : ∀ name ∈ names, IsEntryName name)
    (hkept : ∀ name ∈ names, name.utf8ByteSize ≤ nameLimit ∧ '\x00' ∉ name.toList)
    (h : fs.locate p = .ok (place, .directory entries)) (hfind : (Node.directory entries).find? names = some n)
    (hn : ∀ target, n ≠ .link target) (hfits : fits (p.below names) = true) :
    fs.locate (p.below names) = .ok (place ++ names, n) := by
  induction names generalizing p place entries with
  | nil =>
    cases hfind
    rw [List.append_nil]
    exact h
  | cons name rest ih =>
    obtain ⟨hname, hrest⟩ := List.forall_mem_cons.1 hnames
    obtain ⟨hfirst, hothers⟩ := List.forall_mem_cons.1 hkept
    obtain ⟨m, hentry, hbelow⟩ := Node.find?_directory_cons.1 hfind
    have hlocate := locate_child hname hfirst h hentry
    have hchild : fits (p.child name) = true := fits_of_fits_below hrest hfits
    rw [Path.below_cons]
    cases rest with
    | nil =>
      cases hbelow
      exact hlocate hn hchild
    | cons next rest =>
      -- what has something below it is a directory
      obtain ⟨entries, rfl⟩ := Node.exists_eq_directory hbelow (List.cons_ne_nil _ _)
      rw [List.append_cons]
      exact ih hrest hothers (hlocate (Node.directory_ne_link _) hchild) hbelow hfits

end FileSystem

end ImportCensus
