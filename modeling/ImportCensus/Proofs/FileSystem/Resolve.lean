/-
ImportCensus/Proofs/FileSystem/Resolve.lean

The plainest path of an entry leads to the entry.

Such a path starts at the root and names the entries on the way, none of which is a link.  It is followed
name by name, and nothing but the lengths of the names, the length of the path and the character that ends
paths can keep it from its entry.

Main statements: the path of an entry below a place is the plainest path of the entry (`below_pathOf`), and
it leads there (`locate_pathOf`) and nowhere else (`eq_of_locate_pathOf`).
-/
import ImportCensus.Proofs.FileSystem.Way

namespace ImportCensus

open Text

namespace FileSystem

variable {fs : FileSystem} {place : Place} {name : String}

/-! ### Spelling -/

theorem join_empty_cons (names : List String) :
    join '/' ([] :: names.map String.toList) = names.flatMap fun name => '/' :: name.toList := by
  induction names with
  | nil => rfl
  | cons name r ih =>
    cases r with
    | nil => simp [join]
    | cons next r =>
      simp only [List.map_cons, join, List.nil_append, List.flatMap_cons, List.cons_append] at ih ⊢
      rw [ih]

/-- Every name of a place stands behind a slash. -/
theorem toList_pathOf (h : place ≠ []) :
    (pathOf place).text.toList = place.flatMap fun name => '/' :: name.toList := by
  obtain ⟨name, rest, rfl⟩ := List.exists_cons_of_ne_nil h
  rw [← join_empty_cons, pathOf, Path.ofComponents.eq_2 _ (by simp), String.toList_ofList,
    List.map_cons, List.map_map]
  rfl

/-- The pieces of the path of an entry are an empty one and the names. -/
theorem split_pathOf (hne : place ≠ []) (h : ∀ name ∈ place, IsEntryName name) :
    split '/' (pathOf place).text.toList = [] :: place.map String.toList := by
  rw [toList_pathOf hne, ← join_empty_cons]
  apply Text.split_join (List.cons_ne_nil _ _)
  intro piece hpiece
  rcases List.mem_cons.1 hpiece with rfl | hpiece
  · exact List.not_mem_nil
  · obtain ⟨name, hname, rfl⟩ := List.mem_map.1 hpiece
    exact (h name hname).no_slash

/-- The path of a place ends in a slash only at the root. -/
theorem getLast?_pathOf (h : ∀ name ∈ place, IsEntryName name) :
    (pathOf place).text.toList.getLast? = some '/' ↔ place = [] := by
  refine ⟨?_, fun hplace => by rw [hplace]; rfl⟩
  intro hlast
  rcases List.eq_nil_or_concat' place with hplace | ⟨front, name, rfl⟩
  · exact hplace
  · have hname : IsEntryName name := h name (by simp)
    have hne : name.toList ≠ [] := Path.toList_ne hname.ne_empty
    rw [toList_pathOf (by simp), List.flatMap_append, List.flatMap_singleton,
      List.getLast?_append_cons, List.getLast?_cons_of_ne_nil hne] at hlast
    exact absurd (List.mem_of_getLast? hlast) hname.no_slash

theorem head?_pathOf (place : Place) : (pathOf place).text.toList.head? = some '/' := by
  cases place with
  | nil => rfl
  | cons name rest =>
    rw [toList_pathOf (List.cons_ne_nil name rest)]
    rfl

theorem text_pathOf_ne : (pathOf place).text ≠ "" := by
  intro htext
  have hslash := head?_pathOf place
  rw [htext] at hslash
  cases hslash

/-- The plainest path of an entry is that of its directory with one name more. -/
theorem child_pathOf (h : ∀ name ∈ place, IsEntryName name) (hname : IsEntryName name) :
    (pathOf place).child name = pathOf (place ++ [name]) := by
  have hrelative : (⟨name⟩ : Path).isAbsolute = false := by
    rw [Path.isAbsolute, Path.components_name hname]
    rfl
  rw [Path.child, Path.join, if_neg (by simp [hrelative]), if_neg text_pathOf_ne]
  have hconcat : place ++ [name] ≠ [] := by simp
  apply Path.eq_of_toList
  rw [toList_pathOf hconcat, List.flatMap_append, List.flatMap_singleton]
  by_cases hplace : place = []
  · rw [if_pos ((getLast?_pathOf h).2 hplace), hplace, String.toList_append]
    rfl
  · rw [if_neg (mt (getLast?_pathOf h).1 hplace), String.toList_append, String.toList_append,
      toList_pathOf hplace, List.append_assoc]
    rfl

/-- Further names lead on from the plainest path of a directory to those of what is below it. -/
theorem below_pathOf {names : List String} (h : ∀ name ∈ place ++ names, IsEntryName name) :
    (pathOf place).below names = pathOf (place ++ names) := by
  induction names generalizing place with
  | nil => rw [Path.below_nil, List.append_nil]
  | cons name r ih =>
    rw [List.append_cons] at h ⊢
    rw [Path.below_cons, child_pathOf (fun n hn => h n (by simp [hn])) (h name (by simp)), ih h]

/-! ### Following names -/

variable {root n : Node} {onLink : Place → List (List Char) → Except FileError Spot}

/-- One name is followed to the entry, if that is no link and the name is not too long. -/
theorem walkPieces_name {entries : Listing} {rest : List (List Char)}
    (hname : IsEntryName name) (hplace : root.find? place = some (.directory entries))
    (hentry : Node.entry? name entries = some n) (hn : ∀ target, n ≠ .link target)
    (hsize : name.utf8ByteSize ≤ nameLimit) (followLast : Bool) :
    walkPieces root followLast onLink place (name.toList :: rest)
      = walkPieces root followLast onLink (place ++ [name]) rest := by
  have hparent : name.toList ≠ ['.', '.'] := Path.toList_ne hname.ne_parent
  rw [walkPieces, hplace]
  simp only [not_isSilent_name hname, Bool.false_eq_true, if_false, hparent, String.ofList_toList,
    Nat.not_lt.2 hsize, hentry]

/-- A name that is too long is not followed. -/
theorem walkPieces_longName {entries : Listing} {rest : List (List Char)}
    (hname : IsEntryName name) (hplace : root.find? place = some (.directory entries))
    (hsize : nameLimit < name.utf8ByteSize) (followLast : Bool) :
    walkPieces root followLast onLink place (name.toList :: rest) = .error .nameTooLong := by
  have hparent : name.toList ≠ ['.', '.'] := Path.toList_ne hname.ne_parent
  rw [walkPieces, hplace]
  simp only [not_isSilent_name hname, Bool.false_eq_true, if_false, hparent, String.ofList_toList,
    hsize, if_true]

/-- Names lead to what is found below, if that is no link and none of them is too long. -/
theorem walkPieces_names {names : Place} (hnames : ∀ name ∈ names, IsEntryName name)
    (hfind : root.find? (place ++ names) = some n) (hn : ∀ target, n ≠ .link target)
    (followLast : Bool) :
    walkPieces root followLast onLink place (names.map String.toList)
      = if ∀ name ∈ names, name.utf8ByteSize ≤ nameLimit then .ok (.found (place ++ names) n)
        else .error .nameTooLong := by
  induction names generalizing place with
  | nil =>
    rw [List.append_nil] at hfind ⊢
    rw [List.map_nil, walkPieces, hfind, if_pos (by simp)]
  | cons name r ih =>
    obtain ⟨hname, hr⟩ := List.forall_mem_cons.1 hnames
    obtain ⟨entries, m, hplace, hentry, hrest⟩ := Node.exists_directory_of_find? hfind
    -- what has an entry below it is no link, and neither is the last entry
    have hm : ∀ target, m ≠ .link target := by
      rintro target rfl
      cases r with
      | nil => exact hn target (Option.some.inj hrest).symm
      | cons next r => cases hrest
    rw [List.append_cons] at hfind ⊢
    simp only [List.map_cons, List.forall_mem_cons]
    by_cases hsize : name.utf8ByteSize ≤ nameLimit
    · rw [walkPieces_name hname hplace hentry hm hsize, ih hr hfind]
      simp only [hsize, true_and]
    · rw [walkPieces_longName hname hplace (Nat.lt_of_not_le hsize), if_neg (fun h => hsize h.1)]

/-! ### Plainest paths -/

theorem checkText_pathOf (hnames : ∀ name ∈ place, '\x00' ∉ name.toList)
    (hfits : fits (pathOf place) = true) : checkText (pathOf place) = .ok () := by
  have hnul : (pathOf place).text.toList.contains '\x00' = false := by
    rw [List.contains_eq_mem, decide_eq_false_iff_not]
    intro hmem
    by_cases hne : place = []
    · rw [hne] at hmem
      exact absurd hmem (by decide)
    · rw [toList_pathOf hne, List.mem_flatMap] at hmem
      obtain ⟨name, hname, hchar⟩ := hmem
      rcases List.mem_cons.1 hchar with hslash | hchar
      · exact absurd hslash (by decide)
      · exact hnames name hname hchar
  rw [checkText, if_neg text_pathOf_ne, hnul, hfits]
  rfl

/-- A path that leads somewhere is followed from a directory. -/
theorem isDirectoryAt_start {followLast : Bool} {p : Path} {spot : Spot}
    (h : fs.spot followLast p = .ok spot) : fs.root.IsDirectoryAt (fs.start p) := by
  obtain ⟨-, -, hwalk⟩ := exists_of_bind_ok h
  obtain ⟨piece, pieces, hpieces⟩ := List.exists_cons_of_ne_nil (split_ne_nil '/' p.text.toList)
  rw [hpieces] at hwalk
  obtain ⟨entries, hplace, -⟩ := walkLinks_cons_iff.1 hwalk
  exact ⟨entries, hplace⟩

theorem exists_root_of_spot {followLast : Bool} {p : Path} {spot : Spot}
    (h : fs.spot followLast p = .ok spot) : ∃ entries, fs.root = .directory entries := by
  have hstart := isDirectoryAt_start h
  rw [← List.nil_append (fs.start p)] at hstart
  obtain ⟨entries, hroot⟩ := hstart.of_append
  exact ⟨entries, Option.some.inj hroot⟩

/-- What a path leads to is no link. -/
theorem not_link_of_locate {p : Path} (h : fs.locate p = .ok (place, n)) (target : String) :
    n ≠ .link target := by
  have hspot := spot_eq_ok_iff.2 (locate_eq_ok_iff.1 h)
  obtain ⟨left, hgoes, hfind⟩ := exists_goes_of_found (locate_eq_ok_iff.1 h).2
  rintro rfl
  exact hgoes.not_link (isDirectoryAt_start hspot).not_link target hfind

/-- How the plainest path of an entry is followed. -/
theorem spot_pathOf {entries : Listing} (hplace : ∀ name ∈ place, IsEntryName name)
    (hroot : fs.root = .directory entries) (hfind : fs.root.find? place = some n)
    (hn : ∀ target, n ≠ .link target) (htext : checkText (pathOf place) = .ok ())
    (followLast : Bool) :
    fs.spot followLast (pathOf place)
      = if ∀ name ∈ place, name.utf8ByteSize ≤ nameLimit then .ok (.found place n)
        else .error .nameTooLong := by
  have hwalk : fs.spot followLast (pathOf place)
      = walkLinks fs.root followLast linkLimit [] (split '/' (pathOf place).text.toList) := by
    rw [spot, htext, start, if_pos (head?_pathOf place)]
    rfl
  have hsilent : ∀ pieces onLink, walkPieces fs.root followLast onLink [] ([] :: pieces)
      = walkPieces fs.root followLast onLink [] pieces := by
    intro pieces onLink
    rw [walkPieces, hroot]
    rfl
  rw [hwalk, walkLinks_eq]
  by_cases hne : place = []
  · -- the root is spelled as two empty pieces
    have hpieces : split '/' (pathOf place).text.toList = [[], []] := by
      rw [hne]
      rfl
    subst hne
    rw [hpieces, hsilent, hsilent, walkPieces, hfind, if_pos (List.forall_mem_nil _)]
  · rw [split_pathOf hne hplace, hsilent, walkPieces_names hplace hfind hn followLast]
    rfl

/-- **The plainest path of an entry leads to the entry.** -/
theorem locate_pathOf {entries : Listing} (hplace : ∀ name ∈ place, IsEntryName name)
    (hroot : fs.root = .directory entries) (hfind : fs.root.find? place = some n)
    (hn : ∀ target, n ≠ .link target) (htext : checkText (pathOf place) = .ok ())
    (hsize : ∀ name ∈ place, name.utf8ByteSize ≤ nameLimit) :
    fs.locate (pathOf place) = .ok (place, n) := by
  rw [locate, spot_pathOf hplace hroot hfind hn htext, if_pos hsize]
  rfl

/-- The plainest path of an entry leads nowhere else. -/
theorem eq_of_locate_pathOf {q : Place} {m : Node} (hplace : ∀ name ∈ place, IsEntryName name)
    (hfind : fs.root.find? place = some n) (hn : ∀ target, n ≠ .link target)
    (h : fs.locate (pathOf place) = .ok (q, m)) : q = place ∧ m = n := by
  obtain ⟨spot, hspot, hfound⟩ := exists_of_bind_ok h
  obtain ⟨entries, hroot⟩ := exists_root_of_spot hspot
  obtain ⟨htext, -⟩ := spot_eq_ok_iff.1 hspot
  rw [spot_pathOf hplace hroot hfind hn htext] at hspot
  split at hspot
  · cases hspot
    cases hfound
    exact ⟨rfl, rfl⟩
  · cases hspot

end FileSystem

end ImportCensus
