/-
ImportCensus/Proofs/FileSystem/Removal.lean

File systems that differ in one file.

Two file systems are the same but for a place (`SameBut`) if at the place each of them has a regular file or
nothing, and without it they are equal.  Then all other places look alike, and since no way to another place
passes a file, a path that does not lead to the file leads to the same place in both.

Main statements: a path that does not lead to the file leads to the same place (`SameBut.locate`), and what
it reads does not change (`read_elsewhere`); what is read at the plainest path of another entry is the same
(`SameBut.read_pathOf`); and a directory has the same entries apart from the file (`SameBut.directory`).
-/
import ImportCensus.Proofs.FileSystem.Directory
import ImportCensus.Proofs.FileSystem.Resolve

namespace ImportCensus

open Text

namespace Node

variable {n n' m : Node} {name : String} {entries : Listing} {place names q : Place}
  {f : Listing → Listing}

/-- What looks alike is the same, unless it is two directories. -/
theorem directories_or_eq (h : n'.surface = n.surface) :
    (∃ entries entries', n = .directory entries ∧ n' = .directory entries') ∨ n' = n := by
  cases n with
  | directory entries =>
    cases n' with
    | directory entries' => exact .inl ⟨entries, entries', rfl, rfl⟩
    | _ => cases h
  | _ =>
    cases n' with
    | directory entries' => cases h
    | _ => exact .inr h

/-! ### Changes seen from a place -/

theorem putEntry_self (h : entry? name entries = some m) : putEntry name m entries = entries := by
  induction entries with
  | nil => cases h
  | cons e r ih =>
    rw [entry?_cons] at h
    rw [putEntry]
    split
    · next he =>
      rw [if_pos he] at h
      rw [← he, ← Option.some.inj h]
    · next he =>
      rw [if_neg he] at h
      rw [ih h]

/-- A changed directory is a directory. -/
theorem exists_change_eq_directory (f : Listing → Listing) (names : Place) (entries : Listing) :
    ∃ changed, change f names (.directory entries) = .directory changed := by
  cases names with
  | nil => exact ⟨_, rfl⟩
  | cons next names =>
    rw [change]
    split
    · exact ⟨_, rfl⟩
    · exact ⟨_, rfl⟩

/-- There is nothing to change in what is no directory. -/
theorem change_of_isDirectory (h : n.isDirectory = false) : change f names n = n := by
  cases n with
  | directory entries => cases h
  | _ => cases names <;> rfl

/-- A change that leaves the entries as they are leaves everything as it is. -/
theorem change_eq_self (h : ∀ entries, n.find? place = some (.directory entries) → f entries = entries) :
    change f place n = n := by
  induction place generalizing n with
  | nil =>
    cases n with
    | directory entries => rw [change, h entries rfl]
    | _ => rfl
  | cons next names ih =>
    cases n with
    | directory entries =>
      rw [change]
      cases hentry : entry? next entries with
      | none => rfl
      | some m =>
        have hm : change f names m = m := ih fun below hbelow => h below (by rw [find?, hentry]; exact hbelow)
        simp only
        rw [hm, putEntry_self hentry]
    | _ => rfl

/-- Above the changed directory, the change is found further below. -/
theorem find?_change_above (h : n.find? place = some m) :
    (change f (place ++ names) n).find? place = some (change f names m) := by
  induction place generalizing n with
  | nil =>
    cases h
    rfl
  | cons next place ih =>
    cases n with
    | directory entries =>
      obtain ⟨below, hentry, hm⟩ := find?_directory_cons.1 h
      rw [List.cons_append, change, hentry, find?]
      simp only [entry?_putEntry, if_pos]
      exact ih hm
    | _ => cases h

/-- Beside the changed entry and the directories above it, everything is as it was. -/
theorem find?_change_beside (hf : ∀ entries a, a ≠ name → entry? a (f entries) = entry? a entries)
    (habove : ¬q <+: place) (hbelow : ¬place ++ [name] <+: q) :
    (change f place n).find? q = n.find? q := by
  induction place generalizing n q with
  | nil =>
    cases q with
    | nil => exact absurd List.nil_prefix habove
    | cons first q =>
      have hfirst : first ≠ name := by
        rintro rfl
        exact hbelow ⟨q, rfl⟩
      cases n with
      | directory entries => rw [change, find?, find?, hf entries first hfirst]
      | _ => rfl
  | cons next names ih =>
    cases q with
    | nil => exact absurd List.nil_prefix habove
    | cons first q =>
      cases n with
      | directory entries =>
        rw [change]
        cases hentry : entry? next entries with
        | none => rfl
        | some below =>
          rw [find?, find?]
          simp only [entry?_putEntry]
          by_cases hfirst : next = first
          · subst hfirst
            rw [if_pos rfl, hentry]
            exact ih (fun h => habove (List.cons_prefix_cons.2 ⟨rfl, h⟩))
              (fun h => hbelow (List.cons_prefix_cons.2 ⟨rfl, h⟩))
          · rw [if_neg hfirst]
      | _ => rfl

end Node

namespace FileSystem

variable {fs fs' : FileSystem} {root root' n : Node} {place hole q : Place} {name : String} {p : Path}
  {links left : Nat} {xs : List (List Char)}

/-! ### One file more or less -/

/-- Is there a regular file at a place, or nothing? -/
def IsFileOrNothing (root : Node) (place : Place) : Prop :=
  ∀ m, root.find? place = some m → ∃ contents, m = .file contents

theorem IsFileOrNothing.isLoose (h : IsFileOrNothing root place) : IsLoose root place := by
  intro m hm
  obtain ⟨contents, rfl⟩ := h m hm
  exact ⟨rfl, nofun⟩

/-- Are two file systems equal but for a file at a place, which may be different or be in one of them
only? -/
structure SameBut (place : Place) (fs fs' : FileSystem) : Prop where
  rest : fs'.dropAt place = fs.dropAt place
  before : IsFileOrNothing fs.root place
  after : IsFileOrNothing fs'.root place

theorem SameBut.symm (h : SameBut place fs fs') : SameBut place fs' fs :=
  ⟨h.rest.symm, h.after, h.before⟩

theorem dropAt_current (fs : FileSystem) (place : Place) : (fs.dropAt place).current = fs.current := by
  rcases List.eq_nil_or_concat' place with rfl | ⟨d, name, rfl⟩
  · rfl
  · rw [dropAt_concat, drop_current]

theorem SameBut.current (h : SameBut place fs fs') : fs'.current = fs.current := by
  rw [← dropAt_current fs' place, h.rest, dropAt_current]

/-- Without the file, all other places look as they did. -/
theorem look_dropAt (h : IsFileOrNothing fs.root place) (hq : q ≠ place) :
    (fs.dropAt place).root.look q = fs.root.look q := by
  rcases List.eq_nil_or_concat' place with rfl | ⟨d, name, rfl⟩
  · rfl
  · rw [dropAt_concat]
    by_cases hd : fs.root.IsDirectoryAt d
    · exact look_drop_ne hd (fun m hm => (h.isLoose m hm).1) hq
    · rw [drop, Node.change_eq_self fun entries hentries => absurd ⟨entries, hentries⟩ hd]

theorem SameBut.look (h : SameBut place fs fs') (hq : q ≠ place) :
    fs'.root.look q = fs.root.look q := by
  rw [← look_dropAt h.after hq, h.rest, look_dropAt h.before hq]

/-! ### Ways elsewhere -/

/-- **A way that does not end at a place stays, if all else looks alike and the place is no directory and
no link.** -/
theorem Goes.persist_elsewhere (h : Goes root links place xs left q) (hq : q ≠ hole)
    (hloose : IsLoose root hole) (hlook : ∀ r, r ≠ hole → root'.look r = root.look r) :
    Goes root' links place xs left q := by
  have hleaf : ¬root.IsDirectoryAt hole := by
    rintro ⟨entries, hhole⟩
    cases (hloose _ hhole).1
  refine h.persist_beside hleaf (fun r hr _ => hlook r hr) ?_
  rintro more - d piece rest hpiece rfl hway
  cases hway with
  | silent _ hsilent =>
    rw [hpiece.not_silent] at hsilent
    cases hsilent
  | up => exact hpiece.not_parent rfl
  | enter _ _ hentry hn hrest =>
    -- what is entered is the end of the way or a directory
    cases hrest with
    | done => exact hq rfl
    | silent hhole | up hhole | enter hhole | follow hhole => exact hleaf hhole
  | follow _ _ hentry => exact (hloose _ hentry).2 _ rfl

/-- **A way to a file leads to its place before the file is there**, be it to the entry that is there or to the
name for one. -/
theorem Goes.exists_spot (h : Goes root' links place xs left hole) (hplace : place ≠ hole)
    (hloose : IsLoose root hole) {contents : Bytes} (hfile : root'.find? hole = some (.file contents))
    (hlook : ∀ r, r ≠ hole → root'.look r = root.look r) :
    ∃ spot, walkLinks root true links place xs = .ok spot ∧ spot.place? = some hole := by
  have hleaf : ¬root'.IsDirectoryAt hole := by
    rintro ⟨entries, hentries⟩
    rw [hfile] at hentries
    cases hentries
  -- on the way to the file, all directories and links are those that were there before
  induction h with
  | done => exact absurd rfl hplace
  | silent hdirectory hpiece hrest ih =>
    obtain ⟨spot, hwalk, hspot⟩ := ih hplace hloose hfile hlook hleaf
    obtain ⟨entries, hentries⟩ := isDirectoryAt_of_look (hlook _ hplace).symm hdirectory
    exact ⟨spot, walkLinks_cons_iff.2 ⟨entries, hentries, .silent hpiece hwalk⟩, hspot⟩
  | @up links left place hole rest hdirectory hrest ih =>
    have habove : place.dropLast ≠ hole := by
      rintro rfl
      exact hleaf hdirectory.dropLast
    obtain ⟨spot, hwalk, hspot⟩ := ih habove hloose hfile hlook hleaf
    obtain ⟨entries, hentries⟩ := isDirectoryAt_of_look (hlook _ hplace).symm hdirectory
    exact ⟨spot, walkLinks_cons_iff.2 ⟨entries, hentries, .up rfl hwalk⟩, hspot⟩
  | @enter links left place hole piece rest n hdirectory hpiece hentry hn hrest ih =>
    obtain ⟨entries, hentries⟩ := isDirectoryAt_of_look (hlook _ hplace).symm hdirectory
    have hfind := Node.find?_concat hentries (String.ofList piece)
    by_cases hend : place ++ [String.ofList piece] = hole
    · -- nothing of the way is left behind a file
      subst hend
      cases hrest with
      | done =>
        cases hm : Node.entry? (String.ofList piece) entries with
        | none => exact ⟨_, walkLinks_cons_iff.2 ⟨entries, hentries, .vacant hpiece hm rfl rfl⟩, rfl⟩
        | some m =>
          rw [hm] at hfind
          refine ⟨.found _ m, walkLinks_cons_iff.2 ⟨entries, hentries, ?_⟩, rfl⟩
          exact .enter hpiece hm (hloose m hfind).2 (walkLinks_nil_iff.2 ⟨m, hfind, rfl⟩)
      | silent hbelow | up hbelow | enter hbelow | follow hbelow => exact absurd hbelow hleaf
    · obtain ⟨spot, hwalk, hspot⟩ := ih hend hloose hfile hlook hleaf
      have hsame := hlook _ hend
      rw [Node.look, Node.look, hentry, Option.map_some, eq_comm, Option.map_eq_some_iff] at hsame
      obtain ⟨n', hfind', hsurface⟩ := hsame
      rw [hfind] at hfind'
      refine ⟨spot, walkLinks_cons_iff.2 ⟨entries, hentries, .enter hpiece hfind' ?_ hwalk⟩, hspot⟩
      rintro target rfl
      cases n with
      | link other => exact hn other rfl
      | _ => cases hsurface
  | @follow links left place hole piece rest target hdirectory hpiece hentry htarget hrest ih =>
    obtain ⟨entries, hentries⟩ := isDirectoryAt_of_look (hlook _ hplace).symm hdirectory
    have hlink : place ++ [String.ofList piece] ≠ hole := by
      rintro rfl
      rw [hfile] at hentry
      cases hentry
    have hstart : linkStart place target ≠ hole := by
      rintro rfl
      exact hleaf (isDirectoryAt_linkStart hdirectory target)
    obtain ⟨spot, hwalk, hspot⟩ := ih hstart hloose hfile hlook hleaf
    have hfind := hlook _ hlink
    rw [(Node.look_eq_some_iff rfl).2 hentry, eq_comm, Node.look_eq_some_iff rfl,
      Node.find?_concat hentries] at hfind
    exact ⟨spot, walkLinks_cons_iff.2
      ⟨entries, hentries, .follow hpiece hfind (.inr rfl) htarget rfl hwalk⟩, hspot⟩

/-- A path that leads elsewhere than to a place leads there still if nothing else looks different. -/
theorem locate_elsewhere (hcurrent : fs'.current = fs.current) (hloose : IsLoose fs.root hole)
    (hlook : ∀ r, r ≠ hole → fs'.root.look r = fs.root.look r) (hlocate : fs.locate p = .ok (q, n))
    (hq : q ≠ hole) : ∃ n', fs'.locate p = .ok (q, n') ∧ n'.surface = n.surface := by
  obtain ⟨htext, hwalk⟩ := locate_eq_ok_iff.1 hlocate
  obtain ⟨left, hgoes, hfind⟩ := exists_goes_of_found hwalk
  have hsame := hlook q hq
  rw [Node.look, Node.look, hfind, Option.map_some, Option.map_eq_some_iff] at hsame
  obtain ⟨n', hfind', hsurface⟩ := hsame
  have hgoes' := hgoes.persist_elsewhere hq hloose hlook
  have hstart : fs'.start p = fs.start p := by rw [start, start, hcurrent]
  refine ⟨n', locate_eq_ok_iff.2 ⟨htext, ?_⟩, hsurface⟩
  rw [hstart]
  exact hgoes'.walkLinks_eq_found hfind'

/-- A path that leads elsewhere than to the file leads to the same place without it, and what is there
looks alike. -/
theorem SameBut.locate (h : SameBut place fs fs') (hlocate : fs.locate p = .ok (q, n)) (hq : q ≠ place) :
    ∃ n', fs'.locate p = .ok (q, n') ∧ n'.surface = n.surface :=
  locate_elsewhere h.current h.before.isLoose (fun _ => h.look) hlocate hq

theorem read_eq_ok_iff {bytes : Bytes} : fs.read p = .ok bytes ↔ ∃ q, fs.locate p = .ok (q, .file bytes) := by
  rw [read, bind_eq_ok_iff]
  constructor
  · rintro ⟨⟨q, n⟩, hlocate, hread⟩
    cases n with
    | file contents =>
      cases hread
      exact ⟨q, hlocate⟩
    | _ => cases hread
  · rintro ⟨q, hlocate⟩
    exact ⟨_, hlocate, rfl⟩

theorem aim?_of_locate (h : fs.locate p = .ok (q, n)) : fs.aim? true p = some q := by
  obtain ⟨htext, hwalk⟩ := locate_eq_ok_iff.1 h
  exact aim?_eq_some_iff.2 ⟨_, spot_eq_ok_iff.2 ⟨htext, hwalk⟩, rfl⟩

/-- A path that leads to a file led to its place before the file was there. -/
theorem aim?_before (hcurrent : fs'.current = fs.current) (hloose : IsLoose fs.root hole) {contents : Bytes}
    (hlook : ∀ r, r ≠ hole → fs'.root.look r = fs.root.look r)
    (h : fs'.locate p = .ok (hole, .file contents)) : fs.aim? true p = some hole := by
  obtain ⟨htext, hwalk⟩ := locate_eq_ok_iff.1 h
  obtain ⟨left, hgoes, hfile⟩ := exists_goes_of_found hwalk
  have hstart : fs'.start p ≠ hole := by
    intro heq
    obtain ⟨entries, hentries⟩ := isDirectoryAt_start (spot_eq_ok_iff.2 ⟨htext, hwalk⟩)
    rw [heq, hfile] at hentries
    cases hentries
  obtain ⟨spot, hspot, hplace⟩ := hgoes.exists_spot hstart hloose hfile hlook
  rw [start, hcurrent] at hspot
  exact aim?_eq_some_iff.2 ⟨spot, spot_eq_ok_iff.2 ⟨htext, hspot⟩, hplace⟩

/-- **What a path reads does not depend on a file, unless the path leads to its place.** -/
theorem read_elsewhere (hcurrent : fs'.current = fs.current) (hloose : IsLoose fs.root hole) {contents : Bytes}
    (hfile : fs'.root.find? hole = some (.file contents))
    (hlook : ∀ r, r ≠ hole → fs'.root.look r = fs.root.look r) (haim : fs.aim? true p ≠ some hole)
    {bytes : Bytes} : fs'.read p = .ok bytes ↔ fs.read p = .ok bytes := by
  have hsame : ∀ {n' : Node}, n'.surface = (Node.file bytes).surface → n' = .file bytes := by
    intro n' hsurface
    rcases Node.directories_or_eq hsurface with ⟨_, _, hdirectory, -⟩ | heq
    · cases hdirectory
    · exact heq
  rw [read_eq_ok_iff, read_eq_ok_iff]
  constructor
  · rintro ⟨q, hlocate⟩
    have hq : q ≠ hole := by
      rintro rfl
      exact haim (aim?_before hcurrent hloose hlook hlocate)
    obtain ⟨n', hlocate', hsurface⟩ := locate_elsewhere hcurrent.symm (isLoose_of_file hfile)
      (fun r hr => (hlook r hr).symm) hlocate hq
    rw [hsame hsurface] at hlocate'
    exact ⟨q, hlocate'⟩
  · rintro ⟨q, hlocate⟩
    have hq : q ≠ hole := by
      rintro rfl
      exact haim (aim?_of_locate hlocate)
    obtain ⟨n', hlocate', hsurface⟩ := locate_elsewhere hcurrent hloose hlook hlocate hq
    rw [hsame hsurface] at hlocate'
    exact ⟨q, hlocate'⟩

/-- The same entries are links. -/
theorem SameBut.linkTarget?_eq (h : SameBut place fs fs') (q : Place) :
    linkTarget? fs'.root q = linkTarget? fs.root q := by
  have hnot : ∀ {root : Node}, IsFileOrNothing root place → linkTarget? root place = none := by
    intro root hfile
    rw [linkTarget?]
    cases hfind : root.find? place with
    | none => rfl
    | some m =>
      obtain ⟨contents, rfl⟩ := hfile m hfind
      rfl
  by_cases hq : q = place
  · rw [hq, hnot h.before, hnot h.after]
  · have hlook := h.look hq
    rw [Node.look, Node.look] at hlook
    rw [linkTarget?, linkTarget?]
    cases hfind : fs.root.find? q with
    | none =>
      rw [hfind, Option.map_none, Option.map_eq_none_iff] at hlook
      rw [hlook]
    | some n =>
      rw [hfind, Option.map_some, Option.map_eq_some_iff] at hlook
      obtain ⟨n', hfind', hsurface⟩ := hlook
      rw [hfind']
      rcases Node.directories_or_eq hsurface with ⟨entries, entries', rfl, rfl⟩ | rfl
      · rfl
      · rfl

/-- The plainest path of another entry is found or not, as it was. -/
theorem SameBut.canonical (h : SameBut place fs fs') (hlocate : fs.locate p = .ok (q, n)) (hq : q ≠ place) :
    fs'.canonical p = fs.canonical p := by
  obtain ⟨n', hlocate', -⟩ := h.locate hlocate hq
  rw [FileSystem.canonical, FileSystem.canonical, hlocate, hlocate',
    fitsWay_congr h.current h.linkTarget?_eq]
  rfl

/-! ### Plainest paths -/

/-- Can the plainest path of a place be followed, as far as its characters and names tell? -/
def checkPlace (place : Place) : Except FileError Unit := do
  checkText (pathOf place)
  if ∀ name ∈ place, name.utf8ByteSize ≤ nameLimit then return () else .error .nameTooLong

/-- The plainest path of an entry leads to it, or its characters and names prevent that. -/
theorem locate_pathOf_eq (hfs : fs.WellFormed) (h : fs.locate p = .ok (q, n)) :
    fs.locate (pathOf q) = (checkPlace q).map fun _ => (q, n) := by
  have hfind := find?_of_locate h
  obtain ⟨spot, hspot, -⟩ := exists_of_bind_ok h
  obtain ⟨entries, hroot⟩ := exists_root_of_spot hspot
  rw [checkPlace]
  cases htext : checkText (pathOf q) with
  | error e =>
    rw [FileSystem.locate, FileSystem.spot, htext]
    rfl
  | ok _ =>
    rw [FileSystem.locate, spot_pathOf (Node.isEntryName_of_find? hfs hfind) hroot hfind
      (not_link_of_locate h) htext]
    by_cases hsize : ∀ name ∈ q, name.utf8ByteSize ≤ nameLimit
    · rw [if_pos hsize]
      show _ = Except.map _ (if _ then _ else _)
      rw [if_pos hsize]
      rfl
    · rw [if_neg hsize]
      show _ = Except.map _ (if _ then _ else _)
      rw [if_neg hsize]
      rfl

/-- What is read at the plainest path of another entry is the same. -/
theorem SameBut.read_pathOf (h : SameBut place fs fs') (hfs : fs.WellFormed) (hfs' : fs'.WellFormed)
    (hlocate : fs.locate p = .ok (q, n)) (hq : q ≠ place) :
    fs'.read (pathOf q) = fs.read (pathOf q) := by
  obtain ⟨n', hlocate', hsurface⟩ := h.locate hlocate hq
  rw [read, read, locate_pathOf_eq hfs hlocate, locate_pathOf_eq hfs' hlocate']
  cases checkPlace q with
  | error e => rfl
  | ok _ =>
    rcases Node.directories_or_eq hsurface with ⟨entries, entries', rfl, rfl⟩ | rfl
    · rfl
    · rfl

/-- What is listed at the plainest path of a directory, if that can be followed, are its entries. -/
theorem list_pathOf_eq {entries : Listing} (hfs : fs.WellFormed)
    (h : fs.locate p = .ok (q, .directory entries)) :
    fs.list (pathOf q) = (checkPlace q).map fun _ => entries := by
  rw [list, locate_pathOf_eq hfs h]
  cases checkPlace q <;> rfl

/-! ### Directories -/

/-- Are the entries of two directories the same without an entry that is so many names below them? -/
def SameWithout (names : Place) (name : String) (entries entries' : Listing) : Prop :=
  Node.change (Node.removeEntry name) names (.directory entries')
    = Node.change (Node.removeEntry name) names (.directory entries)

/-- Without the file, the hierarchies are one. -/
theorem SameBut.change_eq {d : Place} (h : SameBut (d ++ [name]) fs fs') :
    fs'.root.change (Node.removeEntry name) d = fs.root.change (Node.removeEntry name) d := by
  have hdrop := h.rest
  rw [dropAt_concat, dropAt_concat] at hdrop
  exact congrArg FileSystem.root hdrop

theorem entry?_removeEntry_ne {a : String} (h : a ≠ name) (entries : Listing) :
    Node.entry? a (Node.removeEntry name entries) = Node.entry? a entries := by
  rw [Node.entry?_removeEntry, if_neg (Ne.symm h)]

/-- A directory has the same entries, or it is above the file and has them without the file. -/
theorem SameBut.directory {entries entries' : Listing} (h : SameBut place fs fs')
    (hfind : fs.root.find? q = some (.directory entries))
    (hfind' : fs'.root.find? q = some (.directory entries')) :
    entries' = entries ∨
      ∃ names name, place = q ++ (names ++ [name]) ∧ SameWithout names name entries entries' := by
  rcases List.eq_nil_or_concat' place with rfl | ⟨d, name, rfl⟩
  · have hsame : fs' = fs := h.rest
    rw [hsame, hfind] at hfind'
    cases hfind'
    exact .inl rfl
  · by_cases habove : q <+: d
    · obtain ⟨names, rfl⟩ := habove
      refine .inr ⟨names, name, List.append_assoc .., ?_⟩
      have hchange : (fs'.root.change (Node.removeEntry name) (q ++ names)).find? q
          = some (Node.change (Node.removeEntry name) names (.directory entries)) := by
        rw [h.change_eq, Node.find?_change_above hfind]
      rw [Node.find?_change_above hfind'] at hchange
      exact Option.some.inj hchange
    · -- what is not above the file and not below it stays
      have hbelow := h.before.isLoose.not_above hfind (.inl rfl)
      have hother := fun entries a (ha : a ≠ name) => entry?_removeEntry_ne ha entries
      rw [← Node.find?_change_beside hother habove hbelow, h.change_eq,
        Node.find?_change_beside hother habove hbelow, hfind] at hfind'
      cases hfind'
      exact .inl rfl

end FileSystem

end ImportCensus
