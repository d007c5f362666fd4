/-
ImportCensus/Proofs/FileSystem/Moved.lean

Files that are written, and entries that are moved.

A file that is written is read at its path, also where the path leads through a link to it.  When an entry is
moved to another name in its directory, paths to it lead where they led before.  This is plain for a file; but
a link that is moved may then be on its own way, or on the way to its directory, and the path leads nowhere.
It never leads elsewhere: a way that comes to the link once more would follow more links than it does.

Main statements: what is written is there (`locate_of_write`), and an entry that has been moved leads where it
led, if it leads anywhere (`IsMoved.locate_unique`).
-/
import ImportCensus.Proofs.FileSystem.Resolve
import ImportCensus.Proofs.FileSystem.SamePath

namespace ImportCensus.FileSystem

open Text

variable {root root' n m : Node} {links left : Nat} {place d q q' e : Place} {piece : List Char}
  {xs : List (List Char)} {a b name other : String} {fs fs' : FileSystem} {p t : Path} {spot : Spot}

/-! ### Writing -/

/-- Is a spot at a place, whether there is an entry or only a name for one? -/
inductive Spot.IsAt (e : Place) : Spot → Prop
  | found {n : Node} : IsAt e (.found e n)
  | vacant {d : Place} {name : String} (he : e = d ++ [name]) : IsAt e (.vacant d name false)

/-- Where a path to a place starts there is a directory, unless it is the place, and no link in either case. -/
theorem exists_start_of_walkLinks (hroot : Persists root root') (hm : root'.find? e = some m)
    (hlink : ∀ target, m ≠ .link target) (hspot : spot.IsAt e)
    (h : walkLinks root true links place xs = .ok spot) :
    ∃ n, root'.find? place = some n ∧ ∀ target, n ≠ .link target := by
  cases xs with
  | nil =>
    obtain ⟨n, -, rfl⟩ := walkLinks_nil_iff.1 h
    cases hspot
    exact ⟨m, hm, hlink⟩
  | cons piece rest =>
    obtain ⟨entries, hplace, -⟩ := walkLinks_cons_iff.1 h
    obtain ⟨entries', hplace'⟩ := hroot.directory ⟨entries, hplace⟩
    exact ⟨_, hplace', nofun⟩

/-- A path that leads to a place leads there when directories and links have stayed and an entry is there. -/
theorem walkLinks_persist (hroot : Persists root root') (hm : root'.find? e = some m)
    (hlink : ∀ target, m ≠ .link target) (hspot : spot.IsAt e)
    (h : walkLinks root true links place xs = .ok spot) :
    walkLinks root' true links place xs = .ok (.found e m) := by
  -- each link that is followed leaves one link less, but makes the pieces more
  induction links using Nat.strongRecOn generalizing place xs with
  | ind links ihlinks =>
    induction xs generalizing place with
    | nil =>
      obtain ⟨n, hn, rfl⟩ := walkLinks_nil_iff.1 h
      cases hspot
      exact walkLinks_nil_iff.2 ⟨m, hm, rfl⟩
    | cons piece rest ih =>
      obtain ⟨entries, hplace, hstep⟩ := walkLinks_cons_iff.1 h
      obtain ⟨entries', hplace'⟩ := hroot.directory ⟨entries, hplace⟩
      refine walkLinks_cons_iff.2 ⟨entries', hplace', ?_⟩
      cases hstep with
      | silent hpiece hrest => exact .silent hpiece (ih hrest)
      | up hpiece hrest => exact .up hpiece (ih hrest)
      | vacant hpiece hentry hrest heq =>
        subst heq
        generalize hslash : (!rest.isEmpty) = slash at hspot
        cases hspot with
        | vacant he =>
          obtain rfl : rest = [] := by simpa using hslash
          have hfound := hm
          rw [he, Node.find?_concat hplace'] at hfound
          refine .enter hpiece hfound hlink ?_
          rw [← he]
          exact walkLinks_nil_iff.2 ⟨m, hm, rfl⟩
      | link _ _ _ hlast => cases hlast
      | follow hpiece hentry hlast htarget hlinks hrest =>
        have hfind := hroot.link (Node.find?_append_singleton hplace hentry)
        rw [Node.find?_concat hplace'] at hfind
        exact .follow hpiece hfind hlast htarget hlinks
          (ihlinks _ (by omega) hrest)
      | enter hpiece hentry hn hrest =>
        obtain ⟨n', hfind, hn'⟩ := exists_start_of_walkLinks hroot hm hlink hspot hrest
        rw [Node.find?_concat hplace'] at hfind
        exact .enter hpiece hfind hn' (ih hrest)

/-- What a path leads to is missing in a directory, if it is missing. -/
theorem isDirectoryAt_of_vacant {slash : Bool}
    (h : walkLinks root true links place xs = .ok (.vacant d name slash)) :
    root.IsDirectoryAt d ∧ root.find? (d ++ [name]) = none := by
  induction links using Nat.strongRecOn generalizing place xs with
  | ind links ihlinks =>
    induction xs generalizing place with
    | nil =>
      obtain ⟨n, -, hspot⟩ := walkLinks_nil_iff.1 h
      cases hspot
    | cons piece rest ih =>
      obtain ⟨entries, hplace, hstep⟩ := walkLinks_cons_iff.1 h
      cases hstep with
      | silent _ hrest | up _ hrest | enter _ _ _ hrest => exact ih hrest
      | vacant _ hentry _ hspot =>
        cases hspot
        exact ⟨⟨entries, hplace⟩, by rw [Node.find?_concat hplace, hentry]⟩
      | link _ _ _ hlast => cases hlast
      | follow _ _ _ _ hlinks hrest => exact ihlinks _ (by omega) hrest

/-- **What is written is there.** -/
theorem locate_of_write {contents : Bytes} (h : fs.write p contents = .ok fs') :
    ∃ q, fs'.locate p = .ok (q, .file contents) := by
  obtain ⟨spot, hspot, hwritten⟩ := exists_of_bind_ok h
  obtain ⟨htext, hwalk⟩ := spot_eq_ok_iff.1 hspot
  -- in any case a directory gets the file, in the place of another one or where there was nothing
  have hput : ∃ d name, fs' = fs.put d name (.file contents) ∧ fs.root.IsDirectoryAt d ∧
      IsLoose fs.root (d ++ [name]) ∧ spot.IsAt (d ++ [name]) := by
    cases spot with
    | found place n =>
      have hfind : fs.root.find? place = some n := fits_of_spot hspot
      cases n with
      | file old =>
        cases hwritten
        obtain ⟨entries, hroot⟩ := exists_root_of_spot hspot
        rcases List.eq_nil_or_concat' place with rfl | ⟨d, name, rfl⟩
        · rw [hroot] at hfind
          cases hfind
        · obtain ⟨others, -, hd, -⟩ := Node.exists_directory_of_find? hfind
          exact ⟨d, name, putAt_concat .., ⟨others, hd⟩, isLoose_of_file hfind, .found⟩
      | _ => cases hwritten
    | vacant d name slash =>
      cases slash with
      | true => cases hwritten
      | false =>
        cases hwritten
        obtain ⟨hd, hnone⟩ := isDirectoryAt_of_vacant hwalk
        exact ⟨d, name, rfl, hd, isLoose_of_none hnone, .vacant rfl⟩
  obtain ⟨d, name, rfl, hd, hloose, hat⟩ := hput
  refine ⟨d ++ [name], ?_⟩
  have hfile : (fs.put d name (.file contents)).root.find? (d ++ [name]) = some (.file contents) :=
    find?_put hd []
  exact locate_eq_ok_iff.2 ⟨htext, walkLinks_persist (persists_put hd hloose) hfile nofun hat hwalk⟩

/-! ### Moving -/

namespace Goes

/-- Pieces are followed in a directory. -/
theorem isDirectoryAt_of_cons (h : Goes root links place (piece :: xs) left q) : root.IsDirectoryAt place := by
  cases h with
  | silent hplace | up hplace | enter hplace | follow hplace => exact hplace

/-- A way through one piece does not come to it again, as it would follow more links than it does. -/
theorem not_again (h : Goes root (links + 1) d [piece] left q) {more : ℕ} (hmore : more ≤ links)
    (rest : List (List Char)) : ¬Goes root more d (piece :: rest) left q := by
  intro hagain
  rw [← List.singleton_append] at hagain
  obtain ⟨mid, r, hpiece, hrest⟩ := exists_of_append hagain
  obtain ⟨-, hlinks⟩ := h.unique hpiece rfl
  have hleft := hrest.left_le
  omega

/-- An entry that is no link leads to itself. -/
theorem eq_of_entry (h : Goes root links d [name.toList] left q) (hname : IsStep name.toList)
    (hentry : root.find? (d ++ [name]) = some n) (hn : ∀ target, n ≠ .link target) : q = d ++ [name] := by
  have hway : Goes root links d [name.toList] links (d ++ [String.ofList name.toList]) := by
    rw [← String.ofList_toList (s := name)] at hentry
    exact .enter h.isDirectoryAt_of_cons hname hentry hn .done
  rw [String.ofList_toList] at hway
  exact (h.unique hway rfl).1

end Goes

/-- Does a hierarchy come from another one by an entry that was moved to another name in its directory?  All
else that is there afterwards was there before. -/
structure IsMoved (root root' : Node) (d : Place) (a b : String) (n : Node) : Prop where
  directory : root.IsDirectoryAt d
  leaf : n.isDirectory = false
  source : root.find? (d ++ [a]) = some n
  target : root'.find? (d ++ [b]) = some n
  look : ∀ r, r ≠ d ++ [b] → root'.find? r ≠ none → root.look r = root'.look r

namespace IsMoved

theorem not_isDirectoryAt (m : IsMoved root root' d a b n) : ¬root'.IsDirectoryAt (d ++ [b]) := by
  rintro ⟨entries, hfind⟩
  cases m.target.symm.trans hfind
  cases m.leaf

/-- What is a directory afterwards was one before. -/
theorem isDirectoryAt (m : IsMoved root root' d a b n) (h : root'.IsDirectoryAt place) :
    root.IsDirectoryAt place := by
  have hne : place ≠ d ++ [b] := by
    rintro rfl
    exact m.not_isDirectoryAt h
  obtain ⟨entries, hfind⟩ := h
  exact isDirectoryAt_of_look (m.look place hne (by simp [hfind])) ⟨entries, hfind⟩

/-- A way that does not come to the moved entry was there before. -/
theorem goes (m : IsMoved root root' d a b n) (h : Goes root' links place xs left q)
    (hpass : ∀ more ≤ links, ∀ rest, ¬Goes root' more d (b.toList :: rest) left q) :
    Goes root links place xs left q := by
  refine h.persist_beside m.not_isDirectoryAt m.look ?_
  rintro more hmore d' piece rest - hplace
  obtain ⟨rfl, hpiece⟩ := List.append_inj' hplace rfl
  rw [List.singleton_inj, ← String.toList_inj, String.toList_ofList] at hpiece
  rw [hpiece]
  exact hpass more hmore rest

/-- What is moved leads where it led, if it leads anywhere. -/
theorem goes_entry (m : IsMoved root root' d a b n) (ha : IsStep a.toList) (hb : IsStep b.toList)
    (hn : ∃ target, n = .link target) (h : Goes root' links d [b.toList] left q) :
    Goes root links d [a.toList] left q := by
  obtain ⟨target, rfl⟩ := hn
  have hsource := m.source
  have htarget := m.target
  generalize hpiece : b.toList = piece at h hb
  have hname : String.ofList piece = b := by rw [← hpiece, String.ofList_toList]
  rw [← String.ofList_toList (s := a)] at hsource
  have hagain := h
  cases h with
  | silent _ hsilent =>
    rw [hb.not_silent] at hsilent
    cases hsilent
  | up => exact absurd rfl hb.not_parent
  | enter _ _ hentry hn =>
    rw [hname, htarget] at hentry
    cases hentry
    exact absurd rfl (hn target)
  | follow hplace _ hentry hne hrest =>
    rw [hname, htarget] at hentry
    cases hentry
    refine .follow m.directory ha hsource hne (m.goes hrest fun more hmore rest => ?_)
    rw [hpiece]
    exact hagain.not_again hmore rest

/-- No way to a directory comes to the moved entry, if it led to none. -/
theorem not_goes_directory (m : IsMoved root root' d a b n) (ha : IsStep a.toList) (hb : IsStep b.toList)
    (hlead : Goes root links d [a.toList] left q) (hq : ¬root.IsDirectoryAt q) (hplace : root'.IsDirectoryAt place)
    {more left' : ℕ} (rest : List (List Char)) : ¬Goes root' more d (b.toList :: rest) left' place := by
  intro h
  rw [← List.singleton_append] at h
  obtain ⟨mid, r, hentry, hrest⟩ := h.exists_of_append
  have hr : root'.IsDirectoryAt r := hrest.isDirectoryAt hplace
  by_cases hn : ∃ target, n = .link target
  · obtain ⟨rfl, -⟩ := hlead.unique (m.goes_entry ha hb hn hentry) rfl
    exact hq (m.isDirectoryAt hr)
  · obtain rfl := hentry.eq_of_entry hb m.target (by simpa using hn)
    exact m.not_isDirectoryAt hr

end IsMoved

/-- An entry that takes the place of another one in its directory has been moved. -/
theorem isMoved_drop_put (hd : fs.root.IsDirectoryAt d) (hne : a ≠ b) (hn : n.isDirectory = false)
    (hsource : fs.root.find? (d ++ [a]) = some n)
    (hentry : ∀ m, fs.root.find? (d ++ [b]) = some m → m.isDirectory = false) :
    IsMoved fs.root ((fs.drop d a).put d b n).root d a b n := by
  have hleaf : ∀ m, fs.root.find? (d ++ [a]) = some m → m.isDirectory = false := by
    intro m hm
    cases hsource.symm.trans hm
    exact hn
  have hdropped : (fs.drop d a).root.IsDirectoryAt d :=
    isDirectoryAt_of_look (look_drop_ne hd hleaf (by simp)) hd
  refine ⟨hd, hn, hsource, find?_put hdropped [], ?_⟩
  intro r hr hthere
  have hne' : r ≠ d ++ [a] := by
    rintro rfl
    rw [find?_put_ne hdropped hne.symm []] at hthere
    exact hthere (find?_drop hd [])
  rw [look_put_ne hdropped (fun m hm => hentry m ?_) hn hr, look_drop_ne hd hleaf hne']
  rwa [find?_drop_ne hd hne []] at hm

/-- A path that ends in a name leads to its directory, and then where the name leads there. -/
theorem exists_goes_to_name (hp : p.EndsIn name) (h : fs.locate p = .ok (q, n)) :
    ∃ d more left, fs.directory? p = some d ∧
      Goes fs.root linkLimit (fs.start p) (directoryPieces p) more d ∧
      Goes fs.root more d [name.toList] left q ∧ IsStep name.toList := by
  obtain ⟨⟨left, hgoes⟩, -⟩ := exists_goes_of_locate h
  obtain ⟨spot, hspot, -⟩ := exists_of_bind_ok h
  obtain ⟨-, -, -, hsize⟩ := exists_directory hp.fileName hspot
  obtain ⟨front, hsplit, hfront⟩ := hp.exists_split
  rw [hsplit] at hgoes
  obtain ⟨more, d, hdirectory, hname⟩ := hgoes.exists_of_append
  have hd := hname.isDirectoryAt_of_cons
  have hpieces : front.filter (!isSilent ·) = (directoryPieces p).filter (!isSilent ·) := by
    simp only [isSilent_eq]
    exact hfront
  have hway := hdirectory.congr hd hpieces
  exact ⟨d, more, left, directory?_eq_some_iff.2 ⟨hd, more, hway⟩, hway, hname,
    isStep_name (Path.isEntryName_of_fileName? hp.fileName) hsize⟩

/-- **An entry that has been moved leads where it led**, if it led to no directory and leads anywhere. -/
theorem IsMoved.locate_unique (m : IsMoved fs.root fs'.root d a b n) (hcurrent : fs'.current = fs.current)
    (ht : t.EndsIn a) (hp : p.EndsIn b) (hdt : fs.directory? t = some d) (hdp : fs.directory? p = some d)
    {k k' : Node} (hk : k.isDirectory = false) (hbefore : fs.locate t = .ok (q, k))
    (hafter : fs'.locate p = .ok (q', k')) : k' = k := by
  obtain ⟨d₁, more, left, hd₁, -, hlead, ha⟩ := exists_goes_to_name ht hbefore
  obtain rfl : d = d₁ := Option.some.inj (hdt.symm.trans hd₁)
  obtain ⟨d₂, more', left', -, hway, hlead', hb⟩ := exists_goes_to_name hp hafter
  have hfind := find?_of_locate hbefore
  have hfind' := find?_of_locate hafter
  have hq : ¬fs.root.IsDirectoryAt q := by
    rintro ⟨entries, hentries⟩
    cases hfind.symm.trans hentries
    cases hk
  -- the way to the directory does not come to the moved entry, so it is the one that was there before
  have hd₂ := hlead'.isDirectoryAt_of_cons
  have hbeside := m.goes hway fun _ _ rest => m.not_goes_directory ha hb hlead hq hd₂ rest
  have hstart : fs'.start p = fs.start p := by rw [start, start, hcurrent]
  rw [hstart] at hbeside
  obtain ⟨-, more₁, hway₁⟩ := directory?_eq_some_iff.1 hdp
  obtain ⟨rfl, -⟩ := hbeside.unique hway₁ rfl
  by_cases hn : ∃ target, n = .link target
  · obtain ⟨rfl, -⟩ := hlead.unique (m.goes_entry ha hb hn hlead') rfl
    -- what the link leads to is not the link itself
    have hne : q ≠ d₂ ++ [b] := by
      rintro rfl
      obtain ⟨target, rfl⟩ := hn
      cases hfind'.symm.trans m.target
      exact not_link_of_locate hafter target rfl
    have hlook := m.look q hne (by simp [hfind'])
    rw [(Node.look_eq_some_iff hk).2 hfind] at hlook
    exact Option.some.inj (hfind'.symm.trans ((Node.look_eq_some_iff hk).1 hlook.symm))
  · have hlink : ∀ target, n ≠ .link target := by simpa using hn
    obtain rfl := hlead.eq_of_entry ha m.source hlink
    obtain rfl := hlead'.eq_of_entry hb m.target hlink
    cases m.source.symm.trans hfind
    exact Option.some.inj (hfind'.symm.trans m.target)

end ImportCensus.FileSystem
