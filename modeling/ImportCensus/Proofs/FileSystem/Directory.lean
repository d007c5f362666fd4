/-
ImportCensus/Proofs/FileSystem/Directory.lean

The directory of a path, and the entry that the path has there.

The components of a path before its last name lead to a directory, and the name is looked up there
(`FileSystem.directory?`).  Two paths that differ in the last name only have the same directory, and it
stays the same as long as directories and links do.  What a program reads, writes or moves at a path is the
entry of that directory.

Main statements: a path that leads to a spot has a directory, and the spot is in it (`spot_false_iff`,
`exists_directory_of_read`); and what writing and moving do, said for the entry (`exists_of_write`,
`exists_of_rename`).
-/
import ImportCensus.Proofs.FileSystem.Change
import ImportCensus.Proofs.Path.Spelling

namespace ImportCensus

open Text

namespace FileSystem

variable {fs fs' : FileSystem} {p t : Path} {name other : String} {d q : Place} {n : Node}
  {followLast : Bool} {spot : Spot} {root : Node} {links left : Nat} {place : Place}

/-! ### The directory of a path -/

/-- The pieces of the plainest spelling of a path before its last component. -/
def directoryPieces (p : Path) : List (List Char) :=
  p.components.dropLast.map Component.toText

/-- The place of a spot that is a directory. -/
def Spot.directory? : Spot → Option Place
  | .found place (.directory _) => some place
  | _ => none

/-- The place of the directory in which the last component of a path is looked up. -/
def directory? (fs : FileSystem) (p : Path) : Option Place :=
  (walkLinks fs.root true linkLimit (fs.start p) (directoryPieces p)).toOption.bind Spot.directory?

theorem Spot.directory?_eq_some_iff :
    spot.directory? = some d ↔ ∃ entries, spot = .found d (.directory entries) := by
  constructor
  · intro h
    cases spot with
    | vacant directory name slash => cases h
    | found place n =>
      cases n with
      | directory entries =>
        cases h
        exact ⟨entries, rfl⟩
      | _ => cases h
  · rintro ⟨entries, rfl⟩
    rfl

theorem directory?_eq_some_iff : fs.directory? p = some d ↔
    fs.root.IsDirectoryAt d ∧ ∃ left, Goes fs.root linkLimit (fs.start p) (directoryPieces p) left d := by
  constructor
  · intro h
    obtain ⟨spot, hspot, hdirectory⟩ := Option.bind_eq_some_iff.1 h
    obtain ⟨entries, rfl⟩ := Spot.directory?_eq_some_iff.1 hdirectory
    obtain ⟨left, hgoes, hfind⟩ := exists_goes_of_found (toOption_eq_some_iff.1 hspot)
    exact ⟨⟨entries, hfind⟩, left, hgoes⟩
  · rintro ⟨⟨entries, hfind⟩, left, hgoes⟩
    rw [directory?, hgoes.walkLinks_eq_found hfind]
    rfl

theorem isDirectoryAt_of_directory? (h : fs.directory? p = some d) : fs.root.IsDirectoryAt d :=
  (directory?_eq_some_iff.1 h).1

/-- The directory of a path stays the same as long as directories and links do. -/
theorem directory?_persist (hroot : Persists fs.root fs'.root) (hcurrent : fs'.current = fs.current)
    (h : fs.directory? p = some d) : fs'.directory? p = some d := by
  obtain ⟨hd, left, hgoes⟩ := directory?_eq_some_iff.1 h
  have hstart : fs'.start p = fs.start p := by rw [start, start, hcurrent]
  refine directory?_eq_some_iff.2 ⟨hroot.directory hd, left, ?_⟩
  rw [hstart]
  exact hgoes.persist hd hroot

/-- A path to a directory leads there as long as directories and links stay. -/
theorem locate_persist {entries : Listing} (hroot : Persists fs.root fs'.root)
    (hcurrent : fs'.current = fs.current) (h : fs.locate p = .ok (q, .directory entries)) :
    ∃ entries, fs'.locate p = .ok (q, .directory entries) := by
  obtain ⟨htext, hwalk⟩ := locate_eq_ok_iff.1 h
  obtain ⟨left, hgoes, hfind⟩ := exists_goes_of_found hwalk
  have hq : fs.root.IsDirectoryAt q := ⟨entries, hfind⟩
  obtain ⟨entries', hfind'⟩ := hroot.directory hq
  have hstart : fs'.start p = fs.start p := by rw [start, start, hcurrent]
  refine ⟨entries', locate_eq_ok_iff.2 ⟨htext, ?_⟩⟩
  rw [hstart]
  exact (hgoes.persist hq hroot).walkLinks_eq_found hfind'

/-- Paths that start alike are followed from one place. -/
theorem start_eq (h : p.components.head? = some .root ↔ t.components.head? = some .root) :
    fs.start p = fs.start t := by
  rw [start, start]
  simp only [Path.head?_text, h]

/-- Paths that differ in the last name only have the same directory. -/
theorem directory?_eq (hp : p.fileName? = some name) (ht : t.fileName? = some other)
    (h : p.components.dropLast = t.components.dropLast) : fs.directory? p = fs.directory? t := by
  have hhead : p.components.head? = some .root ↔ t.components.head? = some .root := by
    rw [Path.components_of_fileName? hp, Path.components_of_fileName? ht, h]
    cases t.components.dropLast with
    | nil => simp
    | cons c cs => exact Iff.rfl
  rw [directory?, directory?, start_eq hhead, directoryPieces, directoryPieces, h]

/-! ### Links at the end of a path -/

/-- The place of a spot that is a link. -/
def Spot.link? : Spot → Option Place
  | .found place (.link _) => some place
  | _ => none

/-- The place of the link that a path leads to, if it leads to one. -/
def link? (fs : FileSystem) (p : Path) : Option Place :=
  (fs.spot false p).toOption.bind Spot.link?

theorem Spot.link?_eq_some_iff : spot.link? = some q ↔ ∃ target, spot = .found q (.link target) := by
  constructor
  · intro h
    cases spot with
    | vacant directory name slash => cases h
    | found place n =>
      cases n with
      | link target =>
        cases h
        exact ⟨target, rfl⟩
      | _ => cases h
  · rintro ⟨target, rfl⟩
    rfl

theorem link?_eq_some_iff :
    fs.link? p = some q ↔ ∃ target, fs.spot false p = .ok (.found q (.link target)) := by
  constructor
  · intro h
    obtain ⟨spot, hspot, hlink⟩ := Option.bind_eq_some_iff.1 h
    obtain ⟨target, rfl⟩ := Spot.link?_eq_some_iff.1 hlink
    exact ⟨target, toOption_eq_some_iff.1 hspot⟩
  · rintro ⟨target, hspot⟩
    rw [link?, hspot]
    rfl

/-! ### The place at the end of a path -/

/-- The place of a spot, whether there is an entry or only a name for one. -/
def Spot.place? : Spot → Option Place
  | .found place _ => some place
  | .vacant directory name slash => if slash then none else some (directory ++ [name])

/-- The place to which a path leads; a link at its end is followed if `followLast`. -/
def aim? (fs : FileSystem) (followLast : Bool) (p : Path) : Option Place :=
  (fs.spot followLast p).toOption.bind Spot.place?

theorem aim?_eq_some_iff :
    fs.aim? followLast p = some q ↔ ∃ spot, fs.spot followLast p = .ok spot ∧ spot.place? = some q := by
  rw [aim?, Option.bind_eq_some_iff]
  simp only [toOption_eq_some_iff]

/-! ### The entry of a path -/

theorem isSilent_eq (piece : List Char) : isSilent piece = Path.isSilent piece := by
  rw [isSilent, Path.isSilent, Path.componentOf?]
  by_cases hempty : piece = []
  · rw [hempty]
    rfl
  · by_cases hcurrent : piece = ['.']
    · rw [hcurrent]
      rfl
    · rw [if_neg (by simp [hempty, hcurrent])]
      split <;> simp [hempty, hcurrent]

theorem isStep_name (hname : IsEntryName name) (hsize : name.utf8ByteSize ≤ nameLimit) :
    IsStep name.toList where
  not_silent := not_isSilent_name hname
  not_parent := Path.toList_ne hname.ne_parent
  fits := by rwa [String.ofList_toList]

/-- A path with a last name that leads to a spot has a directory, from which its end leads there. -/
theorem exists_directory_of_spot {front ends : List (List Char)} (hp : p.fileName? = some name)
    (hsplit : split '/' p.text.toList = front ++ name.toList :: ends)
    (hfront : front.filter (!Path.isSilent ·)
      = (p.components.dropLast.map Component.toText).filter (!Path.isSilent ·))
    (h : fs.spot followLast p = .ok spot) :
    ∃ d left, fs.directory? p = some d ∧ Goes fs.root linkLimit (fs.start p) front left d ∧
      walkLinks fs.root followLast left d (name.toList :: ends) = .ok spot := by
  obtain ⟨-, -, hwalk⟩ := exists_of_bind_ok h
  have hname := Path.isEntryName_of_fileName? hp
  rw [hsplit] at hwalk
  have hend : (name.toList :: ends).all List.isEmpty = false := by
    have hempty : name.toList ≠ [] := Path.toList_ne hname.ne_empty
    simp [hempty]
  obtain ⟨left, d, hgoes, hleads⟩ := exists_goes hwalk (.inl hend)
  obtain ⟨entries, hd, -⟩ := walkLinks_cons_iff.1 hleads
  refine ⟨d, left, directory?_eq_some_iff.2 ⟨⟨entries, hd⟩, left, hgoes.congr ⟨entries, hd⟩ ?_⟩, hgoes,
    hleads⟩
  simp only [isSilent_eq]
  exact hfront

/-- The way of a path that has a directory, up to its last name. -/
theorem exists_goes_of_directory {front : List (List Char)} (hd : fs.directory? p = some d)
    (hfront : front.filter (!Path.isSilent ·)
      = (p.components.dropLast.map Component.toText).filter (!Path.isSilent ·)) :
    ∃ left, Goes fs.root linkLimit (fs.start p) front left d := by
  obtain ⟨hdirectory, left, hgoes⟩ := directory?_eq_some_iff.1 hd
  refine ⟨left, hgoes.congr hdirectory ?_⟩
  simp only [isSilent_eq]
  exact hfront.symm

/-- A name that leads on is not too long. -/
theorem size_le_of_walkLinks {ends : List (List Char)} (hname : IsEntryName name)
    (h : walkLinks root followLast links place (name.toList :: ends) = .ok spot) :
    name.utf8ByteSize ≤ nameLimit := by
  have hstep : IsStep name.toList := by
    obtain ⟨entries, -, hfirst⟩ := walkLinks_cons_iff.1 h
    cases hfirst with
    | silent hpiece =>
      rw [not_isSilent_name hname] at hpiece
      cases hpiece
    | up hpiece => exact absurd hpiece (Path.toList_ne hname.ne_parent)
    | vacant hpiece | link hpiece | follow hpiece | enter hpiece => exact hpiece
  simpa using hstep.fits

/-- A name that its directory does not have. -/
theorem walkLinks_name_vacant (hname : IsEntryName name) (hsize : name.utf8ByteSize ≤ nameLimit)
    (hd : root.IsDirectoryAt d) (hentry : root.find? (d ++ [name]) = none) :
    walkLinks root followLast left d [name.toList] = .ok (.vacant d name false) := by
  obtain ⟨entries, hd⟩ := hd
  rw [Node.find?_concat hd] at hentry
  have hpiece := isStep_name hname hsize
  rw [← String.ofList_toList (s := name)] at hentry
  refine walkLinks_cons_iff.2 ⟨entries, hd, .vacant hpiece hentry rfl ?_⟩
  rw [String.ofList_toList]
  rfl

/-- A name that its directory has, unless it is a link that is followed. -/
theorem walkLinks_name_found (hname : IsEntryName name) (hsize : name.utf8ByteSize ≤ nameLimit)
    (hd : root.IsDirectoryAt d) (hentry : root.find? (d ++ [name]) = some n)
    (hlink : followLast = false ∨ ∀ target, n ≠ .link target) :
    walkLinks root followLast left d [name.toList] = .ok (.found (d ++ [name]) n) := by
  obtain ⟨entries, hd⟩ := hd
  have hfind := hentry
  rw [Node.find?_concat hd] at hentry
  have hpiece := isStep_name hname hsize
  rw [← String.ofList_toList (s := name)] at hentry hfind ⊢
  refine walkLinks_cons_iff.2 ⟨entries, hd, ?_⟩
  rw [String.toList_ofList]
  by_cases hn : ∀ target, n ≠ .link target
  · exact .enter hpiece hentry hn (walkLinks_nil_iff.2 ⟨n, hfind, rfl⟩)
  · have hlast := hlink.resolve_right hn
    simp only [not_forall, ne_eq, not_not] at hn
    obtain ⟨target, rfl⟩ := hn
    exact .link hpiece hentry rfl hlast rfl

/-- A name is looked up in its directory; a link there is not followed. -/
theorem walkLinks_name_iff (hname : IsEntryName name) (hd : root.IsDirectoryAt d) :
    walkLinks root false left d [name.toList] = .ok spot ↔ name.utf8ByteSize ≤ nameLimit ∧
      ((root.find? (d ++ [name]) = none ∧ spot = .vacant d name false) ∨
        ∃ n, root.find? (d ++ [name]) = some n ∧ spot = .found (d ++ [name]) n) := by
  constructor
  · intro h
    have hsize := size_le_of_walkLinks hname h
    refine ⟨hsize, ?_⟩
    cases hentry : root.find? (d ++ [name]) with
    | none =>
      rw [walkLinks_name_vacant hname hsize hd hentry] at h
      exact .inl ⟨rfl, (Except.ok.inj h).symm⟩
    | some n =>
      rw [walkLinks_name_found hname hsize hd hentry (.inl rfl)] at h
      exact .inr ⟨n, rfl, (Except.ok.inj h).symm⟩
  · rintro ⟨hsize, ⟨hentry, rfl⟩ | ⟨n, hentry, rfl⟩⟩
    · exact walkLinks_name_vacant hname hsize hd hentry
    · exact walkLinks_name_found hname hsize hd hentry (.inl rfl)

/-- A path that ends in a name leads where the name leads from its directory. -/
theorem spot_of_walkLinks_name (hp : p.EndsIn name) (hd : fs.directory? p = some d)
    (htext : checkText p = .ok ())
    (h : ∀ left, walkLinks fs.root followLast left d [name.toList] = .ok spot) :
    fs.spot followLast p = .ok spot := by
  obtain ⟨front, hsplit, hfront⟩ := hp.exists_split
  obtain ⟨left, hgoes⟩ := exists_goes_of_directory hd hfront
  rw [FileSystem.spot, htext, hsplit]
  exact hgoes.walkLinks_append (.inl (List.cons_ne_nil _ _)) (h left)

/-- **Where a path that ends in a name leads, if a link there is not followed.**  The spot is that of the
name in the directory of the path, whether there is an entry or not. -/
theorem spot_false_iff (hp : p.EndsIn name) (hd : fs.directory? p = some d) :
    fs.spot false p = .ok spot ↔ checkText p = .ok () ∧ name.utf8ByteSize ≤ nameLimit ∧
      ((fs.root.find? (d ++ [name]) = none ∧ spot = .vacant d name false) ∨
        ∃ n, fs.root.find? (d ++ [name]) = some n ∧ spot = .found (d ++ [name]) n) := by
  have hname := Path.isEntryName_of_fileName? hp.fileName
  have hdirectory := isDirectoryAt_of_directory? hd
  constructor
  · intro h
    obtain ⟨front, hsplit, hfront⟩ := hp.exists_split
    obtain ⟨d', left, hd', -, hleads⟩ := exists_directory_of_spot hp.fileName hsplit hfront h
    obtain rfl : d = d' := by
      rw [hd] at hd'
      exact Option.some.inj hd'
    obtain ⟨⟨⟩, htext, -⟩ := exists_of_bind_ok h
    exact ⟨htext, (walkLinks_name_iff hname hdirectory).1 hleads⟩
  · rintro ⟨htext, hspot⟩
    exact spot_of_walkLinks_name hp hd htext fun left => (walkLinks_name_iff hname hdirectory).2 hspot

/-- A path that ends in a name leads to the link of that name in its directory. -/
theorem link?_eq_some_iff_of_directory (hp : p.EndsIn name) (hd : fs.directory? p = some d) :
    fs.link? p = some q ↔ checkText p = .ok () ∧ name.utf8ByteSize ≤ nameLimit ∧
      ∃ target, fs.root.find? (d ++ [name]) = some (.link target) ∧ q = d ++ [name] := by
  rw [link?_eq_some_iff]
  constructor
  · rintro ⟨target, hspot⟩
    obtain ⟨htext, hsize, ⟨-, hvacant⟩ | ⟨n, hentry, hfound⟩⟩ := (spot_false_iff hp hd).1 hspot
    · cases hvacant
    · cases hfound
      exact ⟨htext, hsize, target, hentry, rfl⟩
  · rintro ⟨htext, hsize, target, hentry, rfl⟩
    exact ⟨target, (spot_false_iff hp hd).2 ⟨htext, hsize, .inr ⟨_, hentry, rfl⟩⟩⟩

theorem link?_eq_none_of_directory (hp : p.EndsIn name) (hd : fs.directory? p = some d)
    (h : ∀ target, fs.root.find? (d ++ [name]) ≠ some (.link target)) : fs.link? p = none := by
  rw [Option.eq_none_iff_forall_ne_some]
  intro place hplace
  obtain ⟨-, -, target, hentry, -⟩ := (link?_eq_some_iff_of_directory hp hd).1 hplace
  exact h target hentry

/-- Where a path that ends in a name leads, if there is no link. -/
theorem spot_true_eq_found (hp : p.EndsIn name) (hd : fs.directory? p = some d)
    (htext : checkText p = .ok ()) (hsize : name.utf8ByteSize ≤ nameLimit)
    (hentry : fs.root.find? (d ++ [name]) = some n) (hn : ∀ target, n ≠ .link target) :
    fs.spot true p = .ok (.found (d ++ [name]) n) :=
  spot_of_walkLinks_name hp hd htext fun _ =>
    walkLinks_name_found (Path.isEntryName_of_fileName? hp.fileName) hsize
      (isDirectoryAt_of_directory? hd) hentry (.inr hn)

theorem spot_true_eq_vacant (hp : p.EndsIn name) (hd : fs.directory? p = some d)
    (htext : checkText p = .ok ()) (hsize : name.utf8ByteSize ≤ nameLimit)
    (hentry : fs.root.find? (d ++ [name]) = none) : fs.spot true p = .ok (.vacant d name false) :=
  spot_of_walkLinks_name hp hd htext fun _ =>
    walkLinks_name_vacant (Path.isEntryName_of_fileName? hp.fileName) hsize
      (isDirectoryAt_of_directory? hd) hentry

/-- A path with a last name that leads somewhere has a directory, and the name is not too long. -/
theorem exists_directory (hp : p.fileName? = some name) (h : fs.spot followLast p = .ok spot) :
    ∃ d, fs.directory? p = some d ∧ checkText p = .ok () ∧ name.utf8ByteSize ≤ nameLimit := by
  obtain ⟨⟨⟩, htext, -⟩ := exists_of_bind_ok h
  obtain ⟨front, ends, hsplit, -, hfront⟩ := Path.exists_split_of_fileName? hp
  obtain ⟨d, left, hd, -, hleads⟩ := exists_directory_of_spot hp hsplit hfront h
  exact ⟨d, hd, htext, size_le_of_walkLinks (Path.isEntryName_of_fileName? hp) hleads⟩

/-! ### Reading -/

/-- Pieces that stand for nothing lead from a directory to itself. -/
theorem walkLinks_silent {pieces : List (List Char)} (hne : pieces ≠ [])
    (hsilent : ∀ piece ∈ pieces, isSilent piece = true)
    (h : walkLinks root followLast links place pieces = .ok spot) :
    ∃ entries, spot = .found place (.directory entries) := by
  induction pieces with
  | nil => exact absurd rfl hne
  | cons piece rest ih =>
    obtain ⟨hpiece, hrest⟩ := List.forall_mem_cons.1 hsilent
    obtain ⟨entries, hplace, hstep⟩ := walkLinks_cons_iff.1 h
    cases hstep with
    | silent _ hleads =>
      cases rest with
      | nil =>
        obtain ⟨m, hm, hspot⟩ := walkLinks_nil_iff.1 hleads
        rw [hplace] at hm
        cases hm
        exact ⟨entries, hspot⟩
      | cons next rest => exact ih (List.cons_ne_nil _ _) hrest hleads
    | up hparent =>
      rw [hparent] at hpiece
      cases hpiece
    | vacant hstep | link hstep | follow hstep | enter hstep =>
      rw [hstep.not_silent] at hpiece
      cases hpiece

/-- **A path without a last name leads to a directory**, if it leads to anything. -/
theorem exists_directory_of_nameless (hp : p.fileName? = none) (h : fs.spot followLast p = .ok spot) :
    ∃ q entries, spot = .found q (.directory entries) := by
  obtain ⟨⟨⟩, -, hwalk⟩ := exists_of_bind_ok h
  have hpieces := Path.filter_split p
  have hsilent : (p.components.map Component.toText).filter (!Path.isSilent ·) = [] →
      ∃ q entries, spot = .found q (.directory entries) := by
    intro hnone
    rw [hnone, List.filter_eq_nil_iff] at hpieces
    refine ⟨_, walkLinks_silent (split_ne_nil '/' p.text.toList) (fun piece hpiece => ?_) hwalk⟩
    rw [isSilent_eq]
    simpa using hpieces piece hpiece
  rcases List.eq_nil_or_concat' p.components with hnil | ⟨cs, c, hcs⟩
  · exact hsilent (by rw [hnil]; rfl)
  · have hspellable := Path.spellable_components p
    rw [hcs] at hspellable
    -- only the first component can be the root or a dot, and those stand for nothing
    have halone : ¬c.IsInner → cs = [] := by
      intro hc
      by_contra hne
      exact hc (hspellable.isInner hne)
    cases c with
    | name s =>
      rw [Path.fileName?, hcs, List.getLast?_concat] at hp
      cases hp
    | root =>
      rw [halone id] at hcs
      exact hsilent (by rw [hcs]; rfl)
    | current =>
      rw [halone id] at hcs
      exact hsilent (by rw [hcs]; rfl)
    | parent =>
      rw [hcs, List.map_append, List.filter_append, List.map_singleton,
        List.filter_cons_of_pos (by rfl), List.filter_nil] at hpieces
      obtain ⟨front, back, hsplit, -, hback⟩ := List.filter_eq_append_iff.1 hpieces
      obtain ⟨before, ends, rfl, -, -, hends⟩ := List.filter_eq_cons_iff.1 hback
      rw [hsplit, ← List.append_assoc] at hwalk
      obtain ⟨left, q, -, hleads⟩ := exists_goes hwalk (.inl rfl)
      obtain ⟨entries, hq, hstep⟩ := walkLinks_cons_iff.1 hleads
      cases hstep with
      | silent hpiece => cases hpiece
      | up _ hrest =>
        cases ends with
        | nil =>
          obtain ⟨n, hn, rfl⟩ := walkLinks_nil_iff.1 hrest
          obtain ⟨above, habove⟩ := Node.IsDirectoryAt.dropLast ⟨entries, hq⟩
          cases hn.symm.trans habove
          exact ⟨_, _, rfl⟩
        | cons next ends =>
          refine ⟨_, walkLinks_silent (List.cons_ne_nil _ _) (fun piece hpiece => ?_) hrest⟩
          rw [isSilent_eq]
          simpa using List.filter_eq_nil_iff.1 hends piece hpiece
      | vacant hpiece | link hpiece | follow hpiece | enter hpiece => exact absurd rfl hpiece.not_parent

/-- A path that leads to what is no directory ends in its last name. -/
theorem endsIn_of_found (hp : p.fileName? = some name) (h : fs.spot followLast p = .ok (.found q n))
    (hn : n.isDirectory = false) : p.EndsIn name := by
  obtain ⟨front, ends, hsplit, hends, hfront⟩ := Path.exists_split_of_fileName? hp
  obtain ⟨d, left, -, -, hleads⟩ := exists_directory_of_spot hp hsplit hfront h
  have hnil : ends = [] := by
    by_contra hne
    rw [← List.singleton_append] at hleads
    obtain ⟨left', place, -, hend⟩ := exists_goes hleads (.inr ⟨.inl hne, q, n, rfl⟩)
    have hsilent : ∀ piece ∈ ends, isSilent piece = true := by
      intro piece hpiece
      rw [isSilent_eq]
      exact hends piece hpiece
    obtain ⟨entries, hspot⟩ := walkLinks_silent hne hsilent hend
    cases hspot
    cases hn
  subst hnil
  exact ⟨hp, by rw [hsplit, List.getLast?_concat]⟩

/-- A path that leads to a link ends in its last name. -/
theorem endsIn_of_link? (hp : p.fileName? = some name) (h : fs.link? p = some q) : p.EndsIn name := by
  obtain ⟨target, hspot⟩ := link?_eq_some_iff.1 h
  exact endsIn_of_found hp hspot rfl

/-- A path that leads to what is no directory has a directory with an entry of its last name, which is no
directory either. -/
theorem exists_directory_of_locate (hp : p.fileName? = some name) (h : fs.locate p = .ok (q, n))
    (hn : n.isDirectory = false) :
    p.EndsIn name ∧ checkText p = .ok () ∧ name.utf8ByteSize ≤ nameLimit ∧
      ∃ d m, fs.directory? p = some d ∧ fs.root.find? (d ++ [name]) = some m ∧ m.isDirectory = false := by
  obtain ⟨spot, hspot, hfound⟩ := exists_of_bind_ok h
  obtain rfl : spot = .found q n := by
    cases spot with
    | vacant directory name slash => cases hfound
    | found place m =>
      cases hfound
      rfl
  have hends := endsIn_of_found hp hspot hn
  obtain ⟨d, hd, htext, hsize⟩ := exists_directory hp hspot
  refine ⟨hends, htext, hsize, d, ?_⟩
  cases hentry : fs.root.find? (d ++ [name]) with
  | none =>
    rw [spot_true_eq_vacant hends hd htext hsize hentry] at hspot
    cases hspot
  | some m =>
    refine ⟨m, hd, rfl, ?_⟩
    cases m with
    | directory entries =>
      rw [spot_true_eq_found hends hd htext hsize hentry nofun] at hspot
      cases hspot
      cases hn
    | _ => rfl

/-- A path whose file can be read ends in its last name, and its directory has an entry of that name, which
is no directory. -/
theorem exists_directory_of_read {contents : Bytes} (hp : p.fileName? = some name)
    (h : fs.read p = .ok contents) :
    p.EndsIn name ∧ checkText p = .ok () ∧ name.utf8ByteSize ≤ nameLimit ∧
      ∃ d m, fs.directory? p = some d ∧ fs.root.find? (d ++ [name]) = some m ∧ m.isDirectory = false := by
  obtain ⟨⟨place, n⟩, hlocate, hcontents⟩ := exists_of_bind_ok h
  apply exists_directory_of_locate hp hlocate
  cases n with
  | directory entries => cases hcontents
  | _ => rfl

/-- A path that ends in a name has the contents of the file of that name in its directory. -/
theorem read_of_directory {contents : Bytes} (hp : p.EndsIn name) (hd : fs.directory? p = some d)
    (htext : checkText p = .ok ()) (hsize : name.utf8ByteSize ≤ nameLimit)
    (hentry : fs.root.find? (d ++ [name]) = some (.file contents)) : fs.read p = .ok contents := by
  have hlocate : fs.locate p = .ok (d ++ [name], .file contents) := by
    rw [locate, spot_true_eq_found hp hd htext hsize hentry (by simp)]
    rfl
  rw [read, hlocate]
  rfl

/-! ### Writing and moving -/

/-- What writing does, if no link is written through: the directory gets a file in the place of another
file or where there was nothing. -/
theorem exists_of_write {contents : Bytes} (hp : p.EndsIn name) (hlink : fs.link? p = none)
    (h : fs.write p contents = .ok fs') :
    ∃ d, fs.directory? p = some d ∧ checkText p = .ok () ∧ name.utf8ByteSize ≤ nameLimit ∧
      (fs.root.find? (d ++ [name]) = none ∨
        ∃ before, fs.root.find? (d ++ [name]) = some (.file before)) ∧
      fs' = fs.put d name (.file contents) := by
  obtain ⟨spot, hspot, hwritten⟩ := exists_of_bind_ok h
  obtain ⟨d, hd, htext, hsize⟩ := exists_directory hp.fileName hspot
  refine ⟨d, hd, htext, hsize, ?_⟩
  cases hentry : fs.root.find? (d ++ [name]) with
  | none =>
    rw [spot_true_eq_vacant hp hd htext hsize hentry] at hspot
    cases hspot
    cases hwritten
    exact ⟨.inl rfl, rfl⟩
  | some n =>
    by_cases hn : ∀ target, n ≠ .link target
    · rw [spot_true_eq_found hp hd htext hsize hentry hn] at hspot
      cases hspot
      cases n with
      | file before =>
        cases hwritten
        exact ⟨.inr ⟨before, rfl⟩, putAt_concat ..⟩
      | _ => cases hwritten
    · simp only [not_forall, ne_eq, not_not] at hn
      obtain ⟨target, rfl⟩ := hn
      rw [(link?_eq_some_iff_of_directory hp hd).2 ⟨htext, hsize, target, hentry, rfl⟩] at hlink
      cases hlink

theorem checkReplace_eq_ok_iff {old : Node} (hn : n.isDirectory = false) :
    checkReplace n old = .ok () ↔ old.isDirectory = false := by
  cases n with
  | directory entries => cases hn
  | _ => cases old <;> simp [checkReplace, Node.isDirectory]

/-- An entry that is no directory can take the place of another one in its directory, or be where there was
nothing. -/
theorem rename_eq (ht : t.EndsIn other) (hp : p.EndsIn name) (hdt : fs.directory? t = some d)
    (hdp : fs.directory? p = some d) (hne : other ≠ name) (hstext : checkText t = .ok ())
    (hssize : other.utf8ByteSize ≤ nameLimit) (hsource : fs.root.find? (d ++ [other]) = some n)
    (hn : n.isDirectory = false) (htext : checkText p = .ok ()) (hsize : name.utf8ByteSize ≤ nameLimit)
    (hentry : ∀ m, fs.root.find? (d ++ [name]) = some m → m.isDirectory = false) :
    fs.rename t p = .ok ((fs.drop d other).put d name n) := by
  have hspot : fs.spot false t = .ok (.found (d ++ [other]) n) :=
    (spot_false_iff ht hdt).2 ⟨hstext, hssize, .inr ⟨n, hsource, rfl⟩⟩
  have hplace : d ++ [other] ≠ d ++ [name] := by simpa using hne
  have hslash := Path.withoutSlashes_eq_self hp.endsInSlash
  rw [rename, hspot]
  cases hname : fs.root.find? (d ++ [name]) with
  | none =>
    have htarget : fs.spot false p = .ok (.vacant d name false) :=
      (spot_false_iff hp hdp).2 ⟨htext, hsize, .inl ⟨hname, rfl⟩⟩
    simp [bind, Except.bind, pure, Except.pure, htext, hslash, hp.endsInName, hp.endsInSlash, htarget,
      dropAt_concat]
  | some m =>
    have htarget : fs.spot false p = .ok (.found (d ++ [name]) m) :=
      (spot_false_iff hp hdp).2 ⟨htext, hsize, .inr ⟨m, hname, rfl⟩⟩
    have hreplace : checkReplace n m = .ok () := (checkReplace_eq_ok_iff hn).2 (hentry m hname)
    simp [bind, Except.bind, pure, Except.pure, htext, hslash, hp.endsInName, hp.endsInSlash, htarget,
      dropAt_concat, putAt_concat, hreplace, hne]

/-- What moving an entry that is no directory to another name in its directory does. -/
theorem exists_of_rename (ht : t.EndsIn other) (hp : p.fileName? = some name)
    (hdt : fs.directory? t = some d) (hdp : fs.directory? p = some d) (hne : other ≠ name)
    (hsource : fs.root.find? (d ++ [other]) = some n) (hn : n.isDirectory = false)
    (h : fs.rename t p = .ok fs') :
    p.EndsIn name ∧ checkText p = .ok () ∧ name.utf8ByteSize ≤ nameLimit ∧
      (∀ m, fs.root.find? (d ++ [name]) = some m → m.isDirectory = false) ∧
      fs' = (fs.drop d other).put d name n := by
  have hplace : d ++ [other] ≠ d ++ [name] := by simpa using hne
  obtain ⟨source, hspot, hmoved⟩ := exists_of_bind_ok h
  obtain ⟨-, -, ⟨hnone, -⟩ | ⟨m, hm, rfl⟩⟩ := (spot_false_iff ht hdt).1 hspot
  · rw [hsource] at hnone
    cases hnone
  obtain rfl : n = m := by
    rw [hsource] at hm
    exact Option.some.inj hm
  obtain ⟨⟨⟩, htext, hmoved⟩ := exists_of_bind_ok hmoved
  obtain ⟨target, htarget, hmoved⟩ := exists_of_bind_ok hmoved
  split at hmoved
  · cases hmoved
  · next hend =>
    split at hmoved
    · cases hmoved
    · next hslash =>
      rw [hn] at hslash
      have hends : p.EndsIn name :=
        Path.endsIn_of_endsInName hp (by simpa using hend) (by simpa using hslash)
      rw [Path.withoutSlashes_eq_self hends.endsInSlash] at htarget
      obtain ⟨-, hsize, ⟨hnone, rfl⟩ | ⟨m, hm, rfl⟩⟩ := (spot_false_iff hends hdp).1 htarget
      · cases hmoved
        refine ⟨hends, htext, hsize, ?_, by rw [dropAt_concat]⟩
        intro m hm
        rw [hnone] at hm
        cases hm
      · dsimp only at hmoved
        rw [if_neg hplace] at hmoved
        obtain ⟨⟨⟩, hreplace, hmoved⟩ := exists_of_bind_ok hmoved
        cases hmoved
        refine ⟨hends, htext, hsize, ?_, by rw [dropAt_concat, putAt_concat]⟩
        intro m' hm'
        rw [hm] at hm'
        cases hm'
        exact (checkReplace_eq_ok_iff hn).1 hreplace

end FileSystem

end ImportCensus
