/-
ImportCensus/Proofs/FileSystem/Way.lean

The ways on which paths are followed.

The pieces of a path are followed one after the other, and a link puts the pieces of its target before
those that are left.  `Goes` is the part of this that gets through, from the place before some pieces to the
place behind them; so a path that leads somewhere splits at any of its pieces, and what is known about the
way to a directory can be used for every path through it.

Main statements: a path that leads to a spot goes the way of its first pieces (`exists_goes`), and one that
goes a way leads where the rest leads from its end (`Goes.walkLinks_append`); pieces that stand for nothing
do not matter on the way to a directory (`Goes.congr`); and such a way stays as long as the directories and
links do (`Goes.persist`).
-/
import ImportCensus.Proofs.FileSystem.Access

namespace ImportCensus

open Text

/-! ### Ways through a hierarchy -/

namespace Node

variable {name : String} {n m : Node} {place rest : Place}

/-- What is found at a place is found in two steps. -/
theorem find?_append (n : Node) (place rest : Place) :
    n.find? (place ++ rest) = (n.find? place).bind (·.find? rest) := by
  induction place generalizing n with
  | nil => rfl
  | cons name r ih =>
    cases n with
    | directory entries =>
      rw [List.cons_append, find?, find?]
      cases entry? name entries with
      | none => rfl
      | some m => exact ih m
    | _ => rfl

/-- Below nothing there is nothing. -/
theorem find?_append_of_none (h : n.find? place = none) (rest : Place) :
    n.find? (place ++ rest) = none := by
  rw [find?_append, h]
  rfl

/-- What is found in a directory is its entry. -/
theorem find?_concat {entries : Listing} (h : n.find? place = some (.directory entries)) (name : String) :
    n.find? (place ++ [name]) = entry? name entries := by
  rw [find?_append, h, Option.bind_some, find?]
  cases entry? name entries <;> rfl

/-- What stands above an entry is a directory with an entry of the next name. -/
theorem exists_directory_of_find? (h : n.find? (place ++ name :: rest) = some m) :
    ∃ entries below, n.find? place = some (.directory entries) ∧ entry? name entries = some below ∧
      below.find? rest = some m := by
  rw [find?_append] at h
  obtain ⟨above, hplace, hrest⟩ := Option.bind_eq_some_iff.1 h
  cases above with
  | directory entries =>
    obtain ⟨below, hentry, hfind⟩ := find?_directory_cons.1 hrest
    exact ⟨entries, below, hplace, hentry, hfind⟩
  | _ => cases hrest

/-- What has an entry below it is a directory. -/
theorem exists_eq_directory (h : n.find? place = some m) (hne : place ≠ []) :
    ∃ entries, n = .directory entries := by
  obtain ⟨name, rest, rfl⟩ := List.exists_cons_of_ne_nil hne
  cases n with
  | directory entries => exact ⟨entries, rfl⟩
  | _ => cases h

/-- Is there a directory at a place? -/
def IsDirectoryAt (n : Node) (place : Place) : Prop :=
  ∃ entries, n.find? place = some (.directory entries)

/-- What stands above a directory is a directory. -/
theorem IsDirectoryAt.of_append (h : n.IsDirectoryAt (place ++ rest)) : n.IsDirectoryAt place := by
  obtain ⟨entries, hfind⟩ := h
  cases rest with
  | nil =>
    rw [List.append_nil] at hfind
    exact ⟨entries, hfind⟩
  | cons name rest =>
    obtain ⟨others, -, hplace, -⟩ := exists_directory_of_find? hfind
    exact ⟨others, hplace⟩

theorem IsDirectoryAt.dropLast (h : n.IsDirectoryAt place) : n.IsDirectoryAt place.dropLast := by
  rcases List.eq_nil_or_concat' place with rfl | ⟨front, name, rfl⟩
  · exact h
  · rw [List.dropLast_concat]
    exact h.of_append

theorem IsDirectoryAt.not_link (h : n.IsDirectoryAt place) (target : String) :
    n.find? place ≠ some (.link target) := by
  obtain ⟨entries, hplace⟩ := h
  rw [hplace]
  exact nofun

end Node

namespace FileSystem

variable {root root' n : Node} {followLast : Bool} {links left : Nat} {place q : Place}
  {piece : List Char} {rest xs ys : List (List Char)} {spot : Spot} {entries : Listing}

/-! ### One piece -/

/-- What is done at a link after which so many more can be followed. -/
def afterLink (root : Node) (followLast : Bool) : Nat → Place → List (List Char) → Except FileError Spot
  | 0 => fun _ _ => .error .tooManyLinks
  | links + 1 => walkLinks root followLast links

theorem walkLinks_eq (root : Node) (followLast : Bool) (links : Nat) :
    walkLinks root followLast links = walkPieces root followLast (afterLink root followLast links) := by
  cases links <;> rfl

theorem afterLink_eq_ok_iff :
    afterLink root followLast links place rest = .ok spot ↔
      ∃ more, links = more + 1 ∧ walkLinks root followLast more place rest = .ok spot := by
  cases links with
  | zero => simp [afterLink]
  | succ more => simp [afterLink]

theorem not_isSilent_name {name : String} (h : IsEntryName name) : isSilent name.toList = false := by
  have hempty : name.toList ≠ [] := Path.toList_ne h.ne_empty
  have hcurrent : name.toList ≠ ['.'] := Path.toList_ne h.ne_current
  simp [isSilent, hempty, hcurrent]

/-- Is a piece of a path the name of an entry, and not too long? -/
structure IsStep (piece : List Char) : Prop where
  not_silent : isSilent piece = false
  not_parent : piece ≠ ['.', '.']
  fits : (String.ofList piece).utf8ByteSize ≤ nameLimit

/-- The place from which a link in a directory is followed. -/
def linkStart (place : Place) (target : String) : Place :=
  if target.toList.head? = some '/' then [] else place

theorem isDirectoryAt_linkStart (h : root.IsDirectoryAt place) (target : String) :
    root.IsDirectoryAt (linkStart place target) := by
  rw [linkStart]
  split
  · rw [← List.nil_append place] at h
    exact h.of_append
  · exact h

/-- What becomes of the first piece of a path that leads to a spot.  It is followed in a directory, and
the rest from where it leads; or it is the end of the path, as a new name or as a link. -/
inductive FirstStep (root : Node) (followLast : Bool) (links : Nat) (place : Place)
    (entries : Listing) (piece : List Char) (rest : List (List Char)) (spot : Spot) : Prop
  | silent (hpiece : isSilent piece = true)
      (hrest : walkLinks root followLast links place rest = .ok spot)
  | up (hpiece : piece = ['.', '.'])
      (hrest : walkLinks root followLast links place.dropLast rest = .ok spot)
  | vacant (hpiece : IsStep piece) (hentry : Node.entry? (String.ofList piece) entries = none)
      (hrest : rest.all List.isEmpty = true)
      (hspot : spot = .vacant place (String.ofList piece) (!rest.isEmpty))
  | link {target : String} (hpiece : IsStep piece)
      (hentry : Node.entry? (String.ofList piece) entries = some (.link target))
      (hrest : rest = []) (hlast : followLast = false)
      (hspot : spot = .found (place ++ [String.ofList piece]) (.link target))
  | follow {target : String} {more : Nat} (hpiece : IsStep piece)
      (hentry : Node.entry? (String.ofList piece) entries = some (.link target))
      (hlast : rest ≠ [] ∨ followLast = true) (htarget : target ≠ "") (hlinks : links = more + 1)
      (hrest : walkLinks root followLast more (linkStart place target)
        (split '/' target.toList ++ rest) = .ok spot)
  | enter {n : Node} (hpiece : IsStep piece)
      (hentry : Node.entry? (String.ofList piece) entries = some n) (hn : ∀ target, n ≠ .link target)
      (hrest : walkLinks root followLast links (place ++ [String.ofList piece]) rest = .ok spot)

/-- What is done after a piece is done from the place to which it leads. -/
theorem walkPieces_afterLink (place : Place) :
    walkPieces root followLast (afterLink root followLast links) place rest
      = walkLinks root followLast links place rest := by
  rw [walkLinks_eq]

/-- A piece leads on only from a directory, and only in these ways. -/
theorem exists_firstStep (h : walkLinks root followLast links place (piece :: rest) = .ok spot) :
    ∃ entries, root.find? place = some (.directory entries) ∧
      FirstStep root followLast links place entries piece rest spot := by
  rw [walkLinks_eq, walkPieces] at h
  simp only [walkPieces_afterLink] at h
  split at h
  · next entries hplace =>
    refine ⟨entries, hplace, ?_⟩
    split at h
    · next hsilent => exact .silent hsilent h
    · next hsilent =>
      split at h
      · next hparent => exact .up hparent h
      · next hparent =>
        split at h
        · cases h
        · next hsize =>
          have hpiece : IsStep piece := ⟨by simpa using hsilent, hparent, Nat.le_of_not_lt hsize⟩
          split at h
          · next hentry =>
            split at h
            · next hrest => exact .vacant hpiece hentry hrest (Except.ok.inj h).symm
            · cases h
          · next target hentry =>
            split at h
            · next hend =>
              simp only [Bool.not_eq_true', List.isEmpty_iff] at hend
              exact .link hpiece hentry hend.1 hend.2 (Except.ok.inj h).symm
            · next hend =>
              split at h
              · cases h
              · next htarget =>
                obtain ⟨more, hlinks, hfollow⟩ := afterLink_eq_ok_iff.1 h
                refine .follow hpiece hentry ?_ htarget hlinks hfollow
                by_cases hrest : rest = []
                · right
                  simpa [hrest] using hend
                · exact .inl hrest
          · next n hn hentry =>
            exact .enter hpiece hentry hn h
  · cases h
  · cases h

/-- And in these ways it leads on from a directory. -/
theorem FirstStep.walkLinks_eq_ok (hplace : root.find? place = some (.directory entries))
    (h : FirstStep root followLast links place entries piece rest spot) :
    walkLinks root followLast links place (piece :: rest) = .ok spot := by
  rw [walkLinks_eq, walkPieces]
  simp only [walkPieces_afterLink]
  rw [hplace]
  cases h with
  | silent hpiece hrest => simpa only [hpiece, if_true] using hrest
  | up hpiece hrest =>
    have hsilent : isSilent ['.', '.'] = false := rfl
    simpa only [hpiece, hsilent, Bool.false_eq_true, if_false, if_true] using hrest
  | vacant hpiece hentry hrest hspot =>
    simp only [hpiece.not_silent, hpiece.not_parent, Nat.not_lt.2 hpiece.fits, Bool.false_eq_true,
      if_false, hentry, hrest, if_true, hspot]
  | link hpiece hentry hrest hlast hspot =>
    subst hrest
    simp only [hpiece.not_silent, hpiece.not_parent, Nat.not_lt.2 hpiece.fits, Bool.false_eq_true,
      if_false, hentry, hlast, hspot]
    rfl
  | follow hpiece hentry hlast htarget hlinks hrest =>
    have hend : ¬(rest.isEmpty = true ∧ (!followLast) = true) := by
      rintro ⟨hempty, hfollow⟩
      rw [List.isEmpty_iff] at hempty
      rw [Bool.not_eq_true'] at hfollow
      rcases hlast with hlast | hlast
      · exact hlast hempty
      · rw [hlast] at hfollow
        cases hfollow
    simp only [hpiece.not_silent, hpiece.not_parent, Nat.not_lt.2 hpiece.fits, Bool.false_eq_true,
      if_false, hentry, hend, htarget]
    exact afterLink_eq_ok_iff.2 ⟨_, hlinks, hrest⟩
  | enter hpiece hentry hn hrest =>
    simpa only [hpiece.not_silent, hpiece.not_parent, Nat.not_lt.2 hpiece.fits,
      Bool.false_eq_true, if_false, hentry] using hrest

/-- **How a piece leads on.** -/
theorem walkLinks_cons_iff :
    walkLinks root followLast links place (piece :: rest) = .ok spot ↔
      ∃ entries, root.find? place = some (.directory entries) ∧
        FirstStep root followLast links place entries piece rest spot :=
  ⟨exists_firstStep, fun ⟨_, hplace, hstep⟩ => hstep.walkLinks_eq_ok hplace⟩

theorem walkLinks_nil_iff :
    walkLinks root followLast links place [] = .ok spot ↔
      ∃ n, root.find? place = some n ∧ spot = .found place n := by
  rw [walkLinks_eq, walkPieces]
  cases root.find? place with
  | none => simp
  | some n => simp [eq_comm]

/-! ### Ways -/

/-- Are all directories and links of one hierarchy in another one, too? -/
structure Persists (root root' : Node) : Prop where
  directory {place : Place} : root.IsDirectoryAt place → root'.IsDirectoryAt place
  link {place : Place} {target : String} :
    root.find? place = some (.link target) → root'.find? place = some (.link target)

/-- Some pieces of a path are followed from one place to another, with so many links before and behind
them. -/
inductive Goes (root : Node) : Nat → Place → List (List Char) → Nat → Place → Prop
  | done {links : Nat} {place : Place} : Goes root links place [] links place
  | silent {links left : Nat} {place q : Place} {piece : List Char} {rest : List (List Char)}
      (hplace : root.IsDirectoryAt place) (hpiece : isSilent piece = true)
      (hrest : Goes root links place rest left q) : Goes root links place (piece :: rest) left q
  | up {links left : Nat} {place q : Place} {rest : List (List Char)}
      (hplace : root.IsDirectoryAt place) (hrest : Goes root links place.dropLast rest left q) :
      Goes root links place (['.', '.'] :: rest) left q
  | enter {links left : Nat} {place q : Place} {piece : List Char} {rest : List (List Char)} {n : Node}
      (hplace : root.IsDirectoryAt place) (hpiece : IsStep piece)
      (hentry : root.find? (place ++ [String.ofList piece]) = some n) (hn : ∀ target, n ≠ .link target)
      (hrest : Goes root links (place ++ [String.ofList piece]) rest left q) :
      Goes root links place (piece :: rest) left q
  | follow {links left : Nat} {place q : Place} {piece : List Char} {rest : List (List Char)}
      {target : String} (hplace : root.IsDirectoryAt place) (hpiece : IsStep piece)
      (hentry : root.find? (place ++ [String.ofList piece]) = some (.link target))
      (htarget : target ≠ "")
      (hrest : Goes root links (linkStart place target) (split '/' target.toList ++ rest) left q) :
      Goes root (links + 1) place (piece :: rest) left q

/-- **A path that leads to a spot goes the way of its first pieces.**  There have to be a name among the
other pieces, or an entry at the end to which the first pieces are followed. -/
theorem exists_goes (h : walkLinks root followLast links place (xs ++ ys) = .ok spot)
    (hend : ys.all List.isEmpty = false ∨
      (ys ≠ [] ∨ followLast = true) ∧ ∃ q n, spot = .found q n) :
    ∃ left q, Goes root links place xs left q ∧ walkLinks root followLast left q ys = .ok spot := by
  -- each link that is followed leaves one link less, but makes the pieces more
  induction links using Nat.strongRecOn generalizing place xs with
  | ind links ihlinks =>
    induction xs generalizing place with
    | nil => exact ⟨links, place, .done, h⟩
    | cons piece rest ih =>
      rw [List.cons_append] at h
      obtain ⟨entries, hplace, hstep⟩ := walkLinks_cons_iff.1 h
      have hdirectory : root.IsDirectoryAt place := ⟨entries, hplace⟩
      cases hstep with
      | silent hpiece hrest =>
        obtain ⟨left, q, hgoes, hleads⟩ := ih hrest
        exact ⟨left, q, .silent hdirectory hpiece hgoes, hleads⟩
      | up hpiece hrest =>
        obtain ⟨left, q, hgoes, hleads⟩ := ih hrest
        subst hpiece
        exact ⟨left, q, .up hdirectory hgoes, hleads⟩
      | vacant hpiece hentry hrest hspot =>
        exfalso
        rcases hend with hend | ⟨-, q, n, hfound⟩
        · rw [List.all_append, hend, Bool.and_false] at hrest
          cases hrest
        · rw [hspot] at hfound
          cases hfound
      | link hpiece hentry hrest hlast hspot =>
        exfalso
        obtain ⟨-, hys⟩ := List.append_eq_nil_iff.1 hrest
        rcases hend with hend | ⟨hne | hfollow, -⟩
        · rw [hys] at hend
          cases hend
        · exact hne hys
        · rw [hlast] at hfollow
          cases hfollow
      | @follow target more hpiece hentry hlast htarget hlinks hrest =>
        subst hlinks
        rw [← List.append_assoc] at hrest
        obtain ⟨left, q, hgoes, hleads⟩ := ihlinks more (Nat.lt_succ_self more) hrest
        have hfind := Node.find?_append_singleton hplace hentry
        exact ⟨left, q, .follow hdirectory hpiece hfind htarget hgoes, hleads⟩
      | enter hpiece hentry hn hrest =>
        obtain ⟨left, q, hgoes, hleads⟩ := ih hrest
        have hfind := Node.find?_append_singleton hplace hentry
        exact ⟨left, q, .enter hdirectory hpiece hfind hn hgoes, hleads⟩

/-- A path that leads to an entry when it is followed to its end goes all of its way. -/
theorem exists_goes_of_found (h : walkLinks root true links place xs = .ok (.found q n)) :
    ∃ left, Goes root links place xs left q ∧ root.find? q = some n := by
  rw [← List.append_nil xs] at h
  obtain ⟨left, q', hgoes, hend⟩ := exists_goes h (.inr ⟨.inr rfl, q, n, rfl⟩)
  obtain ⟨m, hfind, hspot⟩ := walkLinks_nil_iff.1 hend
  cases hspot
  exact ⟨left, hgoes, hfind⟩

namespace Goes

/-- **Behind a way, a path leads where the rest of it leads from the end.** -/
theorem walkLinks_append (h : Goes root links place xs left q) (hend : ys ≠ [] ∨ followLast = true)
    (hys : walkLinks root followLast left q ys = .ok spot) :
    walkLinks root followLast links place (xs ++ ys) = .ok spot := by
  induction h with
  | done => exact hys
  | silent hplace hpiece hrest ih =>
    obtain ⟨entries, hplace⟩ := hplace
    exact walkLinks_cons_iff.2 ⟨entries, hplace, .silent hpiece (ih hys)⟩
  | up hplace hrest ih =>
    obtain ⟨entries, hplace⟩ := hplace
    exact walkLinks_cons_iff.2 ⟨entries, hplace, .up rfl (ih hys)⟩
  | enter hplace hpiece hentry hn hrest ih =>
    obtain ⟨entries, m, hplace, hname, hm⟩ := Node.exists_directory_of_find? hentry
    obtain rfl : m = _ := Option.some.inj hm
    exact walkLinks_cons_iff.2 ⟨entries, hplace, .enter hpiece hname hn (ih hys)⟩
  | follow hplace hpiece hentry htarget hrest ih =>
    obtain ⟨entries, m, hplace, hname, hm⟩ := Node.exists_directory_of_find? hentry
    obtain rfl : m = _ := Option.some.inj hm
    rw [List.cons_append]
    refine walkLinks_cons_iff.2 ⟨entries, hplace, .follow hpiece hname ?_ htarget rfl ?_⟩
    · rcases hend with hend | hend
      · exact .inl fun hnil => hend (List.append_eq_nil_iff.1 hnil).2
      · exact .inr hend
    · rw [← List.append_assoc]
      exact ih hys

/-- At the end of its way, a path leads to what is there. -/
theorem walkLinks_eq_found (h : Goes root links place xs left q) (hfind : root.find? q = some n) :
    walkLinks root true links place xs = .ok (.found q n) := by
  have hend : walkLinks root true left q [] = .ok (.found q n) := walkLinks_nil_iff.2 ⟨n, hfind, rfl⟩
  have hall := h.walkLinks_append (.inr rfl) hend
  rwa [List.append_nil] at hall

/-- A way to a directory starts at a directory. -/
theorem isDirectoryAt (h : Goes root links place xs left q) (hq : root.IsDirectoryAt q) :
    root.IsDirectoryAt place := by
  cases h with
  | done => exact hq
  | silent hplace | up hplace | enter hplace | follow hplace => exact hplace

/-- A way ends at a link only if it starts there. -/
theorem not_link (h : Goes root links place xs left q)
    (hstart : ∀ target, root.find? place ≠ some (.link target)) (target : String) :
    root.find? q ≠ some (.link target) := by
  induction h with
  | done => exact hstart target
  | silent hplace hpiece hrest ih => exact ih hplace.not_link
  | up hplace hrest ih => exact ih hplace.dropLast.not_link
  | enter hplace hpiece hentry hn hrest ih =>
    apply ih
    intro target hlink
    rw [hentry] at hlink
    exact hn target (Option.some.inj hlink)
  | follow hplace hpiece hentry htarget hrest ih =>
    exact ih (isDirectoryAt_linkStart hplace _).not_link

/-- Two ways, one behind the other. -/
theorem append {more : Nat} {r : Place} (h : Goes root links place xs left q)
    (h' : Goes root left q ys more r) : Goes root links place (xs ++ ys) more r := by
  induction h with
  | done => exact h'
  | silent hplace hpiece hrest ih => exact .silent hplace hpiece (ih h')
  | up hplace hrest ih => exact .up hplace (ih h')
  | enter hplace hpiece hentry hn hrest ih => exact .enter hplace hpiece hentry hn (ih h')
  | follow hplace hpiece hentry htarget hrest ih =>
    rw [List.append_assoc] at ih
    exact .follow hplace hpiece hentry htarget (ih h')

/-- Two ways that are one way behind the other. -/
theorem exists_of_append (h : Goes root links place (xs ++ ys) left q) :
    ∃ more r, Goes root links place xs more r ∧ Goes root more r ys left q := by
  generalize hall : xs ++ ys = all at h
  induction h generalizing xs with
  | done =>
    obtain ⟨rfl, rfl⟩ := List.append_eq_nil_iff.1 hall
    exact ⟨_, _, .done, .done⟩
  | silent hplace hpiece hrest ih =>
    rcases List.append_eq_cons_iff.1 hall with ⟨rfl, rfl⟩ | ⟨front, rfl, rfl⟩
    · exact ⟨_, _, .done, .silent hplace hpiece hrest⟩
    · obtain ⟨more, r, hfront, hback⟩ := ih rfl
      exact ⟨more, r, .silent hplace hpiece hfront, hback⟩
  | up hplace hrest ih =>
    rcases List.append_eq_cons_iff.1 hall with ⟨rfl, rfl⟩ | ⟨front, rfl, rfl⟩
    · exact ⟨_, _, .done, .up hplace hrest⟩
    · obtain ⟨more, r, hfront, hback⟩ := ih rfl
      exact ⟨more, r, .up hplace hfront, hback⟩
  | enter hplace hpiece hentry hn hrest ih =>
    rcases List.append_eq_cons_iff.1 hall with ⟨rfl, rfl⟩ | ⟨front, rfl, rfl⟩
    · exact ⟨_, _, .done, .enter hplace hpiece hentry hn hrest⟩
    · obtain ⟨more, r, hfront, hback⟩ := ih rfl
      exact ⟨more, r, .enter hplace hpiece hentry hn hfront, hback⟩
  | follow hplace hpiece hentry htarget hrest ih =>
    rcases List.append_eq_cons_iff.1 hall with ⟨rfl, rfl⟩ | ⟨front, rfl, rfl⟩
    · exact ⟨_, _, .done, .follow hplace hpiece hentry htarget hrest⟩
    · obtain ⟨more, r, hfront, hback⟩ := ih (List.append_assoc _ _ _)
      exact ⟨more, r, .follow hplace hpiece hentry htarget hfront, hback⟩

/-- A way leaves no more links than there were. -/
theorem left_le (h : Goes root links place xs left q) : left ≤ links := by
  induction h with
  | done => exact Nat.le_refl _
  | silent _ _ _ ih | up _ _ ih | enter _ _ _ _ _ ih => exact ih
  | follow _ _ _ _ _ ih => exact Nat.le_succ_of_le ih

/-- Pieces that stand for nothing stay where they are. -/
theorem of_silent (hplace : root.IsDirectoryAt place) (h : ∀ piece ∈ xs, isSilent piece = true)
    (links : Nat) : Goes root links place xs links place := by
  induction xs with
  | nil => exact .done
  | cons piece rest ih =>
    obtain ⟨hpiece, hrest⟩ := List.forall_mem_cons.1 h
    exact .silent hplace hpiece (ih hrest)

/-- **Pieces that stand for nothing do not matter on the way to a directory.** -/
theorem congr (h : Goes root links place xs left q) (hq : root.IsDirectoryAt q)
    (hpieces : xs.filter (!isSilent ·) = ys.filter (!isSilent ·)) : Goes root links place ys left q := by
  induction h generalizing ys with
  | done =>
    apply of_silent hq
    intro piece hpiece
    have hnone := List.filter_eq_nil_iff.1 hpieces.symm piece hpiece
    simpa using hnone
  | silent hplace hpiece hrest ih =>
    apply ih hq
    rw [← hpieces, List.filter_cons_of_neg (by simp [hpiece])]
  | up hplace hrest ih =>
    rw [List.filter_cons_of_pos rfl] at hpieces
    obtain ⟨before, after, rfl, hbefore, -, hafter⟩ := List.filter_eq_cons_iff.1 hpieces.symm
    exact (of_silent hplace (by simpa using hbefore) _).append (.up hplace (ih hq hafter.symm))
  | enter hplace hpiece hentry hn hrest ih =>
    rw [List.filter_cons_of_pos (by simp [hpiece.not_silent])] at hpieces
    obtain ⟨before, after, rfl, hbefore, -, hafter⟩ := List.filter_eq_cons_iff.1 hpieces.symm
    exact (of_silent hplace (by simpa using hbefore) _).append
      (.enter hplace hpiece hentry hn (ih hq hafter.symm))
  | follow hplace hpiece hentry htarget hrest ih =>
    rw [List.filter_cons_of_pos (by simp [hpiece.not_silent])] at hpieces
    obtain ⟨before, after, rfl, hbefore, -, hafter⟩ := List.filter_eq_cons_iff.1 hpieces.symm
    apply (of_silent hplace (by simpa using hbefore) _).append
    apply Goes.follow hplace hpiece hentry htarget
    apply ih hq
    rw [List.filter_append, List.filter_append, hafter]

/-- **A way to a directory stays as long as the directories and links do.** -/
theorem persist (h : Goes root links place xs left q) (hq : root.IsDirectoryAt q)
    (hroot : Persists root root') : Goes root' links place xs left q := by
  induction h with
  | done => exact .done
  | silent hplace hpiece hrest ih => exact .silent (hroot.directory hplace) hpiece (ih hq)
  | up hplace hrest ih => exact .up (hroot.directory hplace) (ih hq)
  | enter hplace hpiece hentry hn hrest ih =>
    -- what is entered on the way to a directory is a directory
    obtain ⟨entries, hfind⟩ := hroot.directory (hrest.isDirectoryAt hq)
    exact .enter (hroot.directory hplace) hpiece hfind nofun (ih hq)
  | follow hplace hpiece hentry htarget hrest ih =>
    exact .follow (hroot.directory hplace) hpiece (hroot.link hentry) htarget (ih hq)

end Goes

/-! ### Where a path leads -/

variable {fs : FileSystem} {p : Path}

theorem spot_eq_ok_iff : fs.spot followLast p = .ok spot ↔ checkText p = .ok () ∧
    walkLinks fs.root followLast linkLimit (fs.start p) (split '/' p.text.toList) = .ok spot := by
  rw [FileSystem.spot, bind_eq_ok_iff]
  exact ⟨fun ⟨_, h⟩ => h, fun h => ⟨(), h⟩⟩

/-- A path leads to an entry if its pieces do. -/
theorem locate_eq_ok_iff : fs.locate p = .ok (q, n) ↔ checkText p = .ok () ∧
    walkLinks fs.root true linkLimit (fs.start p) (split '/' p.text.toList) = .ok (.found q n) := by
  rw [← spot_eq_ok_iff, locate, bind_eq_ok_iff]
  constructor
  · rintro ⟨spot, hspot, hfound⟩
    cases spot with
    | vacant directory name slash => cases hfound
    | found place m =>
      cases hfound
      exact hspot
  · exact fun h => ⟨_, h, rfl⟩

theorem has_eq_true_iff : fs.has p = true ↔ ∃ q n, fs.locate p = .ok (q, n) := by
  rw [has]
  cases fs.locate p with
  | error e => simp [Except.isOk, Except.toBool]
  | ok found => exact iff_of_true rfl ⟨found.1, found.2, rfl⟩

end FileSystem

end ImportCensus
