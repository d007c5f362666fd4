/-
ImportCensus/Proofs/FileSystem/Order.lean

File systems that list their directories in different orders.

Two hierarchies are reorderings of each other if they have the same directories, with the same names in each,
and the same files and links (`Node.Reordered`).  A name leads to the same entry, up to its own order, however
its directory is listed.  So every path is followed in the same way, and fails in the same way
(`FileSystem.Reordered.locate`).

Main statements: the directory at a path has the same path without links and dots, and lists the same entries
in another order (`Reordered.canonical`, `Reordered.list`); and the regular files of a hierarchy are the same
(`leaves_perm`).
-/
import ImportCensus.Proofs.FileSystem.Access
import ImportCensus.Proofs.FileSystem.Tree
import Mathlib.Data.List.Perm.Basic

namespace ImportCensus

open Text

/-! ### Results -/

/-- Do two computations fail in the same way, or end with results that are related? -/
inductive SameResult {ε α : Type} (R : α → α → Prop) : Except ε α → Except ε α → Prop
  | error (e : ε) : SameResult R (.error e) (.error e)
  | ok {a b : α} (h : R a b) : SameResult R (.ok a) (.ok b)

/-- What goes on in the same way from related results ends in the same way. -/
theorem SameResult.bind {ε α β : Type} {R : α → α → Prop} {S : β → β → Prop} {x y : Except ε α}
    {f g : α → Except ε β} (h : SameResult R x y) (hf : ∀ a b, R a b → SameResult S (f a) (g b)) :
    SameResult S (x >>= f) (y >>= g) := by
  cases h with
  | error e => exact .error e
  | ok h => exact hf _ _ h

theorem SameResult.eq {ε α : Type} {x y : Except ε α} (h : SameResult Eq x y) : x = y := by
  cases h with
  | error e => rfl
  | ok h => rw [h]

namespace Node

/-! ### Hierarchies -/

/-- Do two hierarchies have the same entries, listed in any order? -/
inductive Reordered : Node → Node → Prop
  | file (contents : Bytes) : Reordered (.file contents) (.file contents)
  | directory {entries entries' : List (String × Node)}
      (hnames : (entries'.map (·.1)).Perm (entries.map (·.1)))
      (hnodes : ∀ name n n', (name, n) ∈ entries → (name, n') ∈ entries' → Reordered n n') :
      Reordered (.directory entries) (.directory entries')
  | link (target : String) : Reordered (.link target) (.link target)
  | other : Reordered .other .other

variable {n n' m : Node} {name : String} {entries entries' : Listing} {place : Place}

theorem exists_entry_iff : (∃ n, entry? name entries = some n) ↔ name ∈ entries.map (·.1) := by
  rw [← Option.isSome_iff_exists]
  unfold entry?
  rw [Option.isSome_map, List.find?_isSome, List.mem_map]
  simp

/-- A name leads to the same entry, however its directory is listed. -/
theorem Reordered.entry? (h : Reordered (.directory entries) (.directory entries')) (name : String) :
    Option.Rel Reordered ( entry? name entries) ( entry? name entries') := by
  cases h with
  | directory hnames hnodes =>
    have hexists : (∃ n', Node.entry? name entries' = some n') ↔ ∃ n, Node.entry? name entries = some n := by
      rw [exists_entry_iff, exists_entry_iff, hnames.mem_iff]
    cases hentry : Node.entry? name entries with
    | none =>
      cases hentry' : Node.entry? name entries' with
      | none => exact .none
      | some n' =>
        obtain ⟨n, hn⟩ := hexists.1 ⟨n', hentry'⟩
        rw [hentry] at hn
        cases hn
    | some n =>
      obtain ⟨n', hentry'⟩ := hexists.2 ⟨n, hentry⟩
      rw [hentry']
      exact .some (hnodes name n n' (mem_of_lookup hentry) (mem_of_lookup hentry'))

/-- At each place there is the same entry. -/
theorem Reordered.find? (h : Reordered n n') (place : Place) :
    Option.Rel Reordered (n.find? place) (n'.find? place) := by
  induction place generalizing n n' with
  | nil => exact .some h
  | cons name rest ih =>
    cases h with
    | @directory entries entries' hnames hnodes =>
      have hentry := Reordered.entry? (.directory hnames hnodes) name
      rw [Node.find?, Node.find?]
      generalize Node.entry? name entries = found, Node.entry? name entries' = found' at hentry
      cases hentry with
      | none => exact .none
      | some hentry => exact ih hentry
    | file | link | other => exact .none

/-- The entries of a directory in the other order, each of which can be compared with its counterpart. -/
theorem exists_aligned {R : Node → Node → Prop} (hnames : (entries'.map (·.1)).Perm (entries.map (·.1)))
    (hnodes : ∀ name n n', (name, n) ∈ entries → (name, n') ∈ entries' → R n n') :
    ∃ aligned, aligned.Perm entries' ∧ List.Forall₂ (fun e e' => e.1 = e'.1 ∧ R e.2 e'.2) entries aligned := by
  obtain ⟨aligned, hsame, hperm⟩ : ∃ aligned : Listing,
      entries.map (·.1) = aligned.map (·.1) ∧ aligned.Perm entries' := by
    show Relation.Comp (· = List.map Prod.fst ·) List.Perm (entries.map Prod.fst) entries'
    rw [List.eq_map_comp_perm]
    exact hnames.symm
  refine ⟨aligned, hperm, List.forall₂_iff_get.2 ⟨by simpa using congrArg List.length hsame, ?_⟩⟩
  intro i hi hi'
  have hname : (entries.get ⟨i, hi⟩).1 = (aligned.get ⟨i, hi'⟩).1 := by
    simpa [hi, hi'] using congrArg (·[i]?) hsame
  refine ⟨hname, hnodes (entries.get ⟨i, hi⟩).1 _ _ (List.get_mem ..) ?_⟩
  rw [hname]
  exact hperm.mem_iff.1 (List.get_mem ..)

/-- Entries that correspond to each other can be put in any order. -/
theorem Reordered.of_aligned {aligned : Listing} (hnodup : (entries.map (·.1)).Nodup)
    (hsame : List.Forall₂ (fun e e' => e.1 = e'.1 ∧ e.2.Reordered e'.2) entries aligned)
    (horder : aligned.Perm entries') : Reordered (.directory entries) (.directory entries') := by
  have hnames : entries.map (·.1) = aligned.map (·.1) := by
    rw [← List.forall₂_eq_eq_eq, List.forall₂_map_left_iff, List.forall₂_map_right_iff]
    exact hsame.imp fun _ _ h => h.1
  refine .directory (hnames ▸ (horder.map _).symm) ?_
  intro name n n' hn hn'
  obtain ⟨⟨i, hi⟩, hentry'⟩ := List.get_of_mem (horder.mem_iff.2 hn')
  obtain ⟨hlength, hget⟩ := List.forall₂_iff_get.1 hsame
  have hi' : i < entries.length := hlength ▸ hi
  obtain ⟨hname, hnode⟩ := hget i hi' hi
  rw [hentry'] at hname hnode
  -- there is one entry of that name only
  have hentry : entries.get ⟨i, hi'⟩ = (name, n) :=
    List.inj_on_of_nodup_map hnodup (List.get_mem ..) hn hname
  rw [hentry] at hnode
  exact hnode

/-- A hierarchy is the same in its own order. -/
theorem Reordered.refl (h : n.WellFormed) : n.Reordered n := by
  induction h with
  | @directory entries hnames hnodup hnodes ih =>
    refine .of_aligned hnodup ?_ (.refl _)
    rw [List.forall₂_same]
    exact fun e he => ⟨rfl, ih e he⟩
  | file contents => exact .file contents
  | link target => exact .link target
  | other => exact .other

theorem Reordered.wellFormed (h : Reordered n n') (hn : n.WellFormed) : n'.WellFormed := by
  induction h with
  | @directory entries entries' hnames hnodes ih =>
    have hentry : ∀ e' ∈ entries', ∃ e ∈ entries, e.1 = e'.1 := fun e' he' =>
      List.mem_map.1 (hnames.mem_iff.1 (List.mem_map_of_mem he'))
    refine .directory ?_ (hnames.nodup_iff.2 hn.nodup) ?_
    · intro e' he'
      obtain ⟨e, he, hname⟩ := hentry e' he'
      exact hname ▸ hn.isEntryName e he
    · rintro ⟨name, m'⟩ he'
      obtain ⟨⟨_, m⟩, he, rfl⟩ := hentry _ he'
      exact ih _ m m' he he' (hn.entry _ he)
  | file | link | other => exact hn

/-- The regular files are the same. -/
theorem Reordered.leaves_perm (h : Reordered n n') (hn : n.WellFormed) : n'.leaves.Perm n.leaves := by
  have hn' := h.wellFormed hn
  rw [List.perm_ext_iff_of_nodup (.of_map _ (nodup_leaves hn')) (.of_map _ (nodup_leaves hn))]
  intro l
  rw [mem_leaves hn, mem_leaves hn']
  apply and_congr_right
  intro _
  have hfind := h.find? l.place
  generalize n.find? l.place = found, n'.find? l.place = found' at hfind
  cases hfind with
  | none => rfl
  | some hfind => cases hfind <;> simp

end Node

namespace FileSystem

/-! ### Paths -/

/-- Do two file systems differ in the order in which they list directories at most? -/
structure Reordered (fs fs' : FileSystem) : Prop where
  root : fs.root.Reordered fs'.root
  current : fs'.current = fs.current

/-- Is this the same spot, up to the order of what is there? -/
inductive Spot.Reordered : Spot → Spot → Prop
  | found {n n' : Node} (place : Place) (h : n.Reordered n') : Reordered (.found place n) (.found place n')
  | vacant (directory : Place) (name : String) (slash : Bool) :
      Reordered (.vacant directory name slash) (.vacant directory name slash)

variable {fs fs' : FileSystem} {root root' : Node} {p : Path} {followLast : Bool}

/-- The pieces of a path are followed in the same way, if links are. -/
theorem walkPieces_reordered (h : root.Reordered root')
    {onLink onLink' : Place → List (List Char) → Except FileError Spot}
    (hlink : ∀ place pieces, SameResult Spot.Reordered (onLink place pieces) (onLink' place pieces))
    (place : Place) (pieces : List (List Char)) :
    SameResult Spot.Reordered (walkPieces root followLast onLink place pieces)
      (walkPieces root' followLast onLink' place pieces) := by
  induction pieces generalizing place with
  | nil =>
    have hfind := h.find? place
    rw [walkPieces, walkPieces]
    generalize root.find? place = found, root'.find? place = found' at hfind
    cases hfind with
    | none => exact .error _
    | some hfind => exact .ok (.found place hfind)
  | cons piece rest ih =>
    have hfind := h.find? place
    rw [walkPieces, walkPieces]
    generalize root.find? place = found, root'.find? place = found' at hfind
    cases hfind with
    | none => exact .error _
    | some hfind =>
      cases hfind with
      | @directory entries entries' hnames hnodes =>
        have hentry := Node.Reordered.entry? (.directory hnames hnodes) (String.ofList piece)
        dsimp only
        split
        · exact ih place
        · split
          · exact ih place.dropLast
          · split
            · exact .error _
            · generalize Node.entry? _ entries = below, Node.entry? _ entries' = below' at hentry
              cases hentry with
              | none =>
                dsimp only
                split
                · exact .ok (.vacant ..)
                · exact .error _
              | some hentry =>
                cases hentry with
                | link target =>
                  dsimp only
                  split
                  · exact .ok (.found _ (.link target))
                  · split
                    · exact .error _
                    · exact hlink ..
                | file | directory | other => exact ih _
      | file | link | other => exact .error _

theorem walkLinks_reordered (h : root.Reordered root') (links : Nat) (place : Place)
    (pieces : List (List Char)) :
    SameResult Spot.Reordered (walkLinks root followLast links place pieces)
      (walkLinks root' followLast links place pieces) := by
  induction links generalizing place pieces with
  | zero => exact walkPieces_reordered h (fun _ _ => .error _) place pieces
  | succ links ih => exact walkPieces_reordered h ih place pieces

namespace Reordered

/-- A path leads to the same entry, up to its order, or fails in the same way. -/
theorem locate (h : fs.Reordered fs') (p : Path) :
    SameResult (fun a b => a.1 = b.1 ∧ a.2.Reordered b.2) (fs.locate p) (fs'.locate p) := by
  have hstart : fs'.start p = fs.start p := by rw [start, start, h.current]
  have hspot : SameResult Spot.Reordered (fs.spot true p) (fs'.spot true p) := by
    rw [spot, spot, hstart]
    cases checkText p with
    | error e => exact .error e
    | ok _ => exact walkLinks_reordered h.root linkLimit _ _
  rw [FileSystem.locate, FileSystem.locate]
  apply hspot.bind
  rintro _ _ (⟨place, hn⟩ | _)
  · exact .ok ⟨rfl, hn⟩
  · exact .error _

/-- The plainest path of an entry is the same. -/
theorem canonical (h : fs.Reordered fs') (p : Path) : fs'.canonical p = fs.canonical p := by
  have hlinks : ∀ place, linkTarget? fs'.root place = linkTarget? fs.root place := by
    intro place
    have hfind := h.root.find? place
    rw [linkTarget?, linkTarget?]
    generalize fs.root.find? place = found, fs'.root.find? place = found' at hfind
    cases hfind with
    | none => rfl
    | some hn => cases hn <;> rfl
  rw [FileSystem.canonical, FileSystem.canonical]
  refine (SameResult.eq ((h.locate p).bind ?_)).symm
  rintro ⟨place, n⟩ ⟨place', n'⟩ ⟨rfl, -⟩
  rw [fitsWay_congr h.current hlinks]
  cases fs.fitsWay p with
  | true => exact .ok rfl
  | false => exact .error _

/-- A directory lists the same entries in another order, or cannot be listed for the same reason. -/
theorem list (h : fs.Reordered fs') (p : Path) :
    SameResult (fun entries entries' => Node.Reordered (.directory entries) (.directory entries'))
      (fs.list p) (fs'.list p) := by
  rw [FileSystem.list, FileSystem.list]
  apply (h.locate p).bind
  rintro ⟨place, n⟩ ⟨place', n'⟩ ⟨-, hn⟩
  cases hn with
  | directory hnames hnodes => exact .ok (.directory hnames hnodes)
  | file | link | other => exact .error _

end Reordered

end FileSystem

end ImportCensus
