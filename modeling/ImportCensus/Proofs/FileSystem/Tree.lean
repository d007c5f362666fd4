/-
ImportCensus/Proofs/FileSystem/Tree.lean

Hierarchies of directories, and the regular files in them.

In a well-formed hierarchy the entries of a directory have different names, each of which can stand
between two slashes.  Its regular files are enumerated depth first (`Node.leaves`): those in the
directories of a directory come before the directory's own, and either group in the order in which the
directory lists it.

Main statements: a file is enumerated exactly if its place leads to it through directories (`mem_leaves`),
and no place is enumerated twice (`nodup_leaves`).
-/
import ImportCensus.FileSystem
import ImportCensus.Proofs.Path
import Mathlib.Data.List.Nodup

namespace ImportCensus

open Text

namespace Node

/-! ### Well-formed hierarchies -/

/-- A hierarchy in which each directory gives its entries different names, all of them fit for an
entry. -/
inductive WellFormed : Node → Prop
  | file (contents : Bytes) : WellFormed (.file contents)
  | directory {entries : List (String × Node)} (hnames : ∀ e ∈ entries, IsEntryName e.1)
      (hnodup : (entries.map (·.1)).Nodup) (hnodes : ∀ e ∈ entries, WellFormed e.2) :
      WellFormed (.directory entries)
  | link (target : String) : WellFormed (.link target)
  | other : WellFormed .other

mutual

/-- Is a hierarchy well-formed? -/
def isWellFormed : Node → Bool
  | .directory entries => decide (entries.map (·.1)).Nodup && areWellFormed entries
  | _ => true

/-- Do some entries have names that fit, and are the hierarchies below them well-formed? -/
def areWellFormed : Listing → Bool
  | [] => true
  | (name, n) :: r => decide (IsEntryName name) && isWellFormed n && areWellFormed r

end

variable {name : String} {n : Node} {entries : Listing} {place : Place}

theorem file_ne_link (contents : Bytes) (target : String) : Node.file contents ≠ .link target :=
  nofun

theorem directory_ne_link (entries : Listing) (target : String) : Node.directory entries ≠ .link target :=
  nofun

theorem WellFormed.isEntryName (h : (Node.directory entries).WellFormed) :
    ∀ e ∈ entries, IsEntryName e.1 := by
  cases h with
  | directory hnames => exact hnames

theorem WellFormed.nodup (h : (Node.directory entries).WellFormed) : (entries.map (·.1)).Nodup := by
  cases h with
  | directory _ hnodup => exact hnodup

theorem WellFormed.entry (h : (Node.directory entries).WellFormed) : ∀ e ∈ entries, e.2.WellFormed := by
  cases h with
  | directory _ _ hnodes => exact hnodes

mutual

theorem isWellFormed_iff : (n : Node) → (n.isWellFormed = true ↔ n.WellFormed)
  | .directory entries => by
    rw [isWellFormed, Bool.and_eq_true, decide_eq_true_iff, areWellFormed_iff entries]
    constructor
    · rintro ⟨hnodup, hentries⟩
      exact .directory (fun e he => (hentries e he).1) hnodup fun e he => (hentries e he).2
    · intro h
      exact ⟨h.nodup, fun e he => ⟨h.isEntryName e he, h.entry e he⟩⟩
  | .file contents => iff_of_true rfl (.file contents)
  | .link target => iff_of_true rfl (.link target)
  | .other => iff_of_true rfl .other

theorem areWellFormed_iff : (entries : Listing) →
    (areWellFormed entries = true ↔ ∀ e ∈ entries, IsEntryName e.1 ∧ e.2.WellFormed)
  | [] => by simp [areWellFormed]
  | (name, n) :: r => by
    rw [areWellFormed, Bool.and_eq_true, Bool.and_eq_true, decide_eq_true_iff, isWellFormed_iff n,
      areWellFormed_iff r, List.forall_mem_cons]

end

instance (n : Node) : Decidable n.WellFormed :=
  decidable_of_iff _ (isWellFormed_iff n)

theorem mem_of_lookup (h : entry? name entries = some n) : (name, n) ∈ entries := by
  obtain ⟨e, he, rfl⟩ := Option.map_eq_some_iff.1 h
  have hname : e.1 = name := by simpa using List.find?_some he
  rw [← hname]
  exact List.mem_of_find?_eq_some he

/-- Where names differ, each entry is the one that its name leads to. -/
theorem entry?_eq_some_iff (h : (entries.map (·.1)).Nodup) :
    entry? name entries = some n ↔ (name, n) ∈ entries := by
  refine ⟨mem_of_lookup, ?_⟩
  intro hmem
  induction entries with
  | nil => cases hmem
  | cons e r ih =>
    rw [List.map_cons, List.nodup_cons] at h
    rcases List.mem_cons.1 hmem with rfl | hr
    · unfold entry?
      rw [List.find?_cons_of_pos (by simp)]
      rfl
    · have hne : e.1 ≠ name := by
        intro heq
        apply h.1
        rw [heq]
        exact List.mem_map.2 ⟨_, hr, rfl⟩
      unfold entry?
      rw [List.find?_cons_of_neg (by simpa using hne)]
      exact ih h.2 hr

theorem find?_directory_cons {m : Node} :
    (directory entries).find? (name :: place) = some m ↔
      ∃ n, entry? name entries = some n ∧ n.find? place = some m := by
  rw [find?]
  cases entry? name entries with
  | none => simp
  | some n => simp

theorem find?_append_singleton {m : Node} (hdirectory : n.find? place = some (.directory entries))
    (hentry : entry? name entries = some m) : n.find? (place ++ [name]) = some m := by
  induction place generalizing n with
  | nil =>
    cases hdirectory
    exact find?_directory_cons.2 ⟨m, hentry, rfl⟩
  | cons first rest ih =>
    cases n with
    | directory others =>
      obtain ⟨m', hm', hrest⟩ := find?_directory_cons.1 hdirectory
      exact find?_directory_cons.2 ⟨m', hm', ih hrest⟩
    | _ => cases hdirectory

/-- What is found in a well-formed hierarchy is one. -/
theorem WellFormed.find? {m : Node} (h : n.WellFormed) (hfind : n.find? place = some m) :
    m.WellFormed := by
  induction place generalizing n with
  | nil =>
    simp only [Node.find?, Option.some.injEq] at hfind
    rw [← hfind]
    exact h
  | cons name rest ih =>
    cases n with
    | directory entries =>
      obtain ⟨m', hm', hrest⟩ := find?_directory_cons.1 hfind
      exact ih (h.entry _ (mem_of_lookup hm')) hrest
    | _ => cases hfind

end Node

/-! ### Regular files -/

/-- A regular file in a hierarchy. -/
structure Leaf where
  /-- The names on the way to it. -/
  place : Place
  contents : Bytes

/-- The file seen from the directory that holds its hierarchy under a name. -/
def Leaf.under (name : String) (l : Leaf) : Leaf :=
  { l with place := name :: l.place }

/-- An entry of a directory as a regular file, if it is one. -/
def Leaf.ofEntry? : String × Node → Option Leaf
  | (name, .file contents) => some ⟨[name], contents⟩
  | _ => none

namespace Node

mutual

/-- The regular files in a directory, first those in its directories and then its own. -/
def leaves : Node → List Leaf
  | .directory entries => leavesBelow entries ++ entries.filterMap Leaf.ofEntry?
  | _ => []

/-- The regular files in the directories among some entries. -/
def leavesBelow : Listing → List Leaf
  | [] => []
  | (name, n) :: r => (leaves n).map (.under name) ++ leavesBelow r

end

variable {n : Node} {entries : Listing} {l : Leaf}

theorem leavesBelow_eq_flatMap (entries : Listing) :
    leavesBelow entries = entries.flatMap fun e => (leaves e.2).map (.under e.1) := by
  induction entries with
  | nil => rfl
  | cons e r ih =>
    obtain ⟨name, n⟩ := e
    rw [leavesBelow, ih]
    rfl

theorem mem_leavesBelow :
    l ∈ leavesBelow entries ↔ ∃ e ∈ entries, ∃ l' ∈ e.2.leaves, l = l'.under e.1 := by
  rw [leavesBelow_eq_flatMap, List.mem_flatMap]
  simp only [List.mem_map, eq_comm]

theorem mem_filterMap_ofEntry? :
    l ∈ entries.filterMap Leaf.ofEntry? ↔
      ∃ name, (name, .file l.contents) ∈ entries ∧ l.place = [name] := by
  rw [List.mem_filterMap]
  constructor
  · rintro ⟨⟨name, n⟩, hmem, hleaf⟩
    cases n with
    | file contents =>
      cases hleaf
      exact ⟨name, hmem, rfl⟩
    | _ => cases hleaf
  · rintro ⟨name, hmem, hplace⟩
    refine ⟨_, hmem, ?_⟩
    rw [Leaf.ofEntry?, ← hplace]

/-- No file is the directory itself. -/
theorem place_ne_nil (h : l ∈ n.leaves) : l.place ≠ [] := by
  cases n with
  | directory entries =>
    rw [leaves, List.mem_append, mem_leavesBelow, mem_filterMap_ofEntry?] at h
    rcases h with ⟨e, -, l', -, rfl⟩ | ⟨name, -, hplace⟩
    · exact List.cons_ne_nil _ _
    · rw [hplace]
      exact List.cons_ne_nil _ _
  | _ => cases h

/-- **The enumeration of a hierarchy holds just its regular files.** -/
theorem mem_leaves (h : n.WellFormed) :
    l ∈ n.leaves ↔ l.place ≠ [] ∧ n.find? l.place = some (.file l.contents) := by
  -- the induction is on the hierarchy; the place loses its first name from one directory to the next
  induction h generalizing l with
  | @directory entries hnames hnodup hnodes ih =>
    rw [leaves, List.mem_append, mem_leavesBelow, mem_filterMap_ofEntry?]
    constructor
    · rintro (⟨⟨name, n⟩, he, l', hl', rfl⟩ | ⟨name, he, hplace⟩)
      · refine ⟨List.cons_ne_nil _ _, ?_⟩
        exact find?_directory_cons.2 ⟨n, (entry?_eq_some_iff hnodup).2 he, ((ih _ he).1 hl').2⟩
      · rw [hplace]
        refine ⟨List.cons_ne_nil _ _, ?_⟩
        exact find?_directory_cons.2 ⟨_, (entry?_eq_some_iff hnodup).2 he, rfl⟩
    · rintro ⟨hne, hfind⟩
      obtain ⟨place, contents⟩ := l
      obtain ⟨name, rest, rfl⟩ := List.exists_cons_of_ne_nil hne
      obtain ⟨m, hm, hrest⟩ := find?_directory_cons.1 hfind
      have he := mem_of_lookup hm
      by_cases hnil : rest = []
      · -- the entry itself is the file
        subst hnil
        simp only [find?, Option.some.injEq] at hrest
        subst hrest
        exact .inr ⟨name, he, rfl⟩
      · exact .inl ⟨_, he, ⟨rest, contents⟩, (ih _ he).2 ⟨hnil, hrest⟩, rfl⟩
  | _ =>
    refine ⟨fun hmem => (by cases hmem), ?_⟩
    rintro ⟨hne, hfind⟩
    obtain ⟨name, rest, hplace⟩ := List.exists_cons_of_ne_nil hne
    rw [hplace] at hfind
    cases hfind

/-- No place is enumerated twice below a directory if that is so in each of its directories. -/
theorem nodup_leavesBelow (hnodup : (entries.map (·.1)).Nodup)
    (h : ∀ e ∈ entries, (e.2.leaves.map Leaf.place).Nodup) :
    ((leavesBelow entries).map Leaf.place).Nodup := by
  rw [leavesBelow_eq_flatMap, List.map_flatMap, List.nodup_flatMap]
  refine ⟨?_, ?_⟩
  · intro e he
    have hplaces := (h e he).map (List.cons_injective (a := e.1))
    rw [List.map_map] at hplaces ⊢
    exact hplaces
  · -- files in different directories differ in their first name
    rw [List.nodup_iff_pairwise_ne, List.pairwise_map] at hnodup
    apply hnodup.imp
    intro e e' hne place hmem hmem'
    obtain ⟨l, hl, rfl⟩ := List.mem_map.1 hmem
    obtain ⟨l', hl', hplace⟩ := List.mem_map.1 hmem'
    obtain ⟨l, -, rfl⟩ := List.mem_map.1 hl
    obtain ⟨l', -, rfl⟩ := List.mem_map.1 hl'
    exact hne (List.cons.inj hplace).1.symm

/-- The files of a directory itself have different names. -/
theorem nodup_filterMap_ofEntry? (hnodup : (entries.map (·.1)).Nodup) :
    ((entries.filterMap Leaf.ofEntry?).map Leaf.place).Nodup := by
  have hsub : (entries.filterMap Leaf.ofEntry?).map Leaf.place
      |>.Sublist ((entries.map (·.1)).map fun name => [name]) := by
    clear hnodup
    induction entries with
    | nil => exact .slnil
    | cons e r ih =>
      obtain ⟨name, n⟩ := e
      cases n with
      | file contents => exact ih.cons_cons _
      | _ => exact ih.cons _
  apply hsub.nodup
  apply hnodup.map
  intro a b hab
  exact (List.cons.inj hab).1

/-- No file is enumerated twice. -/
theorem nodup_leaves (h : n.WellFormed) : (n.leaves.map Leaf.place).Nodup := by
  induction h with
  | @directory entries hnames hnodup hnodes ih =>
    rw [leaves, List.map_append, List.nodup_append]
    refine ⟨nodup_leavesBelow hnodup ih, nodup_filterMap_ofEntry? hnodup, ?_⟩
    -- a file further below has a longer place than a file of the directory itself
    intro place hmem place' hmem' heq
    obtain ⟨l, hl, rfl⟩ := List.mem_map.1 hmem
    obtain ⟨l', hl', rfl⟩ := List.mem_map.1 hmem'
    obtain ⟨e, -, m, hm, rfl⟩ := mem_leavesBelow.1 hl
    obtain ⟨name, -, hplace⟩ := mem_filterMap_ofEntry?.1 hl'
    rw [hplace] at heq
    exact place_ne_nil hm (List.cons.inj heq).2
  | _ => exact .nil

/-- The names on the way to a file are fit for entries. -/
theorem isEntryName_of_mem_leaves (h : n.WellFormed) (hl : l ∈ n.leaves) :
    ∀ name ∈ l.place, IsEntryName name := by
  induction h generalizing l with
  | @directory entries hnames hnodup hnodes ih =>
    rw [leaves, List.mem_append, mem_leavesBelow, mem_filterMap_ofEntry?] at hl
    rcases hl with ⟨e, he, l', hl', rfl⟩ | ⟨name, he, hplace⟩
    · intro name hname
      rcases List.mem_cons.1 hname with rfl | hname
      · exact hnames e he
      · exact ih e he hl' name hname
    · intro name' hname'
      rw [hplace, List.mem_singleton] at hname'
      subst hname'
      exact hnames _ he
  | _ => cases hl

/-! ### Links and entries of other kinds -/

/-- Is this a file or a directory? -/
def isPlain : Node → Bool
  | .file _ | .directory _ => true
  | _ => false

mutual

/-- The hierarchy without what is neither a file nor a directory, such as links. -/
def plain : Node → Node
  | .directory entries => .directory (plainEntries entries)
  | n => n

/-- The entries of a directory without what is neither a file nor a directory. -/
def plainEntries : Listing → Listing
  | [] => []
  | (name, n) :: r => if n.isPlain then (name, plain n) :: plainEntries r else plainEntries r

end

end Node

end ImportCensus
