/-
ImportCensus/Proofs/FileSystem/Change.lean

What a change of one entry does to a hierarchy.

Seen from outside, a directory is nothing but a directory (`Node.surface`), so that what is at a place does
not change with what is put into a directory there (`Node.look`).  An entry that is put into a directory or
dropped from it changes what is at its own place and below it, and nothing else.

Main statements: what is at the place of the entry afterwards (`find?_put`, `find?_drop`), that all other
places look as before (`look_put`, `look_drop`), that directories and links stay if the entry was neither
(`persists_of_look`), and that a way which does not come to the entry stays (`Goes.persist_beside`).
-/
import ImportCensus.Proofs.FileSystem.Way

namespace ImportCensus

namespace Node

variable {n m : Node} {name other : String} {entries : Listing} {place rest : Place}
  {f : Listing → Listing}

/-! ### Entries of a directory -/

theorem entry?_cons (e : String × Node) (r : Listing) (name : String) :
    entry? name (e :: r) = if e.1 = name then some e.2 else entry? name r := by
  by_cases he : e.1 = name
  · unfold entry?
    rw [List.find?_cons_of_pos (by simp [he]), if_pos he]
    rfl
  · unfold entry?
    rw [List.find?_cons_of_neg (by simp [he]), if_neg he]

theorem entry?_putEntry (name other : String) (m : Node) (entries : Listing) :
    entry? other (putEntry name m entries) = if name = other then some m else entry? other entries := by
  induction entries with
  | nil => exact entry?_cons _ _ _
  | cons e r ih =>
    rw [putEntry]
    split
    · next he =>
      rw [entry?_cons, entry?_cons, he]
      split <;> rfl
    · next he =>
      rw [entry?_cons, entry?_cons, ih]
      by_cases hother : name = other
      · rw [if_pos hother, if_neg (hother ▸ he), if_pos hother]
      · rw [if_neg hother, if_neg hother]

theorem entry?_removeEntry (name other : String) (entries : Listing) :
    entry? other (removeEntry name entries) = if name = other then none else entry? other entries := by
  induction entries with
  | nil => simp [removeEntry, entry?]
  | cons e r ih =>
    rw [removeEntry, List.filter_cons]
    by_cases he : e.1 = name
    · rw [if_neg (by simp [he]), ← removeEntry, ih, entry?_cons, he]
      split <;> rfl
    · rw [if_pos (by simp [he]), ← removeEntry, entry?_cons, entry?_cons, ih]
      by_cases hother : name = other
      · rw [if_pos hother, if_neg (hother ▸ he), if_pos hother]
      · rw [if_neg hother, if_neg hother]

/-! ### Looking at a place -/

/-- A node as it is seen from outside: of a directory, no more than that it is one. -/
def surface : Node → Node
  | .directory _ => .directory []
  | n => n

/-- What is at a place, seen from outside. -/
def look (n : Node) (place : Place) : Option Node :=
  (n.find? place).map surface

theorem look_eq_directory : n.look place = some (.directory []) ↔ n.IsDirectoryAt place := by
  rw [look, IsDirectoryAt, Option.map_eq_some_iff]
  constructor
  · rintro ⟨m, hfind, hm⟩
    cases m with
    | directory entries => exact ⟨entries, hfind⟩
    | _ => cases hm
  · rintro ⟨entries, hfind⟩
    exact ⟨_, hfind, rfl⟩

/-- What is no directory is seen as it is. -/
theorem look_eq_some_iff (hm : m.isDirectory = false) :
    n.look place = some m ↔ n.find? place = some m := by
  rw [look, Option.map_eq_some_iff]
  constructor
  · rintro ⟨m', hfind, rfl⟩
    cases m' with
    | directory entries => cases hm
    | _ => exact hfind
  · intro hfind
    refine ⟨m, hfind, ?_⟩
    cases m with
    | directory entries => cases hm
    | _ => rfl

theorem look_eq_none : n.look place = none ↔ n.find? place = none :=
  Option.map_eq_none_iff

/-- Below what is no directory there is nothing. -/
theorem find?_append_of_isDirectory (h : ∀ m, n.find? place = some m → m.isDirectory = false)
    (hrest : rest ≠ []) : n.find? (place ++ rest) = none := by
  rw [find?_append]
  obtain ⟨name, rest, rfl⟩ := List.exists_cons_of_ne_nil hrest
  cases hfind : n.find? place with
  | none => rfl
  | some m =>
    cases m with
    | directory entries => cases h _ hfind
    | _ => rfl

/-! ### Changing a directory -/

/-- At a changed directory and below it, everything is found in the changed entries. -/
theorem find?_change_append (h : n.find? place = some (.directory entries)) (rest : Place) :
    (change f place n).find? (place ++ rest) = (directory (f entries)).find? rest := by
  induction place generalizing n with
  | nil =>
    cases h
    rfl
  | cons name names ih =>
    cases n with
    | directory others =>
      obtain ⟨m, hentry, hm⟩ := find?_directory_cons.1 h
      rw [change, hentry, List.cons_append, find?]
      simp only [entry?_putEntry, if_pos]
      exact ih hm
    | _ => cases h

/-- If one entry of a directory changes, all places look as before but that of the entry and those below
it. -/
theorem look_change (h : n.find? place = some (.directory entries))
    (hf : ∀ a, a ≠ name → entry? a (f entries) = entry? a entries) {q : Place}
    (hq : ¬place ++ [name] <+: q) : (change f place n).look q = n.look q := by
  induction place generalizing n q with
  | nil =>
    cases h
    cases q with
    | nil => rfl
    | cons first q =>
      have hfirst : first ≠ name := by
        rintro rfl
        exact hq ⟨q, rfl⟩
      rw [look, look, change, find?, find?, hf first hfirst]
  | cons next names ih =>
    cases n with
    | directory others =>
      obtain ⟨m, hentry, hm⟩ := find?_directory_cons.1 h
      cases q with
      | nil =>
        rw [change, hentry]
        rfl
      | cons first q =>
        rw [look, look, change, hentry, find?, find?]
        simp only [entry?_putEntry]
        by_cases hfirst : next = first
        · -- the place lies in the directory on the way, or in what is beside it there
          subst hfirst
          have hbelow : ¬names ++ [name] <+: q := by
            intro hprefix
            exact hq (List.cons_prefix_cons.2 ⟨rfl, hprefix⟩)
          rw [if_pos rfl, hentry]
          exact ih hm hbelow
        · rw [if_neg hfirst]
    | _ => cases h

end Node

namespace FileSystem

variable {fs : FileSystem} {place rest q hole : Place} {name : String} {n root root' : Node} {links left : Nat}
  {xs : List (List Char)}

@[simp] theorem put_current (fs : FileSystem) (place : Place) (name : String) (n : Node) :
    (fs.put place name n).current = fs.current := rfl

@[simp] theorem drop_current (fs : FileSystem) (place : Place) (name : String) :
    (fs.drop place name).current = fs.current := rfl

theorem putAt_concat (fs : FileSystem) (place : Place) (name : String) (n : Node) :
    fs.putAt (place ++ [name]) n = fs.put place name n := by
  rw [putAt, splitPlace, List.getLast?_concat, List.dropLast_concat]
  rfl

theorem dropAt_concat (fs : FileSystem) (place : Place) (name : String) :
    fs.dropAt (place ++ [name]) = fs.drop place name := by
  rw [dropAt, splitPlace, List.getLast?_concat, List.dropLast_concat]
  rfl

/-- What is put into a directory is there. -/
theorem find?_put (h : fs.root.IsDirectoryAt place) (rest : Place) :
    (fs.put place name n).root.find? (place ++ name :: rest) = n.find? rest := by
  obtain ⟨entries, hplace⟩ := h
  rw [put, Node.find?_change_append hplace, Node.find?, Node.entry?_putEntry, if_pos rfl]

/-- What is dropped is no more there. -/
theorem find?_drop (h : fs.root.IsDirectoryAt place) (rest : Place) :
    (fs.drop place name).root.find? (place ++ name :: rest) = none := by
  obtain ⟨entries, hplace⟩ := h
  rw [drop, Node.find?_change_append hplace, Node.find?, Node.entry?_removeEntry, if_pos rfl]

/-- The other entries of a directory are as they were. -/
theorem find?_put_ne (h : fs.root.IsDirectoryAt place) {other : String} (hother : other ≠ name)
    (rest : Place) :
    (fs.put place other n).root.find? (place ++ name :: rest) = fs.root.find? (place ++ name :: rest) := by
  obtain ⟨entries, hplace⟩ := h
  rw [put, Node.find?_change_append hplace, Node.find?, Node.entry?_putEntry, if_neg hother,
    Node.find?_append, hplace]
  rfl

theorem find?_drop_ne (h : fs.root.IsDirectoryAt place) {other : String} (hother : other ≠ name)
    (rest : Place) :
    (fs.drop place other).root.find? (place ++ name :: rest) = fs.root.find? (place ++ name :: rest) := by
  obtain ⟨entries, hplace⟩ := h
  rw [drop, Node.find?_change_append hplace, Node.find?, Node.entry?_removeEntry, if_neg hother,
    Node.find?_append, hplace]
  rfl

/-- Nothing but the new entry looks different. -/
theorem look_put (h : fs.root.IsDirectoryAt place) (hq : ¬place ++ [name] <+: q) :
    (fs.put place name n).root.look q = fs.root.look q := by
  obtain ⟨entries, hplace⟩ := h
  apply Node.look_change hplace _ hq
  intro a ha
  rw [Node.entry?_putEntry, if_neg (Ne.symm ha)]

/-- Nothing but the dropped entry looks different. -/
theorem look_drop (h : fs.root.IsDirectoryAt place) (hq : ¬place ++ [name] <+: q) :
    (fs.drop place name).root.look q = fs.root.look q := by
  obtain ⟨entries, hplace⟩ := h
  apply Node.look_change hplace _ hq
  intro a ha
  rw [Node.entry?_removeEntry, if_neg (Ne.symm ha)]

/-- If there was no directory and there is none, nothing but the new entry looks different. -/
theorem look_put_ne (h : fs.root.IsDirectoryAt place)
    (hbefore : ∀ m, fs.root.find? (place ++ [name]) = some m → m.isDirectory = false)
    (hn : n.isDirectory = false) (hq : q ≠ place ++ [name]) :
    (fs.put place name n).root.look q = fs.root.look q := by
  by_cases hprefix : place ++ [name] <+: q
  · obtain ⟨rest, rfl⟩ := hprefix
    have hrest : rest ≠ [] := by simpa using hq
    have hafter : ∀ m, (fs.put place name n).root.find? (place ++ [name]) = some m →
        m.isDirectory = false := by
      intro m hm
      rw [find?_put h, Node.find?] at hm
      rwa [← Option.some.inj hm]
    rw [Node.look_eq_none.2 (Node.find?_append_of_isDirectory hbefore hrest),
      Node.look_eq_none.2 (Node.find?_append_of_isDirectory hafter hrest)]
  · exact look_put h hprefix

theorem look_drop_ne (h : fs.root.IsDirectoryAt place)
    (hbefore : ∀ m, fs.root.find? (place ++ [name]) = some m → m.isDirectory = false)
    (hq : q ≠ place ++ [name]) : (fs.drop place name).root.look q = fs.root.look q := by
  by_cases hprefix : place ++ [name] <+: q
  · obtain ⟨rest, rfl⟩ := hprefix
    have hrest : rest ≠ [] := by simpa using hq
    have hafter : (fs.drop place name).root.find? (place ++ [name]) = none := find?_drop h []
    rw [Node.look_eq_none.2 (Node.find?_append_of_isDirectory hbefore hrest),
      Node.look_eq_none.2 (Node.find?_append_of_none hafter rest)]
  · exact look_drop h hprefix

/-! ### Ways beside an entry -/

/-- What looks alike is a directory in both hierarchies. -/
theorem isDirectoryAt_of_look (hlook : root'.look q = root.look q) (h : root.IsDirectoryAt q) :
    root'.IsDirectoryAt q := by
  rw [← Node.look_eq_directory] at h ⊢
  rw [hlook, h]

/-- **A way that does not come to an entry stays, if all else stays.**  The rest of a way from the entry would
lead to the end of the way, with no more links than there were. -/
theorem Goes.persist_beside (h : Goes root links place xs left q) (hleaf : ¬root.IsDirectoryAt hole)
    (hlook : ∀ r, r ≠ hole → root.find? r ≠ none → root'.look r = root.look r)
    (hpass : ∀ more ≤ links, ∀ d piece rest, IsStep piece → d ++ [String.ofList piece] = hole →
      ¬Goes root more d (piece :: rest) left q) : Goes root' links place xs left q := by
  have hkeep : ∀ r, root.IsDirectoryAt r → root'.IsDirectoryAt r := by
    intro r hr
    have hne : r ≠ hole := by
      rintro rfl
      exact hleaf hr
    obtain ⟨entries, hfind⟩ := hr
    exact isDirectoryAt_of_look (hlook r hne (by simp [hfind])) ⟨entries, hfind⟩
  induction h with
  | done => exact .done
  | silent hplace hpiece hrest ih => exact .silent (hkeep _ hplace) hpiece (ih hpass)
  | up hplace hrest ih => exact .up (hkeep _ hplace) (ih hpass)
  | @enter links left place q piece rest n hplace hpiece hentry hn hrest ih =>
    have hentered : place ++ [String.ofList piece] ≠ hole := fun heq =>
      hpass links (Nat.le_refl _) _ _ _ hpiece heq (.enter hplace hpiece hentry hn hrest)
    have hsame := hlook _ hentered (by simp [hentry])
    rw [Node.look, Node.look, hentry, Option.map_some, Option.map_eq_some_iff] at hsame
    obtain ⟨n', hfind, hsurface⟩ := hsame
    refine .enter (hkeep _ hplace) hpiece hfind ?_ (ih hpass)
    rintro target rfl
    cases n with
    | link other => exact hn other rfl
    | _ => cases hsurface
  | @follow links left place q piece rest target hplace hpiece hentry htarget hrest ih =>
    have hlink : place ++ [String.ofList piece] ≠ hole := fun heq =>
      hpass (links + 1) (Nat.le_refl _) _ _ _ hpiece heq (.follow hplace hpiece hentry htarget hrest)
    have hfind := hlook _ hlink (by simp [hentry])
    rw [(Node.look_eq_some_iff rfl).2 hentry, Node.look_eq_some_iff rfl] at hfind
    exact .follow (hkeep _ hplace) hpiece hfind htarget
      (ih fun more hmore => hpass more (Nat.le_succ_of_le hmore))

/-! ### What stays -/

/-- Is there neither a directory nor a link at a place? -/
def IsLoose (root : Node) (place : Place) : Prop :=
  ∀ m, root.find? place = some m → m.isDirectory = false ∧ ∀ target, m ≠ .link target

theorem isLoose_of_none {root : Node} (h : root.find? place = none) : IsLoose root place := by
  intro m hm
  rw [h] at hm
  cases hm

theorem isLoose_of_file {root : Node} {contents : Text.Bytes}
    (h : root.find? place = some (.file contents)) : IsLoose root place := by
  intro m hm
  rw [h] at hm
  cases hm
  exact ⟨rfl, nofun⟩

/-- No way to a directory or a link passes what is neither. -/
theorem IsLoose.not_above {root m : Node} (h : IsLoose root place) (hq : root.find? q = some m)
    (hm : m.isDirectory = true ∨ ∃ target, m = .link target) : ¬place <+: q := by
  rintro ⟨rest, rfl⟩
  cases rest with
  | nil =>
    rw [List.append_nil] at hq
    obtain ⟨hdirectory, hlink⟩ := h m hq
    rcases hm with hm | ⟨target, rfl⟩
    · rw [hdirectory] at hm
      cases hm
    · exact hlink target rfl
  | cons name rest =>
    obtain ⟨entries, -, hplace, -⟩ := Node.exists_directory_of_find? hq
    cases (h _ hplace).1

/-- **Directories and links stay if places look different only where there were neither.** -/
theorem persists_of_look {root root' : Node} (changed : List Place)
    (hloose : ∀ place ∈ changed, IsLoose root place)
    (h : ∀ q, (∀ place ∈ changed, ¬place <+: q) → root'.look q = root.look q) : Persists root root' where
  directory {q} hq := by
    obtain ⟨entries, hfind⟩ := hq
    have hlook := h q fun place hplace => (hloose place hplace).not_above hfind (.inl rfl)
    rw [← Node.look_eq_directory, hlook, Node.look_eq_directory]
    exact ⟨entries, hfind⟩
  link {q target} hq := by
    have hlook := h q fun place hplace => (hloose place hplace).not_above hq (.inr ⟨target, rfl⟩)
    rw [← Node.look_eq_some_iff rfl, hlook, Node.look_eq_some_iff rfl]
    exact hq

/-- What is put in the place of neither a directory nor a link leaves these. -/
theorem persists_put (h : fs.root.IsDirectoryAt place) (hloose : IsLoose fs.root (place ++ [name])) :
    Persists fs.root (fs.put place name n).root := by
  apply persists_of_look [place ++ [name]] (by simpa using hloose)
  intro q hq
  exact look_put h (by simpa using hq)

theorem persists_drop (h : fs.root.IsDirectoryAt place) (hloose : IsLoose fs.root (place ++ [name])) :
    Persists fs.root (fs.drop place name).root := by
  apply persists_of_look [place ++ [name]] (by simpa using hloose)
  intro q hq
  exact look_drop h (by simpa using hq)

end FileSystem

end ImportCensus
