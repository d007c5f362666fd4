/-
ImportCensus/Proofs/Path.lean

The components of the paths below a directory.  However a directory is spelled, the path of an entry has
one component more, the name of the entry; so the paths of different entries are different keys, and a
path is never shorter than the path of a directory above it.

Main statements: the components of a path some names below another one (`components_below`), and that such
paths compare as equal only if the names are the same (`eq_of_compare_below`).
-/
import ImportCensus.Path
import Mathlib.Data.List.Basic

namespace ImportCensus

open Text

/-! ### Cutting texts -/

namespace Text

variable {sep : Char}

theorem split_append_sep (s t : List Char) : split sep (s ++ sep :: t) = split sep s ++ split sep t := by
  induction s with
  | nil =>
    obtain ⟨piece, pieces, h⟩ := List.exists_cons_of_ne_nil (split_ne_nil sep t)
    show split sep (sep :: t) = [] :: split sep t
    rw [split, h]
    simp
  | cons c r ih =>
    obtain ⟨piece, pieces, h⟩ := List.exists_cons_of_ne_nil (split_ne_nil sep r)
    rw [List.cons_append, split, ih, split, h]
    by_cases hc : c = sep <;> simp [hc]

theorem split_of_notMem {s : List Char} (h : sep ∉ s) : split sep s = [s] := by
  induction s with
  | nil => rfl
  | cons c r ih =>
    rw [List.mem_cons, not_or] at h
    rw [split, ih h.2]
    simp [Ne.symm h.1]

/-- Cutting undoes joining. -/
theorem split_join {pieces : List (List Char)} (hne : pieces ≠ [])
    (h : ∀ piece ∈ pieces, sep ∉ piece) : split sep (join sep pieces) = pieces := by
  induction pieces with
  | nil => exact absurd rfl hne
  | cons piece r ih =>
    obtain ⟨hpiece, hr⟩ := List.forall_mem_cons.1 h
    cases r with
    | nil => exact split_of_notMem hpiece
    | cons next r =>
      show split sep (piece ++ sep :: join sep (next :: r)) = _
      rw [split_append_sep, split_of_notMem hpiece, ih (List.cons_ne_nil _ _) hr]
      rfl

end Text

/-! ### Names -/

/-- Can a directory hold an entry of this name? -/
structure IsEntryName (name : String) : Prop where
  ne_empty : name ≠ ""
  ne_current : name ≠ "."
  ne_parent : name ≠ ".."
  no_slash : '/' ∉ name.toList

instance (name : String) : Decidable (IsEntryName name) :=
  decidable_of_iff (name ≠ "" ∧ name ≠ "." ∧ name ≠ ".." ∧ '/' ∉ name.toList)
    ⟨fun ⟨h₁, h₂, h₃, h₄⟩ => ⟨h₁, h₂, h₃, h₄⟩, fun ⟨h₁, h₂, h₃, h₄⟩ => ⟨h₁, h₂, h₃, h₄⟩⟩

namespace Path

variable {name : String}

theorem toList_ne {name other : String} (h : name ≠ other) : name.toList ≠ other.toList := by
  intro heq
  exact h (String.ext heq)

/-- A path is the characters of its spelling. -/
theorem eq_of_toList {p q : Path} (h : p.text.toList = q.text.toList) : p = q := by
  have htext : p.text = q.text := String.ext h
  cases p
  cases q
  cases htext
  rfl

theorem componentOf?_name (h : IsEntryName name) : componentOf? name.toList = some (.name name) := by
  have hempty : name.toList ≠ [] := toList_ne h.ne_empty
  have hcurrent : name.toList ≠ ['.'] := toList_ne h.ne_current
  have hparent : name.toList ≠ ['.', '.'] := toList_ne h.ne_parent
  simp [componentOf?, hempty, hcurrent, hparent]

theorem components_name (h : IsEntryName name) : components ⟨name⟩ = [.name name] := by
  have hempty : name.toList ≠ [] := toList_ne h.ne_empty
  have hcurrent : name.toList ≠ ['.'] := toList_ne h.ne_current
  rw [components, split_of_notMem h.no_slash]
  simp [hempty, hcurrent, componentOf?_name h]

/-! ### Entries of a directory -/

theorem split_slash (text : String) :
    split '/' (text ++ "/").toList = split '/' text.toList ++ [[]] := by
  rw [String.toList_append]
  exact split_append_sep text.toList []

/-- A slash at the end of a path stands for nothing, unless it is the whole path. -/
theorem components_slash {text : String} (h : text ≠ "") :
    components ⟨text ++ "/"⟩ = components ⟨text⟩ := by
  obtain ⟨first, rest, hpieces⟩ := List.exists_cons_of_ne_nil (split_ne_nil '/' text.toList)
  -- a path that starts with a slash has a second piece, if only an empty one
  have hrest : first = [] → rest ≠ [] := by
    rintro rfl rfl
    have hjoin := join_split '/' text.toList
    rw [hpieces] at hjoin
    exact toList_ne h hjoin.symm
  rw [components, components, split_slash, hpieces]
  have hsilent : ∀ l : List (List Char),
      (l ++ [[]]).filterMap componentOf? = l.filterMap componentOf? := by
    intro l
    rw [List.filterMap_append]
    exact List.append_nil _
  by_cases hfirst : first = []
  · simp [hfirst, hrest hfirst, hsilent]
  · by_cases hcurrent : first = ['.']
    · simp [hcurrent, hsilent]
    · simp only [List.cons_append, hfirst, hcurrent, if_false]
      exact hsilent (first :: rest)

/-- What stands behind a slash adds its own components to those of the text up to the slash. -/
theorem components_append_slash (s t : String) :
    components ⟨s ++ "/" ++ t⟩
      = components ⟨s ++ "/"⟩ ++ (split '/' t.toList).filterMap componentOf? := by
  have hall : split '/' (s ++ "/" ++ t).toList = split '/' s.toList ++ split '/' t.toList := by
    rw [String.toList_append, String.toList_append, List.append_assoc]
    exact split_append_sep s.toList t.toList
  obtain ⟨first, rest, hpieces⟩ := List.exists_cons_of_ne_nil (split_ne_nil '/' s.toList)
  rw [components, components, hall, split_slash, hpieces]
  -- the first piece is read alike in both texts, and the empty piece behind the slash is nothing
  have hbehind : ∀ l : List (List Char), (l ++ split '/' t.toList).filterMap componentOf?
      = (l ++ [[]]).filterMap componentOf? ++ (split '/' t.toList).filterMap componentOf? := by
    intro l
    rw [List.filterMap_append, List.filterMap_append]
    simp [componentOf?]
  by_cases hfirst : first = []
  · simp [hfirst, hbehind, split_ne_nil]
  · by_cases hcurrent : first = ['.']
    · simp [hcurrent, hbehind]
    · simp only [List.cons_append, hfirst, hcurrent, if_false]
      exact hbehind (first :: rest)

/-- A name behind a slash is one component more. -/
theorem components_slash_name {text : String} (h : IsEntryName name) :
    components ⟨text ++ "/" ++ name⟩ = components ⟨text ++ "/"⟩ ++ [.name name] := by
  rw [components_append_slash, split_of_notMem h.no_slash,
    List.filterMap_cons_some (componentOf?_name h)]
  rfl

/-- How a path behind another one is spelled. -/
theorem join_cases (p : Path) {q : Path} (hq : q.isAbsolute = false) :
    (p.text = "" ∧ p.join q = q) ∨
    (∃ text, p.text = text ++ "/" ∧ p.join q = ⟨text ++ "/" ++ q.text⟩) ∨
    (p.text ≠ "" ∧ p.join q = ⟨p.text ++ "/" ++ q.text⟩) := by
  rw [join, if_neg (by simp [hq])]
  by_cases hempty : p.text = ""
  · exact .inl ⟨hempty, by rw [if_pos hempty]⟩
  · rw [if_neg hempty]
    split
    · next hlast =>
      -- the path ends in a slash, which is not doubled
      obtain ⟨before, hbefore⟩ := List.getLast?_eq_some_iff.1 hlast
      have htext : p.text = String.ofList before ++ "/" := by
        apply String.ext
        rw [hbefore, String.toList_append, String.toList_ofList]
        rfl
      exact .inr (.inl ⟨_, htext, by rw [htext]⟩)
    · exact .inr (.inr ⟨hempty, rfl⟩)

/-- How the path of an entry is spelled. -/
theorem child_cases (p : Path) (h : IsEntryName name) :
    (p.text = "" ∧ p.child name = ⟨name⟩) ∨
    (∃ text, p.text = text ++ "/" ∧ p.child name = ⟨text ++ "/" ++ name⟩) ∨
    (p.text ≠ "" ∧ p.child name = ⟨p.text ++ "/" ++ name⟩) := by
  have hrelative : (⟨name⟩ : Path).isAbsolute = false := by
    rw [isAbsolute, components_name h]
    rfl
  exact join_cases p hrelative

/-- The path of an entry has the components of its directory and its name. -/
theorem components_child (p : Path) (h : IsEntryName name) :
    (p.child name).components = p.components ++ [.name name] := by
  obtain ⟨text⟩ := p
  rcases child_cases ⟨text⟩ h with ⟨htext, hchild⟩ | ⟨front, htext, hchild⟩ | ⟨htext, hchild⟩
  · obtain rfl : text = "" := htext
    rw [hchild, components_name h]
    rfl
  · obtain rfl : text = front ++ "/" := htext
    rw [hchild, components_slash_name h]
  · rw [hchild, components_slash_name h, components_slash htext]

theorem fileName?_child (p : Path) (h : IsEntryName name) : (p.child name).fileName? = some name := by
  rw [fileName?, components_child p h, List.getLast?_concat]

/-- The path of an entry is not shorter than that of its directory. -/
theorem size_le_child (p : Path) (h : IsEntryName name) :
    p.text.utf8ByteSize ≤ (p.child name).text.utf8ByteSize := by
  rcases child_cases p h with ⟨htext, hchild⟩ | ⟨front, htext, hchild⟩ | ⟨-, hchild⟩
  · rw [hchild, htext]
    exact Nat.zero_le _
  · rw [hchild, htext]
    simp only [String.utf8ByteSize_append]
    omega
  · rw [hchild]
    simp only [String.utf8ByteSize_append]
    omega

/-! ### Paths further below -/

/-- The path that leads on from a directory by some names. -/
def below (p : Path) (names : List String) : Path :=
  names.foldl child p

@[simp] theorem below_nil (p : Path) : p.below [] = p := rfl

@[simp] theorem below_cons (p : Path) (name : String) (names : List String) :
    p.below (name :: names) = (p.child name).below names := rfl

theorem components_below {names : List String} (p : Path) (h : ∀ name ∈ names, IsEntryName name) :
    (p.below names).components = p.components ++ names.map .name := by
  induction names generalizing p with
  | nil => simp
  | cons name r ih =>
    have hname : IsEntryName name := h name List.mem_cons_self
    have hr : ∀ n ∈ r, IsEntryName n := fun n hn => h n (List.mem_cons_of_mem _ hn)
    rw [below_cons, ih (p.child name) hr, components_child p hname, List.map_cons, List.append_assoc]
    rfl

theorem size_le_below {names : List String} (p : Path) (h : ∀ name ∈ names, IsEntryName name) :
    p.text.utf8ByteSize ≤ (p.below names).text.utf8ByteSize := by
  induction names generalizing p with
  | nil => exact Nat.le_refl _
  | cons name r ih =>
    have hr : ∀ n ∈ r, IsEntryName n := fun n hn => h n (List.mem_cons_of_mem _ hn)
    calc p.text.utf8ByteSize
        ≤ (p.child name).text.utf8ByteSize := size_le_child p (h name List.mem_cons_self)
      _ ≤ ((p.child name).below r).text.utf8ByteSize := ih (p.child name) hr

/-- Different names lead to different paths. -/
theorem eq_of_compare_below {p : Path} {names others : List String}
    (h : ∀ name ∈ names, IsEntryName name) (h' : ∀ name ∈ others, IsEntryName name)
    (heq : compare (p.below names) (p.below others) = .eq) : names = others := by
  rw [compare_eq_iff_components, components_below p h, components_below p h'] at heq
  have hmap : names.map Component.name = others.map Component.name := List.append_cancel_left heq
  apply List.map_injective_iff.2 _ hmap
  intro a b hab
  exact Component.name.inj hab

end Path

end ImportCensus
