/-
ImportCensus/Proofs/Path/Order.lean

The order of paths, said without the comparison.

Of two paths the one stands first whose components end first, or whose component is smaller where the two
differ for the first time.  Components are ordered by their kinds, and names by their bytes.  As a slash is
no character of a name, a directory and all that is in it stand before a sibling whose name merely goes on;
among texts it is often the other way round, because some characters are smaller than a slash.

Main statements: the comparison is this order (`compare_eq_lt_iff_precedes`), a path stands before those that
are below it (`precedes_of_prefix`), and what is in a directory before such a sibling
(`precedes_of_sibling`).
-/
import ImportCensus.Proofs.Datum.Place
import ImportCensus.Proofs.Path

namespace ImportCensus

/-- A list stands before those that go on behind it. -/
theorem lex_append {α : Type} (r : α → α → Prop) (l : List α) {behind : List α} (h : behind ≠ []) :
    List.Lex r l (l ++ behind) := by
  obtain ⟨a, rest, rfl⟩ := List.exists_cons_of_ne_nil h
  have hlex : List.Lex r (l ++ []) (l ++ a :: rest) := .append_left r .nil l
  rwa [List.append_nil] at hlex

namespace Component

variable {a b : Component} {cs ds : List Component} {t : String}

/-- Does a component stand before another one, by its kind or by the bytes of its name? -/
inductive Precedes : Component → Component → Prop
  | kind {a b : Component} (h : a.rank < b.rank) : Precedes a b
  | name {s t : String} (h : BytesLt s t) : Precedes (.name s) (.name t)

theorem compare_eq (a b : Component) :
    compare a b = (compare a.rank b.rank).then (compare a.label b.label) := rfl

theorem compare_eq_lt_iff_precedes : compare a b = .lt ↔ a.Precedes b := by
  rw [compare_eq, Ordering.then_eq_lt, Nat.compare_eq_lt, Nat.compare_eq_eq, compare_eq_lt_iff_bytesLt]
  constructor
  · rintro (hrank | ⟨hrank, hlabel⟩)
    · exact .kind hrank
    · -- two components of one kind differ only if they are names
      cases b with
      | name t =>
        cases a with
        | name s => exact .name hlabel
        | _ => cases hrank
      | _ => exact absurd hlabel (List.not_lt_nil _)
  · rintro (hrank | hbytes)
    · exact .inl hrank
    · exact .inr ⟨rfl, hbytes⟩

/-- Components are compared one after the other. -/
theorem compare_list_eq_lt_iff : compare cs ds = .lt ↔ List.Lex Precedes cs ds := by
  induction cs generalizing ds with
  | nil =>
    cases ds with
    | nil => exact iff_of_false nofun nofun
    | cons d ds => exact iff_of_true rfl .nil
  | cons c cs ih =>
    cases ds with
    | nil => exact iff_of_false nofun nofun
    | cons d ds =>
      show List.compareLex compare (c :: cs) (d :: ds) = .lt ↔ _
      rw [List.compareLex_cons_cons, Ordering.then_eq_lt, compare_eq_lt_iff_precedes,
        Std.LawfulEqOrd.compare_eq_iff_eq]
      constructor
      · rintro (h | ⟨rfl, h⟩)
        · exact .rel h
        · exact .cons (ih.1 h)
      · rintro (_ | h | h)
        · exact .inl h
        · exact .inr ⟨rfl, ih.2 h⟩

/-- A name stands before those that go on behind it. -/
theorem precedes_append (s : String) (h : t ≠ "") : Precedes (.name s) (.name (s ++ t)) := by
  apply Precedes.name
  rw [BytesLt, String.toList_append, Text.encode_lt_encode_iff]
  exact lex_append _ _ (Path.toList_ne h)

end Component

namespace Path

variable {p q r : Path}

/-- Does a path stand before another one? -/
def Precedes (p q : Path) : Prop :=
  List.Lex Component.Precedes p.components q.components

theorem compare_eq_lt_iff_precedes : compare p q = .lt ↔ p.Precedes q :=
  Component.compare_list_eq_lt_iff

theorem compare_eq_gt_iff_precedes : compare p q = .gt ↔ q.Precedes p := by
  rw [← compare_eq_lt_iff_precedes]
  exact Std.OrientedCmp.gt_iff_lt

theorem Precedes.trans (hpq : p.Precedes q) (hqr : q.Precedes r) : p.Precedes r := by
  rw [← compare_eq_lt_iff_precedes] at hpq hqr ⊢
  exact Std.TransCmp.lt_trans hpq hqr

/-- A path stands before the paths below it. -/
theorem precedes_of_prefix (h : p.components <+: q.components) (hne : p.components ≠ q.components) :
    p.Precedes q := by
  obtain ⟨behind, hbehind⟩ := h
  have hgoes : behind ≠ [] := by
    rintro rfl
    exact hne (by simpa using hbehind)
  rw [Precedes, ← hbehind]
  exact lex_append _ _ hgoes

/-- A directory and what is in it stand before a sibling whose name goes on, and before what is in that. -/
theorem precedes_of_sibling {dir inside beside : List Component} {s t : String} (ht : t ≠ "")
    (hp : p.components = dir ++ .name s :: inside)
    (hq : q.components = dir ++ .name (s ++ t) :: beside) : p.Precedes q := by
  have hnames : Component.Precedes (.name s) (.name (s ++ t)) := Component.precedes_append s ht
  rw [Precedes, hp, hq]
  exact .append_left _ (.rel hnames) dir

end Path

end ImportCensus
