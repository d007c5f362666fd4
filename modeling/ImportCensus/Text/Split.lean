/-
ImportCensus/Text/Split.lean

Cutting a text at every occurrence of a separator, and joining the pieces again.

Main statements: joining undoes cutting (`join_split`), no piece holds the separator
(`sep_notMem_of_mem_split`), and there is at least one piece (`split_ne_nil`).
-/

namespace ImportCensus.Text

/-- The pieces between the separators; a text without a separator is its only piece. -/
def split (sep : Char) : List Char → List (List Char)
  | [] => [[]]
  | c :: r =>
    match split sep r with
    | [] => [[]]
    | piece :: pieces => if c = sep then [] :: piece :: pieces else (c :: piece) :: pieces

/-- The pieces with a separator between each two. -/
def join (sep : Char) : List (List Char) → List Char
  | [] => []
  | [piece] => piece
  | piece :: pieces => piece ++ sep :: join sep pieces

theorem split_ne_nil (sep : Char) (s : List Char) : split sep s ≠ [] := by
  match s with
  | [] => simp [split]
  | c :: r =>
    simp only [split]
    split
    · simp
    · split <;> simp

theorem join_split (sep : Char) (s : List Char) : join sep (split sep s) = s := by
  induction s with
  | nil => rfl
  | cons c r ih =>
    simp only [split]
    split
    · next h => exact absurd h (split_ne_nil sep r)
    · next piece pieces h =>
      rw [h] at ih
      split
      · next hc => subst hc; simp [join, ih]
      · cases pieces with
        | nil => simpa [join] using ih
        | cons p ps => simpa [join] using ih

theorem sep_notMem_of_mem_split {sep : Char} {s piece : List Char} (h : piece ∈ split sep s) :
    sep ∉ piece := by
  induction s generalizing piece with
  | nil => simp_all [split]
  | cons c r ih =>
    simp only [split] at h
    split at h
    · simp_all
    · next p ps hp =>
      rw [hp] at ih
      split at h
      · rcases List.mem_cons.1 h with rfl | h
        · simp
        · exact ih h
      · next hc =>
        rcases List.mem_cons.1 h with rfl | h
        · simp only [List.mem_cons, not_or]
          exact ⟨fun hs => hc hs.symm, ih (by simp)⟩
        · exact ih (by simp [h])

end ImportCensus.Text
