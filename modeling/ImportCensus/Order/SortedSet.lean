/-
ImportCensus/Order/SortedSet.lean

Finite sets whose members stand in ascending order.

Main statements: the order is part of the type (`sorted_insertMember`), and membership in an inserted
set is membership in the old one or equality with the new member (`mem_insertMember`).
-/

namespace ImportCensus

/-- A set of `κ`, listed in strictly ascending order. -/
structure SortedSet (κ : Type) [Ord κ] where
  /-- The members, smallest first. -/
  toList : List κ
  /-- No member is repeated and no two are out of order. -/
  sorted : toList.Pairwise (fun a b => compare a b = .lt)

namespace SortedSet

variable {κ : Type} [Ord κ]

/-- The set without members. -/
def empty : SortedSet κ :=
  ⟨[], .nil⟩

/-- The number of members. -/
def size (s : SortedSet κ) : Nat :=
  s.toList.length

/-- Does the set have no member? -/
def isEmpty (s : SortedSet κ) : Bool :=
  s.toList.isEmpty

/-- Is `k` a member? -/
def contains (s : SortedSet κ) (k : κ) : Bool :=
  s.toList.any fun k' => compare k k' == .eq

/-- Puts a member in its place; a member that is there already stays. -/
def insertMember (k : κ) : List κ → List κ
  | [] => [k]
  | a :: r =>
    match compare k a with
    | .lt => k :: a :: r
    | .eq => a :: r
    | .gt => a :: insertMember k r

theorem mem_of_mem_insertMember {k x : κ} {l : List κ} (h : x ∈ insertMember k l) :
    x = k ∨ x ∈ l := by
  induction l with
  | nil => simp_all [insertMember]
  | cons a r ih =>
    simp only [insertMember] at h
    split at h
    · simpa using h
    · exact .inr h
    · rcases List.mem_cons.1 h with rfl | h
      · exact .inr (by simp)
      · rcases ih h with h | h
        · exact .inl h
        · exact .inr (by simp [h])

theorem mem_insertMember [Std.LawfulEqOrd κ] {k x : κ} {l : List κ} :
    x ∈ insertMember k l ↔ x = k ∨ x ∈ l := by
  refine ⟨mem_of_mem_insertMember, fun h => ?_⟩
  induction l with
  | nil => simp_all [insertMember]
  | cons a r ih =>
    simp only [insertMember]
    split
    · simpa using h
    · next hk =>
      rcases h with rfl | h
      · simp [Std.LawfulEqOrd.eq_of_compare hk]
      · exact h
    · rcases h with rfl | h
      · exact List.mem_cons_of_mem _ (ih (.inl rfl))
      · rcases List.mem_cons.1 h with rfl | h
        · simp
        · exact List.mem_cons_of_mem _ (ih (.inr h))

theorem sorted_insertMember [Std.TransOrd κ] {k : κ} {l : List κ}
    (h : l.Pairwise (fun a b => compare a b = .lt)) :
    (insertMember k l).Pairwise (fun a b => compare a b = .lt) := by
  induction l with
  | nil => simp [insertMember]
  | cons a r ih =>
    have ⟨ha, hr⟩ := List.pairwise_cons.1 h
    simp only [insertMember]
    split
    · next hk =>
      refine List.pairwise_cons.2 ⟨fun x hx => ?_, h⟩
      rcases List.mem_cons.1 hx with rfl | hx
      · exact hk
      · exact Std.TransCmp.lt_trans hk (ha x hx)
    · exact h
    · next hk =>
      refine List.pairwise_cons.2 ⟨fun x hx => ?_, ih hr⟩
      rcases mem_of_mem_insertMember hx with rfl | hx
      · exact Std.OrientedCmp.lt_of_gt hk
      · exact ha x hx

/-- The set with one more member. -/
def insert [Std.TransOrd κ] (s : SortedSet κ) (k : κ) : SortedSet κ :=
  ⟨insertMember k s.toList, sorted_insertMember s.sorted⟩

/-- The set of the members of a list. -/
def ofList [Std.TransOrd κ] (l : List κ) : SortedSet κ :=
  l.foldl insert empty

end SortedSet

end ImportCensus
