/-
ImportCensus/Order/SortedMap.lean

Finite maps whose entries stand in ascending order of their keys.  Keys are compared with `compare`, and
two keys that compare as equal are one key even if they are spelled differently: the first spelling
that was inserted stays, and the last value that was inserted counts.

Main statements: the order is part of the type, so `insert` (`sorted_insertEntry`), `erase` and
`ofList` keep it without a premise.
-/

namespace ImportCensus

/-- Do two entries stand in strictly ascending order of their keys? -/
def KeyLt {κ α : Type} [Ord κ] (a b : κ × α) : Prop :=
  compare a.1 b.1 = .lt

/-- A map from `κ` to `α`, listed in strictly ascending order of the keys. -/
structure SortedMap (κ α : Type) [Ord κ] where
  /-- The entries, smallest key first. -/
  entries : List (κ × α)
  /-- No key is repeated and no two entries are out of order. -/
  sorted : entries.Pairwise KeyLt

namespace SortedMap

variable {κ α β : Type} [Ord κ]

/-- The map without entries. -/
def empty : SortedMap κ α :=
  ⟨[], .nil⟩

/-- The keys, smallest first. -/
def keys (m : SortedMap κ α) : List κ :=
  m.entries.map (·.1)

/-- The values, in the order of their keys. -/
def values (m : SortedMap κ α) : List α :=
  m.entries.map (·.2)

/-- The number of entries. -/
def size (m : SortedMap κ α) : Nat :=
  m.entries.length

/-- Does the map have no entry? -/
def isEmpty (m : SortedMap κ α) : Bool :=
  m.entries.isEmpty

/-- The value at a key. -/
def get? (m : SortedMap κ α) (k : κ) : Option α :=
  (m.entries.find? fun e => compare k e.1 == .eq).map (·.2)

/-! ### Insertion -/

/-- Puts an entry in its place.  An entry with an equal key keeps its key and takes the new value. -/
def insertEntry (k : κ) (v : α) : List (κ × α) → List (κ × α)
  | [] => [(k, v)]
  | e :: r =>
    match compare k e.1 with
    | .lt => (k, v) :: e :: r
    | .eq => (e.1, v) :: r
    | .gt => e :: insertEntry k v r

theorem key_mem_insertEntry {k : κ} {v : α} {l : List (κ × α)} {e : κ × α}
    (h : e ∈ insertEntry k v l) : e.1 = k ∨ ∃ e' ∈ l, e'.1 = e.1 := by
  induction l with
  | nil => simp_all [insertEntry]
  | cons a r ih =>
    simp only [insertEntry] at h
    split at h
    · rcases List.mem_cons.1 h with rfl | h
      · exact .inl rfl
      · exact .inr ⟨e, h, rfl⟩
    · rcases List.mem_cons.1 h with rfl | h
      · exact .inr ⟨a, by simp, rfl⟩
      · exact .inr ⟨e, by simp [h], rfl⟩
    · rcases List.mem_cons.1 h with rfl | h
      · exact .inr ⟨e, by simp, rfl⟩
      · rcases ih h with h | ⟨e', he', h⟩
        · exact .inl h
        · exact .inr ⟨e', by simp [he'], h⟩

theorem sorted_insertEntry [Std.TransOrd κ] {k : κ} {v : α} {l : List (κ × α)}
    (h : l.Pairwise KeyLt) : (insertEntry k v l).Pairwise KeyLt := by
  induction l with
  | nil => simp [insertEntry]
  | cons a r ih =>
    have ⟨ha, hr⟩ := List.pairwise_cons.1 h
    simp only [insertEntry]
    split
    · next hk =>
      refine List.pairwise_cons.2 ⟨fun e he => ?_, h⟩
      rcases List.mem_cons.1 he with rfl | he
      · exact hk
      · exact Std.TransCmp.lt_trans hk (ha e he)
    · exact List.pairwise_cons.2 ⟨ha, hr⟩
    · next hk =>
      refine List.pairwise_cons.2 ⟨fun e he => ?_, ih hr⟩
      rcases key_mem_insertEntry he with h' | ⟨e', he', h'⟩
      · show compare a.1 e.1 = .lt
        rw [h']
        exact Std.OrientedCmp.lt_of_gt hk
      · show compare a.1 e.1 = .lt
        rw [← h']
        exact ha e' he'

/-- The map with one more entry. -/
def insert [Std.TransOrd κ] (m : SortedMap κ α) (k : κ) (v : α) : SortedMap κ α :=
  ⟨insertEntry k v m.entries, sorted_insertEntry m.sorted⟩

/-- The map that a list of entries builds, inserted from left to right. -/
def ofList [Std.TransOrd κ] (l : List (κ × α)) : SortedMap κ α :=
  l.foldl (fun m e => m.insert e.1 e.2) empty

/-- The first map with the entries of the second one inserted. -/
def union [Std.TransOrd κ] (m other : SortedMap κ α) : SortedMap κ α :=
  other.entries.foldl (fun m e => m.insert e.1 e.2) m

/-- The map with the value at `k`, or `zero` where there is none, changed by `f`. -/
def update [Std.TransOrd κ] (m : SortedMap κ α) (k : κ) (zero : α) (f : α → α) : SortedMap κ α :=
  m.insert k (f ((m.get? k).getD zero))

/-! ### Removal and mapping -/

/-- The map without its entry at `k`. -/
def erase (m : SortedMap κ α) (k : κ) : SortedMap κ α :=
  ⟨m.entries.filter fun e => compare k e.1 != .eq, m.sorted.filter _⟩

/-- The map whose values are changed by `f`, which may look at the key. -/
def mapValues (m : SortedMap κ α) (f : κ → α → β) : SortedMap κ β :=
  ⟨m.entries.map fun e => (e.1, f e.1 e.2), by
    rw [List.pairwise_map]
    exact m.sorted.imp fun h => h⟩

end SortedMap

end ImportCensus
