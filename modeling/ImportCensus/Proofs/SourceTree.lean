/-
ImportCensus/Proofs/SourceTree.lean

Entries of a tree under their addresses.

An entry is addressed by the positions that lead to it from the top.  In the order of words, in which an
address stands before its extensions, the addresses are those of a walk that visits each directory before
what is in it, and that from front to back.  This gives the order of the entries of a tree without a walk.

Main statements: the entries of a tree are listed in this order, each with the length of its address
(`inPreorder_nodes`, `entriesFrom_eq_map_nodes`).
-/
import ImportCensus.SourceTree
import Mathlib.Data.List.Lex

namespace ImportCensus.SourceTree

/-- The positions that lead to an entry from the top. -/
abbrev Address : Type :=
  List ℕ

/-- The entry at an address. -/
def at? : Address → SourceTree → Option SourceTree
  | [], t => some t
  | i :: a, t => t.children[i]?.bind (at? a)

/-- Are these all entries of a tree with their addresses, each before what is in it and before what stands
behind it? -/
structure InPreorder (t : SourceTree) (nodes : List (Address × SourceTree)) : Prop where
  ordered : (nodes.map (·.1)).Pairwise (· < ·)
  mem_iff : ∀ x, x ∈ nodes ↔ t.at? x.1 = some x.2

/-- An entry of a directory at the position `i`, seen from the directory. -/
def under (i : ℕ) (x : Address × SourceTree) : Address × SourceTree :=
  (i :: x.1, x.2)

mutual

/-- All entries of a tree with their addresses. -/
def nodes : SourceTree → List (Address × SourceTree)
  | directory name path children =>
    ([], directory name path children) :: nodesOfAll 0 children
  | file name path => [([], file name path)]

/-- All entries of several trees that stand in a directory from a position on. -/
def nodesOfAll (i : ℕ) : List SourceTree → List (Address × SourceTree)
  | [] => []
  | t :: ts => (nodes t).map (under i) ++ nodesOfAll (i + 1) ts

end

mutual

theorem mem_nodes (t : SourceTree) (x : Address × SourceTree) : x ∈ t.nodes ↔ t.at? x.1 = some x.2 := by
  obtain ⟨a, u⟩ := x
  match t with
  | .file name path =>
    rw [nodes, List.mem_singleton, Prod.mk.injEq]
    cases a with
    | nil => simp [at?, eq_comm]
    | cons i a => simp [at?, children]
  | .directory name path children =>
    rw [nodes, List.mem_cons, mem_nodesOfAll 0 children, Prod.mk.injEq]
    cases a with
    | nil => simp [at?, eq_comm]
    | cons i a => simp [at?, SourceTree.children]

/-- The entries of trees from a position on start with that position or a later one. -/
theorem mem_nodesOfAll (i : ℕ) (ts : List SourceTree) (x : Address × SourceTree) : x ∈ nodesOfAll i ts ↔
    ∃ j a, x.1 = (i + j) :: a ∧ ts[j]?.bind (at? a) = some x.2 := by
  match ts with
  | [] => simp [nodesOfAll]
  | t :: ts =>
    rw [nodesOfAll, List.mem_append, List.mem_map, mem_nodesOfAll (i + 1) ts]
    constructor
    · rintro (⟨y, hy, rfl⟩ | ⟨j, a, hx, ha⟩)
      · exact ⟨0, y.1, rfl, (mem_nodes t y).1 hy⟩
      · exact ⟨j + 1, a, by rw [hx]; congr 1; omega, ha⟩
    · rintro ⟨j, a, hx, ha⟩
      cases j with
      | zero => exact .inl ⟨(a, x.2), (mem_nodes t _).2 ha, Prod.ext hx.symm rfl⟩
      | succ j => exact .inr ⟨j, a, by rw [hx]; congr 1; omega, ha⟩

end

mutual

theorem pairwise_nodes (t : SourceTree) : (t.nodes.map (·.1)).Pairwise (· < ·) := by
  match t with
  | .file name path => simp [nodes]
  | .directory name path children =>
    rw [nodes, List.map_cons, List.pairwise_cons]
    refine ⟨fun a ha => ?_, pairwise_nodesOfAll 0 children⟩
    obtain ⟨x, hx, rfl⟩ := List.mem_map.1 ha
    obtain ⟨j, a, hx, -⟩ := (mem_nodesOfAll 0 children x).1 hx
    rw [hx]
    exact List.nil_lt_cons _ _

theorem pairwise_nodesOfAll (i : ℕ) (ts : List SourceTree) :
    ((nodesOfAll i ts).map (·.1)).Pairwise (· < ·) := by
  match ts with
  | [] => exact .nil
  | t :: ts =>
    rw [nodesOfAll, List.map_append, List.pairwise_append]
    refine ⟨?_, pairwise_nodesOfAll (i + 1) ts, ?_⟩
    · rw [List.map_map, List.pairwise_map]
      exact (List.pairwise_map.1 (pairwise_nodes t)).imp fun h => List.cons_lt_cons_iff.2 (.inr ⟨rfl, h⟩)
    · intro a ha b hb
      obtain ⟨x, hx, rfl⟩ := List.mem_map.1 ha
      obtain ⟨y, -, rfl⟩ := List.mem_map.1 hx
      obtain ⟨z, hz, rfl⟩ := List.mem_map.1 hb
      obtain ⟨j, c, hc, -⟩ := (mem_nodesOfAll (i + 1) ts z).1 hz
      rw [hc]
      exact List.cons_lt_cons_iff.2 (.inl (by omega))

end

theorem inPreorder_nodes (t : SourceTree) : InPreorder t t.nodes :=
  ⟨pairwise_nodes t, mem_nodes t⟩

mutual

/-- The entries of a tree are listed in this order, with the lengths of their addresses. -/
theorem entriesFrom_eq_map_nodes (depth : ℕ) (t : SourceTree) :
    t.entriesFrom depth = t.nodes.map fun x => (depth + x.1.length, x.2) := by
  match t with
  | .file name path => rfl
  | .directory name path children =>
    rw [entriesFrom, nodes, List.map_cons, entriesOfAll_eq_map_nodesOfAll depth 0 children]
    rfl

theorem entriesOfAll_eq_map_nodesOfAll (depth i : ℕ) (ts : List SourceTree) :
    entriesOfAll (depth + 1) ts = (nodesOfAll i ts).map fun x => (depth + x.1.length, x.2) := by
  match ts with
  | [] => rfl
  | t :: ts =>
    rw [entriesOfAll, nodesOfAll, List.map_append, List.map_map, entriesFrom_eq_map_nodes (depth + 1) t,
      entriesOfAll_eq_map_nodesOfAll depth (i + 1) ts]
    congr 2
    funext x
    simp [under]
    omega

end

/-- No entry stands above the first one. -/
theorem le_depth_of_mem_entriesFrom (depth : ℕ) (t : SourceTree) : ∀ e ∈ t.entriesFrom depth, depth ≤ e.1 := by
  rw [entriesFrom_eq_map_nodes, List.forall_mem_map]
  exact fun x _ => Nat.le_add_right depth _

/-- The entries of a tree are the same ones wherever their depth is counted from. -/
theorem map_entriesFrom (depth depth' : ℕ) (t : SourceTree) :
    (t.entriesFrom depth).map (·.2) = (t.entriesFrom depth').map (·.2) := by
  rw [entriesFrom_eq_map_nodes, entriesFrom_eq_map_nodes, List.map_map, List.map_map]
  rfl

end ImportCensus.SourceTree
