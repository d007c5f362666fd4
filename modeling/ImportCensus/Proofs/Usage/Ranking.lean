/-
ImportCensus/Proofs/Usage/Ranking.lean

The ranking of an index.

Entries are sorted by their counts, and names are not looked at.  That entries with the same count stand in
the order of their names comes from two other facts: the index lists all its entries in that order, and the
sort is stable (`filter_rank`).  Together they decide between any two entries (`RanksBefore`), so an index has
one ranking only.  The order in which files were added to an index shows in its lists of files, and nowhere in
the ranking.

Main statements: the ranking of an index is the one list of its entries that is in order (`eq_rank_iff`), and
files in another order make the same ranking (`ranking_of_index`).
-/
import ImportCensus.Proofs.Datum.Place
import ImportCensus.Proofs.Usage

namespace ImportCensus

/-- Does an entry rank before another one: by a larger count, or, the counts being equal, by a name whose
bytes come first? -/
def RanksBefore (a b : PackageName × PackageUsage) : Prop :=
  b.2.count < a.2.count ∨ a.2.count = b.2.count ∧ BytesLt a.1.text b.1.text

variable {index : UsageIndex} {a b c : PackageName × PackageUsage}

/-! ### The order of a ranking -/

/-- The order of the entries of an index is that of the bytes of their names. -/
theorem keyLt_iff_bytesLt : KeyLt a b ↔ BytesLt a.1.text b.1.text :=
  compare_eq_lt_iff_bytesLt

theorem RanksBefore.trans (hab : RanksBefore a b) (hbc : RanksBefore b c) : RanksBefore a c := by
  rcases hab with hab | ⟨hcount, hab⟩
  · rcases hbc with hbc | ⟨hcount', -⟩
    · exact .inl (Nat.lt_trans hbc hab)
    · exact .inl (hcount' ▸ hab)
  · rcases hbc with hbc | ⟨hcount', hbc⟩
    · exact .inl (hcount ▸ hbc)
    · refine .inr ⟨hcount.trans hcount', ?_⟩
      rw [← keyLt_iff_bytesLt] at hab hbc ⊢
      exact Std.TransCmp.lt_trans hab hbc

theorem RanksBefore.asymm (hab : RanksBefore a b) : ¬RanksBefore b a := by
  rintro (hba | ⟨hcount, hba⟩)
  · rcases hab with hab | ⟨hcount, -⟩ <;> omega
  · rcases hab with hab | ⟨-, hab⟩
    · omega
    · rw [← keyLt_iff_bytesLt, KeyLt] at hab hba
      rw [Std.OrientedCmp.gt_of_lt hab] at hba
      cases hba

instance : Trans RanksBefore RanksBefore RanksBefore :=
  ⟨RanksBefore.trans⟩

/-! ### The ranking is in order -/

theorem count_trans (a b c : PackageName × PackageUsage) (hab : decide (b.2.count ≤ a.2.count) = true)
    (hbc : decide (c.2.count ≤ b.2.count) = true) : decide (c.2.count ≤ a.2.count) = true := by
  rw [decide_eq_true_iff] at hab hbc ⊢
  exact Nat.le_trans hbc hab

theorem count_total (a b : PackageName × PackageUsage) :
    (decide (b.2.count ≤ a.2.count) || decide (a.2.count ≤ b.2.count)) = true := by
  rw [Bool.or_eq_true, decide_eq_true_iff, decide_eq_true_iff]
  exact Nat.le_total b.2.count a.2.count

/-- Counts do not increase in a ranking. -/
theorem descending_rank (index : UsageIndex) :
    (rank index).Pairwise fun a b => b.2.count ≤ a.2.count :=
  (List.pairwise_mergeSort count_trans count_total index.entries).imp of_decide_eq_true

/-- **Entries with the same count stand as they stand in the index.** -/
theorem filter_rank (index : UsageIndex) (count : Nat) :
    (rank index).filter (·.2.count = count) = index.entries.filter (·.2.count = count) := by
  have hequal : (index.entries.filter (·.2.count = count)).Pairwise fun a b =>
      decide (b.2.count ≤ a.2.count) = true := by
    apply List.pairwise_of_forall_mem_list
    intro a ha b hb
    have hcount := of_decide_eq_true (List.mem_filter.1 ha).2
    have hcount' := of_decide_eq_true (List.mem_filter.1 hb).2
    exact decide_eq_true (by omega)
  -- the sort is stable, so they are a part of the ranking in the order that they have
  have hstable : (index.entries.filter (·.2.count = count)).Sublist (rank index) :=
    List.sublist_mergeSort count_trans count_total hequal List.filter_sublist
  have hpart := hstable.filter (·.2.count = count)
  rw [List.filter_filter] at hpart
  simp only [Bool.and_self] at hpart
  exact (hpart.eq_of_length ((rank_perm index).filter _).length_eq.symm).symm

/-- Of any two entries, the one that stands first in a ranking ranks before the other one. -/
theorem pairwise_rank (index : UsageIndex) : (rank index).Pairwise RanksBefore := by
  rw [List.pairwise_iff_forall_sublist]
  intro a b hab
  have hle : b.2.count ≤ a.2.count := List.pairwise_iff_forall_sublist.1 (descending_rank index) hab
  rcases Nat.lt_or_eq_of_le hle with hlt | heq
  · exact .inl hlt
  · have hequal := hab.filter (·.2.count = a.2.count)
    rw [filter_rank] at hequal
    simp only [List.filter_cons, heq, decide_true, if_true, List.filter_nil] at hequal
    have hkeys : KeyLt a b :=
      List.pairwise_iff_forall_sublist.1 index.sorted (hequal.trans List.filter_sublist)
    exact .inr ⟨heq.symm, keyLt_iff_bytesLt.1 hkeys⟩

/-- **An index has one ranking**: the list of its entries, each of them once, in which of two consecutive
entries the first one ranks before the second one. -/
theorem eq_rank_iff {ranked : List (PackageName × PackageUsage)} :
    ranked = rank index ↔
      ranked.Nodup ∧ (∀ e, e ∈ ranked ↔ e ∈ index.entries) ∧ ranked.IsChain RanksBefore := by
  have hnodup : (rank index).Nodup := .of_map _ (nodup_rank index)
  constructor
  · rintro rfl
    exact ⟨hnodup, fun e => (rank_perm index).mem_iff, (pairwise_rank index).isChain⟩
  · rintro ⟨honce, hmem, hchain⟩
    have hperm : ranked.Perm (rank index) :=
      (List.perm_ext_iff_of_nodup honce hnodup).2 fun e => (hmem e).trans (rank_perm index).mem_iff.symm
    apply hperm.eq_of_pairwise _ (List.isChain_iff_pairwise.1 hchain) (pairwise_rank index)
    exact fun a b _ _ hab hba => absurd hba hab.asymm

/-! ### Files in another order -/

variable {files files' : List (Path × PackageSet)}

/-- The files that use a package are the same, whatever the order of the files. -/
theorem filesUsing_perm (h : files.Perm files') (n : PackageName) :
    (filesUsing n files).Perm (filesUsing n files') :=
  (h.filter _).map _

/-- The ranking of files in another order has other lists of files, and is the same for the rest. -/
theorem rank_aggregate_of_perm (h : files.Perm files') :
    rank (aggregate files')
      = (rank (aggregate files)).map fun e => (e.1, ⟨e.2.count, filesUsing e.1 files'⟩) := by
  symm
  rw [eq_rank_iff]
  refine ⟨?_, ?_, ?_⟩
  · apply List.Nodup.of_map (·.1)
    rw [List.map_map]
    exact nodup_rank (aggregate files)
  · rintro ⟨n, u⟩
    have hlength := (filesUsing_perm h n).length_eq
    have hne : filesUsing n files ≠ [] ↔ filesUsing n files' ≠ [] := by
      rw [← List.length_pos_iff, hlength, List.length_pos_iff]
    rw [List.mem_map, mem_aggregate_iff, ← hne]
    constructor
    · rintro ⟨⟨m, v⟩, hmem, heq⟩
      cases heq
      obtain ⟨hsome, rfl⟩ := mem_aggregate_iff.1 ((rank_perm _).mem_iff.1 hmem)
      exact ⟨hsome, by rw [hlength]⟩
    · rintro ⟨hsome, rfl⟩
      refine ⟨(n, ⟨(filesUsing n files).length, filesUsing n files⟩), ?_, by rw [hlength]⟩
      exact (rank_perm _).mem_iff.2 (mem_aggregate_iff.2 ⟨hsome, rfl⟩)
  · -- the order looks at names and counts only, and these are as they were
    have hordered : ((rank (aggregate files)).map fun e =>
        (e.1, (⟨e.2.count, filesUsing e.1 files'⟩ : PackageUsage))).Pairwise RanksBefore :=
      List.pairwise_map.2 (pairwise_rank (aggregate files))
    exact hordered.isChain

/-- **An index has one ranking, which does not depend on the order of the files.**  Whatever the counts of an
index are, its ranking is the one list that holds just its entries, none of them twice, and in which of any two
consecutive entries the first one has the larger count, or the same count and the name whose bytes come first.
If sets of packages are given for files in two orders, the rankings of both indexes list the same names and
counts, and each package with the same files in some order. -/
theorem ranking_of_index :
    (∀ (index : UsageIndex) (ranked : List (PackageName × PackageUsage)),
      ranked = rank index ↔
        ranked.Nodup ∧ (∀ e, e ∈ ranked ↔ e ∈ index.entries) ∧
        ranked.IsChain fun a b =>
          b.2.count < a.2.count ∨ a.2.count = b.2.count ∧ BytesLt a.1.text b.1.text) ∧
    ∀ files files' : List (Path × PackageSet), files.Perm files' →
      ((rank (aggregate files)).map fun e => (e.1, e.2.count))
          = ((rank (aggregate files')).map fun e => (e.1, e.2.count)) ∧
        ∀ n u u', (n, u) ∈ rank (aggregate files) → (n, u') ∈ rank (aggregate files') →
          u.files.Perm u'.files := by
  refine ⟨fun index ranked => eq_rank_iff, fun files files' h => ⟨?_, ?_⟩⟩
  · rw [rank_aggregate_of_perm h, List.map_map]
    rfl
  · intro n u u' hu hu'
    obtain ⟨-, rfl⟩ := mem_aggregate_iff.1 ((rank_perm _).mem_iff.1 hu)
    obtain ⟨-, rfl⟩ := mem_aggregate_iff.1 ((rank_perm _).mem_iff.1 hu')
    exact filesUsing_perm h n

/-- Two files rank their packages alike in either order: the one that both use comes first. -/
theorem ranking_of_swapped_files :
    let a : PackageName := ⟨"a", by decide⟩
    let b : PackageName := ⟨"b", by decide⟩
    let one : Path × PackageSet := (⟨"/p/z.ts"⟩, .ofList [b, a])
    let other : Path × PackageSet := (⟨"/p/a.ts"⟩, .ofList [b])
    [one, other].Perm [other, one] ∧
      ((rank (aggregate [other, one])).map fun e => (e.1, e.2.count)) = [(b, 2), (a, 1)] ∧
      ((rank (aggregate [one, other])).map fun e => (e.1, e.2.count)) = [(b, 2), (a, 1)] := by
  intro a b one other
  have hperm : [one, other].Perm [other, one] := .swap _ _ _
  have hentries : (aggregate [other, one]).entries
      = [(a, ⟨1, [⟨"/p/z.ts"⟩]⟩), (b, ⟨2, [⟨"/p/a.ts"⟩, ⟨"/p/z.ts"⟩]⟩)] := by decide
  have hranked : [(b, ⟨2, [⟨"/p/a.ts"⟩, ⟨"/p/z.ts"⟩]⟩), (a, ⟨1, [⟨"/p/z.ts"⟩]⟩)]
      = rank (aggregate [other, one]) := by
    rw [ranking_of_index.1, hentries]
    exact ⟨by decide, fun e => (List.Perm.swap _ _ _).mem_iff, .cons_cons (.inl (by decide)) (.singleton _)⟩
  have hcounts : ((rank (aggregate [other, one])).map fun e => (e.1, e.2.count)) = [(b, 2), (a, 1)] := by
    rw [← hranked]
    rfl
  exact ⟨hperm, hcounts, (ranking_of_index.2 _ _ hperm).1.trans hcounts⟩

end ImportCensus
