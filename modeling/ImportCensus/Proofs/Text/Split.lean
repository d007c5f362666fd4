/-
ImportCensus/Proofs/Text/Split.lean

Characters of texts that are cut and joined: only separators come in (`mem_of_mem_join_sublist`).
-/
import ImportCensus.Text.Split

namespace ImportCensus

namespace Text

variable {sep c : Char} {s piece : List Char} {pieces : List (List Char)}

theorem mem_of_mem_join (h : c ∈ join sep pieces) : c = sep ∨ ∃ piece ∈ pieces, c ∈ piece := by
  induction pieces with
  | nil => cases h
  | cons piece r ih =>
    cases r with
    | nil => exact .inr ⟨piece, List.mem_singleton_self piece, h⟩
    | cons next r =>
      have hsplit : c ∈ piece ∨ c = sep ∨ c ∈ join sep (next :: r) := by
        simpa [join] using h
      rcases hsplit with h | h | h
      · exact .inr ⟨piece, List.mem_cons_self, h⟩
      · exact .inl h
      · rcases ih h with h | ⟨p, hp, hc⟩
        · exact .inl h
        · exact .inr ⟨p, List.mem_cons_of_mem _ hp, hc⟩

theorem mem_of_mem_split (hpiece : piece ∈ split sep s) (h : c ∈ piece) : c ∈ s := by
  induction s generalizing piece with
  | nil =>
    rw [split, List.mem_singleton] at hpiece
    subst hpiece
    cases h
  | cons d r ih =>
    obtain ⟨first, rest, hr⟩ := List.exists_cons_of_ne_nil (split_ne_nil sep r)
    have hcut : piece = [] ∨ piece = d :: first ∨ piece ∈ split sep r := by
      rw [split, hr] at hpiece
      rw [hr]
      grind
    rcases hcut with rfl | rfl | hpiece
    · cases h
    · exact (List.mem_cons.1 h).elim (fun h => h ▸ List.mem_cons_self)
        fun h => List.mem_cons_of_mem d (ih (hr ▸ List.mem_cons_self) h)
    · exact List.mem_cons_of_mem d (ih hpiece h)

/-- Only separators come in when some pieces of a text are joined. -/
theorem mem_of_mem_join_sublist (hpieces : pieces.Sublist (split sep s)) (h : c ∈ join sep pieces) :
    c = sep ∨ c ∈ s :=
  (mem_of_mem_join h).imp_right fun ⟨_, hpiece, hc⟩ => mem_of_mem_split (hpieces.subset hpiece) hc

end Text

end ImportCensus
