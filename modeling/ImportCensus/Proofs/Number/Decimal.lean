/-
ImportCensus/Proofs/Number/Decimal.lean

The decimal digits of a number, as the two data formats write it.  The formats read digits in different
ways, but both refuse a number that starts with a zero and goes on, so it matters that no number is
written like that (`head?_toDigits_ne_zero`), and both go on as long as there are digits.
-/
import Mathlib.Data.List.Basic

namespace ImportCensus

/-- No zero leads the digits of a number, unless the number is zero. -/
theorem head?_toDigits_ne_zero {n : ℕ} (h : n ≠ 0) : (Nat.toDigits 10 n).head? ≠ some '0' := by
  induction n using Nat.strongRecOn with
  | ind n ih =>
    by_cases hn : n < 10
    · rw [Nat.toDigits_of_lt_base hn]
      simpa using h
    · have hsmaller := ih (n / 10) (by omega) (by omega)
      rw [Nat.toDigits_of_base_le (by decide) (Nat.le_of_not_lt hn),
        List.head?_append_of_ne_nil _ Nat.toDigits_ne_nil]
      exact hsmaller

/-- The digits of a number, taken apart at the first one. -/
theorem exists_toDigits_eq_cons (n : ℕ) :
    ∃ d ds, Nat.toDigits 10 n = d :: ds ∧ d.isDigit = true ∧ (∀ c ∈ ds, c.isDigit = true) ∧
      (d = '0' → ds = []) := by
  obtain ⟨d, ds, hdigits⟩ := List.exists_cons_of_ne_nil (Nat.toDigits_ne_nil (n := n) (b := 10))
  have hall : ∀ c ∈ d :: ds, c.isDigit = true := by
    intro c hc
    exact Nat.isDigit_of_mem_toDigits (by decide) (by decide) (hdigits ▸ hc)
  refine ⟨d, ds, hdigits, hall d List.mem_cons_self, fun c hc => hall c (List.mem_cons_of_mem d hc), ?_⟩
  rintro rfl
  by_contra hmore
  have hzero : n ≠ 0 := by
    rintro rfl
    exact hmore (List.cons.inj hdigits).2.symm
  exact head?_toDigits_ne_zero hzero (by rw [hdigits]; rfl)

end ImportCensus
