/-
ImportCensus/Proofs/Toml/Scalar.lean

Whole numbers are read back from their decimal digits.

A value without quotes is first taken in as far as its characters go and then tried as one kind of value
after the other.  Digits are tried as a truth value, in vain, and then as a whole number: there is no mark
of another base among them, no underscore, and no zero that leads other digits.

Main statement: `readScalar_toDigits`.
-/
import ImportCensus.Proofs.Number.Decimal
import ImportCensus.Toml.Scalar

namespace ImportCensus.Toml

open Text

variable {ds rest : List Char} {n : Nat}

theorem ne_of_isDigit {c x : Char} (hc : c.isDigit = true) (hx : x.isDigit = false) : c ≠ x := by
  rintro rfl
  rw [hc] at hx
  cases hx

/-! ### Digits -/

theorem digits?_eq (hds : ∀ c ∈ ds, c.isDigit = true) (hne : ds ≠ []) :
    digits? Char.isDigit ds = some ds := by
  induction ds with
  | nil => exact absurd rfl hne
  | cons c ds ih =>
    have hc : c.isDigit = true := hds c List.mem_cons_self
    have hmore : ∀ d ∈ ds, d.isDigit = true := fun d hd => hds d (List.mem_cons_of_mem c hd)
    cases ds with
    | nil => rw [digits?, if_pos hc]
    | cons d ds =>
      have hd : d ≠ '_' := ne_of_isDigit (hmore d List.mem_cons_self) (by decide)
      rw [digits?, if_pos hc, ih hmore (List.cons_ne_nil d ds), Option.map_some]
      · exact List.cons_ne_nil d ds
      · exact fun r hr => hd (List.cons.inj hr).1

theorem foldl_hexValue? (hds : ∀ c ∈ ds, c.isDigit = true) (n : Nat) :
    ds.foldl (fun n c => 10 * n + (hexValue? c).getD 0) n = Nat.ofDigitChars 10 ds n := by
  induction ds generalizing n with
  | nil => rfl
  | cons c ds ih =>
    have hvalue : hexValue? c = some (c.toNat - '0'.toNat) := by
      rw [hexValue?, if_pos (hds c List.mem_cons_self)]
    rw [List.foldl_cons, Nat.ofDigitChars_cons, hvalue, Option.getD_some]
    exact ih (fun d hd => hds d (List.mem_cons_of_mem c hd)) _

theorem isDigit_of_mem_toDigits {c : Char} (hc : c ∈ Nat.toDigits 10 n) : c.isDigit = true :=
  Nat.isDigit_of_mem_toDigits (by decide) (by decide) hc

theorem valueOf_toDigits (n : Nat) : valueOf 10 (Nat.toDigits 10 n) = n := by
  rw [valueOf, foldl_hexValue? fun _ => isDigit_of_mem_toDigits]
  exact Nat.ofDigitChars_ten_toDigits

theorem wholeDigits?_toDigits (n : Nat) :
    wholeDigits? (Nat.toDigits 10 n) = some (Nat.toDigits 10 n) := by
  obtain ⟨d, ds, hdigits, -, -, hzero⟩ := exists_toDigits_eq_cons n
  rw [wholeDigits?, digits?_eq (fun _ => isDigit_of_mem_toDigits) Nat.toDigits_ne_nil, hdigits,
    Option.filter_some, if_pos]
  by_cases hd : d = '0'
  · simp [hzero hd]
  · simp [hd]

theorem integer?_toDigits (n : Nat) : integer? (Nat.toDigits 10 n) = some (n : Int) := by
  obtain ⟨d, ds, hdigits, hd, hds, -⟩ := exists_toDigits_eq_cons n
  have hsign : splitSign (Nat.toDigits 10 n) = (false, Nat.toDigits 10 n) := by
    rw [hdigits, splitSign]
    · exact fun r hr => ne_of_isDigit hd (by decide) (List.cons.inj hr).1
    · exact fun r hr => ne_of_isDigit hd (by decide) (List.cons.inj hr).1
  have hbase : ∀ x : Char, x.isDigit = false → ∀ r, Nat.toDigits 10 n ≠ '0' :: x :: r := by
    intro x hx r hr
    have hmem : x ∈ Nat.toDigits 10 n := by simp [hr]
    rw [isDigit_of_mem_toDigits hmem] at hx
    cases hx
  rw [integer?]
  · rw [hsign]
    simp only [wholeDigits?_toDigits, Option.map_some, valueOf_toDigits]
    rfl
  · exact hbase 'x' (by decide)
  · exact hbase 'o' (by decide)
  · exact hbase 'b' (by decide)

/-! ### Values -/

/-- The characters of a value end with the line. -/
theorem scalarChars_append (hds : ∀ c ∈ ds, isScalarChar c = true) :
    scalarChars (ds ++ '\n' :: rest) = ds := by
  have htake : (ds ++ '\n' :: rest).takeWhile isScalarChar = ds := by
    rw [List.takeWhile_append_of_pos hds, List.takeWhile_cons_of_neg (by decide), List.append_nil]
  rw [scalarChars, htake, List.drop_left]
  rfl

/-- **A whole number is read back** from its digits, if it has 128 bits and the line ends behind it. -/
theorem readScalar_toDigits (hn : n < Nat.pow 2 128) (rest : List Char) :
    ∃ span, readScalar (Nat.toDigits 10 n ++ '\n' :: rest) = .ok (.int span n, '\n' :: rest) := by
  obtain ⟨d, ds, hdigits, hd, -⟩ := exists_toDigits_eq_cons n
  have hchars : scalarChars (Nat.toDigits 10 n ++ '\n' :: rest) = Nat.toDigits 10 n := by
    apply scalarChars_append
    intro c hc
    simp [isScalarChar, Char.isAlphanum, isDigit_of_mem_toDigits hc]
  have hword : ∀ {x : Char} {r : List Char}, x.isDigit = false → Nat.toDigits 10 n ≠ x :: r := by
    intro x r hx hr
    rw [hdigits] at hr
    exact ne_of_isDigit hd hx (List.cons.inj hr).1
  have hsize : isSizable (n : Int) = true := by
    rw [isSizable, decide_eq_true_eq]
    omega
  refine ⟨.between (Nat.toDigits 10 n ++ '\n' :: rest) ('\n' :: rest), ?_⟩
  have htrue : Nat.toDigits 10 n ≠ "true".toList := hword (by decide)
  have hfalse : Nat.toDigits 10 n ≠ "false".toList := hword (by decide)
  rw [readScalar]
  simp only [hchars, List.drop_left, if_neg (Nat.toDigits_ne_nil (n := n)), if_neg htrue, if_neg hfalse,
    integer?_toDigits, if_pos hsize]

end ImportCensus.Toml
