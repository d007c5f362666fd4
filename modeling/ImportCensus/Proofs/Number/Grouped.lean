/-
ImportCensus/Proofs/Number/Grouped.lean

Numbers with their thousands set apart.

Where a comma stands depends on how many digits follow, so that the groups are known one digit at a time:
a digit in front of others opens a group of its own if their number is a multiple of three, and it joins
the first group otherwise (`split_groupDigits`).

Main statement: a number is written as its decimal digits in groups of three behind a first group of at
most three, and it can be read back (`formatCount_isGrouped`).
-/
import ImportCensus.Number.Grouped
import ImportCensus.Proofs.Number.Decimal
import ImportCensus.Proofs.Path
import Mathlib.Data.List.Basic

namespace ImportCensus

open Text

variable {ds : List Char}

/-! ### The groups of some digits -/

/-- A separator cuts off a piece that has none. -/
theorem split_cons_sep {c sep : Char} (h : c ≠ sep) (s : List Char) :
    split sep (c :: sep :: s) = [c] :: split sep s := by
  have hc : sep ∉ [c] := by simpa using h.symm
  have hcut : split sep (c :: sep :: s) = split sep [c] ++ split sep s := split_append_sep [c] s
  rw [split_of_notMem hc] at hcut
  exact hcut

/-- Any other character joins the first piece. -/
theorem split_cons_ne {c sep : Char} (h : c ≠ sep) {s first : List Char} {rest : List (List Char)}
    (hs : split sep s = first :: rest) : split sep (c :: s) = (c :: first) :: rest := by
  rw [split, hs]
  simp [h]

/-- **The groups of digits**: the first one has what three leave over, and the others have three. -/
theorem split_groupDigits (hne : ds ≠ []) (h : ∀ d ∈ ds, d ≠ ',') :
    ∃ first rest, split ',' (groupDigits ds) = first :: rest ∧
      first.length = (ds.length - 1) % 3 + 1 ∧ ∀ g ∈ rest, g.length = 3 := by
  induction ds with
  | nil => exact absurd rfl hne
  | cons c cs ih =>
    obtain ⟨hc, hcs⟩ := List.forall_mem_cons.1 h
    by_cases hnil : cs = []
    · subst hnil
      refine ⟨[c], [], ?_, rfl, List.forall_mem_nil _⟩
      have hsingle : ',' ∉ [c] := by simpa using hc.symm
      exact split_of_notMem hsingle
    · obtain ⟨first, rest, hsplit, hfirst, hrest⟩ := ih hnil hcs
      have hpos : 0 < cs.length := List.length_pos_of_ne_nil hnil
      rw [groupDigits]
      split
      · next hgroup =>
        -- the digits that follow fill their groups, the first one too
        refine ⟨[c], first :: rest, ?_, ?_, ?_⟩
        · rw [split_cons_sep hc, hsplit]
        · show 1 = cs.length % 3 + 1
          rw [hgroup.2]
        · rw [List.forall_mem_cons]
          exact ⟨by omega, hrest⟩
      · next hgroup =>
        have hopen : cs.length % 3 ≠ 0 := fun hzero => hgroup ⟨hnil, hzero⟩
        refine ⟨c :: first, rest, split_cons_ne hc hsplit, ?_, hrest⟩
        rw [List.length_cons, List.length_cons, hfirst]
        omega

theorem head?_groupDigits (ds : List Char) : (groupDigits ds).head? = ds.head? := by
  cases ds with
  | nil => rfl
  | cons c cs =>
    rw [groupDigits]
    split <;> rfl

theorem getLast?_groupDigits (ds : List Char) : (groupDigits ds).getLast? = ds.getLast? := by
  induction ds with
  | nil => rfl
  | cons c cs ih =>
    cases cs with
    | nil => rfl
    | cons d r =>
      have hne : groupDigits (d :: r) ≠ [] := by
        rw [groupDigits]
        split <;> exact List.cons_ne_nil _ _
      obtain ⟨e, more, hmore⟩ := List.exists_cons_of_ne_nil hne
      rw [hmore] at ih
      rw [groupDigits, hmore]
      split <;> simpa using ih

/-! ### Numbers -/

/-- Is this how the number is written? -/
structure IsGrouped (n : ℕ) (text : String) : Prop where
  /-- Without the commas it is the number in decimal. -/
  digits : String.ofList (text.toList.filter (· ≠ ',')) = toString n
  /-- No zero leads another digit. -/
  leading : n ≠ 0 → text.toList.head? ≠ some '0'
  starts : text.toList.head? ≠ some ','
  ends : text.toList.getLast? ≠ some ','
  /-- All groups but the first one have three digits. -/
  groups : ∃ first rest, split ',' text.toList = first :: rest ∧
    (1 ≤ first.length ∧ first.length ≤ 3) ∧ ∀ g ∈ rest, g.length = 3

theorem ne_comma_of_mem_toDigits {n : ℕ} {d : Char} (h : d ∈ Nat.toDigits 10 n) : d ≠ ',' := by
  rintro rfl
  cases Nat.isDigit_of_mem_toDigits (by decide) (by decide) h

theorem isGrouped_formatCount (n : ℕ) : IsGrouped n (formatCount n) := by
  have hcomma : ∀ d ∈ Nat.toDigits 10 n, d ≠ ',' := fun _ => ne_comma_of_mem_toDigits
  have htext : (formatCount n).toList = groupDigits (Nat.toDigits 10 n) := String.toList_ofList
  refine ⟨?_, ?_, ?_, ?_, ?_⟩
  · rw [htext, filter_groupDigits hcomma]
    exact Nat.toString_eq_ofList_toDigits.symm
  · intro hn
    rw [htext, head?_groupDigits]
    exact head?_toDigits_ne_zero hn
  · rw [htext, head?_groupDigits]
    exact fun h => hcomma _ (List.mem_of_mem_head? h) rfl
  · rw [htext, getLast?_groupDigits]
    exact fun h => hcomma _ (List.mem_of_mem_getLast? h) rfl
  · obtain ⟨first, rest, hsplit, hfirst, hrest⟩ := split_groupDigits Nat.toDigits_ne_nil hcomma
    exact ⟨first, rest, by rw [htext, hsplit], by omega, hrest⟩

theorem ofDigitChars_formatCount (n : ℕ) :
    Nat.ofDigitChars 10 ((formatCount n).toList.filter (· ≠ ',')) 0 = n := by
  rw [formatCount, String.toList_ofList, filter_groupDigits fun _ => ne_comma_of_mem_toDigits]
  exact Nat.ofDigitChars_ten_toDigits

/-- **How numbers are written.**  Whatever the number: without its commas the text is the number in decimal,
with no zero in front; no comma stands at either end; each group behind the first comma has three digits, and
the first group one to three.  So the number is read back from its text, and different numbers have different
texts. -/
theorem formatCount_isGrouped :
    (∀ n, IsGrouped n (formatCount n)) ∧
    (∀ n, Nat.ofDigitChars 10 ((formatCount n).toList.filter (· ≠ ',')) 0 = n) ∧
    Function.Injective formatCount := by
  refine ⟨isGrouped_formatCount, ofDigitChars_formatCount, ?_⟩
  intro m n h
  calc m
      = Nat.ofDigitChars 10 ((formatCount m).toList.filter (· ≠ ',')) 0 :=
        (ofDigitChars_formatCount m).symm
    _ = n := by rw [h, ofDigitChars_formatCount]

end ImportCensus
