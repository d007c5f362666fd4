/-
ImportCensus/Proofs/Json/Scalar.lean

Texts and integers are read back from what is written for them.

A text is written character by character.  Each character becomes one unit, an escape or the character
itself, and reading takes in one unit at a time; so it is enough to look at one character
(`exists_unit_writeChar`).  An integer is written with its decimal digits and read as far as there are
digits; it stays an integer if it fits into 64 bits and what follows cannot be part of a number.

Main statements: `readText_writeText` and `readNumber_toString`; and no integer that is read is larger
(`lt_of_readNumber`).
-/
import ImportCensus.Json.Number
import ImportCensus.Json.Quote
import ImportCensus.Proofs.Number.Decimal

namespace ImportCensus.Json

open Text

/-! ### Texts -/

/-- Characters that were taken in already are passed over. -/
theorem readBody_append (skipped s : List Char) :
    readBody skipped.length (skipped ++ s) = readBody 0 s := by
  induction skipped with
  | nil => rfl
  | cons c r ih => exact ih

/-- The escape of a control is read as the control. -/
theorem readEscape_control {c : Char} (hc : c.toNat < 0x20) (s : List Char) :
    readEscape ('u' :: '0' :: '0' :: hexDigit (c.toNat / 16) :: hexDigit (c.toNat % 16) :: s)
      = .ok (c, 5) := by
  have hzero : hexValue? '0' = some 0 := by decide
  have hvalue : hexValue4? '0' '0' (hexDigit (c.toNat / 16)) (hexDigit (c.toNat % 16)) = some c.toNat := by
    rw [hexValue4?, hzero, hexValue?_hexDigit (by omega), hexValue?_hexDigit (by omega)]
    show some ((0 * 16 + 0) * 256 + (c.toNat / 16 * 16 + c.toNat % 16)) = some c.toNat
    congr 1
    omega
  have hread : readHex ('0' :: '0' :: hexDigit (c.toNat / 16) :: hexDigit (c.toNat % 16) :: s)
      = .ok (c.toNat, s) := by
    rw [readHex, hvalue]
  have htrailing : isTrailing c.toNat = false := by
    simp only [isTrailing, Bool.and_eq_false_iff, decide_eq_false_iff_not]
    omega
  have hleading : isLeading c.toNat = false := by
    simp only [isLeading, Bool.and_eq_false_iff, decide_eq_false_iff_not]
    omega
  have hescape : readHexEscape ('0' :: '0' :: hexDigit (c.toNat / 16) :: hexDigit (c.toNat % 16) :: s)
      = .ok (c, 4) := by
    simp only [readHexEscape, hread, bind, Except.bind, htrailing, hleading, Char.ofNat_toNat]
    rfl
  simp only [readEscape, hescape, bind, Except.bind]
  rfl

/-- What is written for a character is one unit, and it is read as that character. -/
theorem exists_unit_writeChar (c : Char) :
    ∃ u more, writeChar c = u :: more ∧ u ≠ '"' ∧
      ∀ s, readUnit u (more ++ s) = .ok (c, more.length) := by
  unfold writeChar
  split
  case h_8 _ hquote hslash _ _ _ _ _ =>
    split
    · next hcontrol =>
      refine ⟨_, _, rfl, by decide, fun s => ?_⟩
      exact readEscape_control hcontrol s
    · next hcontrol =>
      refine ⟨c, [], rfl, hquote, fun s => ?_⟩
      rw [readUnit, if_neg hslash, if_neg hcontrol]
      rfl
  all_goals exact ⟨_, _, rfl, by decide, fun s => rfl⟩

theorem readBody_writeChar (c : Char) {s ds rest : List Char} (h : readBody 0 s = .ok (ds, rest)) :
    readBody 0 (writeChar c ++ s) = .ok (c :: ds, rest) := by
  obtain ⟨u, more, hwritten, hquote, hread⟩ := exists_unit_writeChar c
  rw [hwritten, List.cons_append, readBody]
  simp only [if_neg hquote, hread, readBody_append, h]

/-- **A text is read back**, and nothing behind its closing quote is touched. -/
theorem readText_writeText (s rest : List Char) :
    readText (s.flatMap writeChar ++ '"' :: rest) = .ok (s, rest) := by
  induction s with
  | nil => rfl
  | cons c s ih =>
    rw [List.flatMap_cons, List.append_assoc]
    exact readBody_writeChar c ih

/-! ### Integers -/

theorem le_ofDigitChars (ds : List Char) (n : Nat) : n ≤ Nat.ofDigitChars 10 ds n := by
  induction ds generalizing n with
  | nil => exact Nat.le_refl n
  | cons c ds ih =>
    rw [Nat.ofDigitChars_cons]
    calc n ≤ 10 * n + (c.toNat - '0'.toNat) := by omega
      _ ≤ _ := ih _

/-- Digits whose value fits are all taken in. -/
theorem accumulate_eq {ds : List Char} {n : Nat} (h : Nat.ofDigitChars 10 ds n < UInt64.size) :
    accumulate n ds = (Nat.ofDigitChars 10 ds n, []) := by
  induction ds generalizing n with
  | nil => rfl
  | cons c ds ih =>
    rw [Nat.ofDigitChars_cons] at h ⊢
    have hfits : 10 * n + digitValue c < UInt64.size := Nat.lt_of_le_of_lt (le_ofDigitChars ds _) h
    rw [accumulate, if_pos hfits]
    exact ih h

/-- Can a text follow a number without being part of it? -/
def EndsNumber (rest : List Char) : Prop :=
  ∀ c ∈ rest.head?, c.isDigit = false ∧ c ≠ '.' ∧ c ≠ 'e' ∧ c ≠ 'E'

/-- The digits of a number of 64 bits are an integer, unless a sign before them makes them minus zero or
too small. -/
theorem readUnsigned_toDigits {n : Nat} {rest : List Char} (negative : Bool) (hn : n < UInt64.size)
    (hrest : EndsNumber rest) :
    readUnsigned negative (Nat.toDigits 10 n ++ rest) =
      if !negative then .ok (.int n, rest)
      else if n = 0 ∨ Nat.pow 2 63 < n then .ok (.float (.ofFraction true n 1), rest)
      else .ok (.int (-n), rest) := by
  obtain ⟨d, ds, hdigits, hd, hds, hzero⟩ := exists_toDigits_eq_cons n
  have hall : ∀ c ∈ Nat.toDigits 10 n, c.isDigit = true := by
    rw [hdigits]
    exact List.forall_mem_cons.2 ⟨hd, hds⟩
  have hstop : rest.takeWhile Char.isDigit = [] ∧ rest.dropWhile Char.isDigit = rest := by
    cases rest with
    | nil => exact ⟨rfl, rfl⟩
    | cons c r =>
      have hc : ¬ c.isDigit = true := by simp [(hrest c rfl).1]
      exact ⟨List.takeWhile_cons_of_neg hc, List.dropWhile_cons_of_neg hc⟩
  have htake : (Nat.toDigits 10 n ++ rest).takeWhile Char.isDigit = Nat.toDigits 10 n := by
    rw [List.takeWhile_append_of_pos hall, hstop.1, List.append_nil]
  have hdrop : (Nat.toDigits 10 n ++ rest).dropWhile Char.isDigit = rest := by
    rw [List.dropWhile_append_of_pos hall, hstop.2]
  have hvalue : accumulate 0 (Nat.toDigits 10 n) = (n, []) := by
    have hsum : Nat.ofDigitChars 10 (Nat.toDigits 10 n) 0 = n := Nat.ofDigitChars_ten_toDigits
    rw [accumulate_eq (by rwa [hsum]), hsum]
  have hlead : ¬ (d = '0' ∧ startsInDigit (ds ++ rest) = true) := by
    rintro ⟨rfl, hmore⟩
    rw [hzero rfl, List.nil_append] at hmore
    cases rest with
    | nil => cases hmore
    | cons c r => exact absurd hmore (by simp [startsInDigit, (hrest c rfl).1])
  rw [hdigits, List.cons_append] at *
  rw [readUnsigned, if_neg (by simp [hd]), if_neg hlead]
  simp only [htake, hdrop, hvalue]
  split
  case h_1 => exact absurd rfl (hrest '.' rfl).2.1
  case h_2 => exact absurd rfl (hrest 'e' rfl).2.2.1
  case h_3 => exact absurd rfl (hrest 'E' rfl).2.2.2
  case h_4 => rfl

theorem toList_toString_ofNat (m : Nat) : (toString (Int.ofNat m)).toList = Nat.toDigits 10 m := by
  show (Nat.repr m).toList = _
  rw [Nat.repr_eq_ofList_toDigits, String.toList_ofList]

theorem toList_toString_negSucc (m : Nat) :
    (toString (Int.negSucc m)).toList = '-' :: Nat.toDigits 10 (m + 1) := by
  show ("-" ++ Nat.repr (m + 1)).toList = _
  rw [String.toList_append, Nat.repr_eq_ofList_toDigits]
  simp only [String.toList_ofList]
  rfl

/-- An integer starts with its sign or with a digit. -/
theorem exists_toString_eq_cons (n : Int) :
    ∃ c r, (toString n).toList = c :: r ∧ (c = '-' ∨ c.isDigit = true) := by
  cases n with
  | ofNat m =>
    obtain ⟨d, ds, hdigits, hd, -⟩ := exists_toDigits_eq_cons m
    exact ⟨d, ds, (toList_toString_ofNat m).trans hdigits, .inr hd⟩
  | negSucc m => exact ⟨'-', _, toList_toString_negSucc m, .inl rfl⟩

/-- **An integer of 64 bits is read back**, with a sign or without one. -/
theorem readNumber_toString {n : Int} {rest : List Char} (hlow : -(Nat.pow 2 63 : Nat) ≤ n)
    (hhigh : n < (UInt64.size : Nat)) (hrest : EndsNumber rest) :
    readNumber ((toString n).toList ++ rest) = .ok (.int n, rest) := by
  cases n with
  | ofNat m =>
    obtain ⟨d, ds, hdigits, hd, -⟩ := exists_toDigits_eq_cons m
    rw [toList_toString_ofNat, readNumber]
    · rw [readUnsigned_toDigits false (Int.ofNat_lt.1 hhigh) hrest]
      rfl
    · -- the digits start with no sign
      rintro r hr
      rw [hdigits, List.cons_append] at hr
      obtain rfl := (List.cons.inj hr).1
      exact absurd hd (by decide)
  | negSucc m =>
    have hword : Nat.pow 2 63 < UInt64.size := by decide
    rw [toList_toString_negSucc, List.cons_append, readNumber,
      readUnsigned_toDigits true (by omega) hrest, if_neg (by decide), if_neg (by omega)]
    rfl

/-! ### Range -/

section Range

variable {negative down : Bool} {n : Nat} {e : Int} {s rest rest' : List Char} {d : Datum}

/-- A number with a point or an exponent is no integer. -/
theorem exists_float_of_finishFloat (h : finishFloat negative n e rest = .ok (d, rest')) :
    ∃ x, d = .float x := by
  rw [finishFloat] at h
  split at h
  · cases h
    exact ⟨_, rfl⟩
  · cases h

theorem exists_float_of_readPower (h : readPower negative n e down s = .ok (d, rest)) :
    ∃ x, d = .float x := by
  cases s with
  | nil => cases h
  | cons c r =>
    simp only [readPower] at h
    split at h
    · cases h
    · split at h
      · split at h
        · split at h
          · cases h
          · cases h
            exact ⟨_, rfl⟩
        · exact exists_float_of_finishFloat h
      · exact exists_float_of_finishFloat h

theorem exists_float_of_readTail (h : readTail negative n e s = .ok (d, rest)) : ∃ x, d = .float x := by
  have hexponent : ∀ r, readExponent negative n e r = .ok (d, rest) → ∃ x, d = .float x := by
    intro r hr
    simp only [readExponent] at hr
    split at hr <;> exact exists_float_of_readPower hr
  simp only [readTail] at h
  split at h
  · exact hexponent _ h
  · exact hexponent _ h
  · exact exists_float_of_finishFloat h

theorem exists_float_of_readFraction (h : readFraction negative n e s = .ok (d, rest)) :
    ∃ x, d = .float x := by
  simp only [readFraction] at h
  split at h
  · cases h
  · cases h
  · exact exists_float_of_readTail h

theorem accumulate_lt {ds : List Char} (h : n < UInt64.size) : (accumulate n ds).1 < UInt64.size := by
  induction ds generalizing n with
  | nil => exact h
  | cons c ds ih =>
    rw [accumulate]
    split
    · next hfits => exact ih hfits
    · exact h

theorem lt_of_readUnsigned {i : Int} (h : readUnsigned negative s = .ok (.int i, rest)) :
    i < (UInt64.size : Nat) := by
  cases s with
  | nil => cases h
  | cons c r =>
    have hlt : (accumulate 0 ((c :: r).takeWhile Char.isDigit)).1 < UInt64.size := accumulate_lt (by decide)
    simp only [readUnsigned] at h
    split at h
    · cases h
    · split at h
      · cases h
      · split at h
        · obtain ⟨x, hx⟩ := exists_float_of_readFraction h
          cases hx
        · obtain ⟨x, hx⟩ := exists_float_of_readTail h
          cases hx
        · obtain ⟨x, hx⟩ := exists_float_of_readTail h
          cases hx
        · split at h
          · split at h
            · cases h
              exact Int.ofNat_lt.2 hlt
            · split at h
              · cases h
              · cases h
                omega
          · obtain ⟨x, hx⟩ := exists_float_of_finishFloat h
            cases hx

/-- An integer that is read fits into 64 bits. -/
theorem lt_of_readNumber {i : Int} (h : readNumber s = .ok (.int i, rest)) : i < (UInt64.size : Nat) := by
  rw [readNumber.eq_def] at h
  split at h
  · exact lt_of_readUnsigned h
  · exact lt_of_readUnsigned h

end Range

end ImportCensus.Json
