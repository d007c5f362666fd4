/-
ImportCensus/Proofs/Json/Skip.lean

Skipping leaves no more of a text than there was.

Whatever is skipped is taken from the head of the text, down to the single scalars, and texts and digits
take in one character at least.  So a reader that skips what it does not ask for comes to an end.

Main statement: `length_le_of_skipValue`.
-/
import ImportCensus.Json.Direct
import ImportCensus.Proofs.FileSystem.Access

namespace ImportCensus.Json

variable {s r rest : List Char} {c : Char} {skip : Nat}

theorem length_skipSpace_le (s : List Char) : (skipSpace s).length ≤ s.length :=
  length_dropWhile_le isSpace s

/-! ### Scalars -/

/-- A text that is skipped ends in a quote. -/
theorem length_lt_of_skipBody (h : skipBody skip s = .ok rest) : rest.length < s.length := by
  induction s generalizing skip with
  | nil => cases h
  | cons c r ih =>
    rw [List.length_cons]
    cases skip with
    | succ skip => exact Nat.lt_succ_of_lt (ih h)
    | zero =>
      simp only [skipBody] at h
      split at h
      · cases h
        exact Nat.lt_succ_self _
      · split at h
        · split at h
          · cases h
          · split at h
            · exact Nat.lt_succ_of_lt (ih h)
            · cases h
          · split at h
            · exact Nat.lt_succ_of_lt (ih h)
            · cases h
        · split at h
          · cases h
          · exact Nat.lt_succ_of_lt (ih h)

theorem length_lt_of_skipDigits (h : skipDigits s = .ok rest) : rest.length < s.length := by
  rw [skipDigits.eq_def] at h
  split at h
  · cases h
  · split at h
    · cases h
      exact Nat.lt_succ_of_le (length_dropWhile_le _ _)
    · cases h

theorem length_le_of_skipExponent (h : skipExponent s = .ok rest) : rest.length ≤ s.length := by
  have hdigits : ∀ {r : List Char} (ahead : Nat), skipDigits r = .ok rest → rest.length ≤ r.length + ahead :=
    fun ahead hr => Nat.le_add_right_of_le (Nat.le_of_lt (length_lt_of_skipDigits hr))
  rw [skipExponent.eq_def] at h
  split at h
  · split at h
    · exact hdigits 2 h
    · exact hdigits 2 h
    · exact hdigits 1 h
  · split at h
    · exact hdigits 2 h
    · exact hdigits 2 h
    · exact hdigits 1 h
  · cases h
    exact Nat.le_refl _

theorem length_lt_of_skipUnsigned (h : skipUnsigned s = .ok rest) : rest.length < s.length := by
  simp only [skipUnsigned, bind_eq_ok_iff] at h
  obtain ⟨behind, hdigits, h⟩ := h
  have hlt := length_lt_of_skipDigits hdigits
  split at h
  · obtain ⟨_, ⟨⟩, -⟩ := h
  · split at h
    · simp only [bind_eq_ok_iff] at h
      obtain ⟨fraction, hfraction, hexponent⟩ := h
      have hfraction := length_lt_of_skipDigits hfraction
      have hexponent := length_le_of_skipExponent hexponent
      simp only [List.length_cons] at hlt
      omega
    · exact Nat.lt_of_le_of_lt (length_le_of_skipExponent h) hlt

theorem length_le_of_skipScalar (h : skipScalar c r = .ok rest) : rest.length ≤ r.length := by
  rw [skipScalar] at h
  split at h
  · exact Nat.le_of_lt (length_lt_of_skipBody h)
  · split at h
    · exact Nat.le_of_lt (length_lt_of_skipUnsigned h)
    · split at h
      · exact Nat.le_of_lt_succ (length_lt_of_skipUnsigned h)
      · split at h
        · next word d _ =>
          cases hword : readWord word r with
          | error f =>
            rw [hword] at h
            cases h
          | ok behind =>
            rw [hword] at h
            cases h
            exact length_le_of_readWord hword
        · cases h

/-! ### Values -/

section Step

-- what is behind the character at the head is taken from its rest
variable (ih : ∀ {mode : SkipMode} {opened : List Bool} {skip : Nat},
  skipFrom mode opened skip r = .ok rest → rest.length ≤ r.length)
include ih

/-- An entry of an object starts with a key. -/
theorem length_le_of_skipKey {opened : List Bool}
    (h : (if c = '"' then
        match skipBody 0 r with
        | .ok behind => skipFrom .colon opened (r.length - behind.length) r
        | .error o => .error o
      else faulty .keyNotText (c :: r)) = .ok rest) : rest.length ≤ (c :: r).length := by
  split at h
  · split at h
    · exact Nat.le_succ_of_le (ih h)
    · cases h
  · cases h

/-- A value is a container or a scalar. -/
theorem length_le_of_skipItem {opened : List Bool}
    (h : (if c = '[' then skipFrom .first (false :: opened) 0 r
      else if c = '\x7b' then skipFrom .first (true :: opened) 0 r
      else
        match skipScalar c r with
        | .ok behind =>
          if opened.isEmpty then .ok behind else skipFrom .behindValue opened (r.length - behind.length) r
        | .error o => .error o) = .ok rest) : rest.length ≤ (c :: r).length := by
  split at h
  · exact Nat.le_succ_of_le (ih h)
  · split at h
    · exact Nat.le_succ_of_le (ih h)
    · split at h
      · next hscalar =>
        split at h
        · cases h
          exact Nat.le_succ_of_le (length_le_of_skipScalar hscalar)
        · exact Nat.le_succ_of_le (ih h)
      · cases h

/-- Behind the end of a container, the one around it goes on. -/
theorem length_le_of_skipEnd {outer : List Bool}
    (h : (if outer.isEmpty then .ok r else skipFrom .behindValue outer 0 r) = .ok rest) :
    rest.length ≤ (c :: r).length := by
  split at h
  · cases h
    exact Nat.le_succ _
  · exact Nat.le_succ_of_le (ih h)

end Step

theorem length_le_of_skipFrom {mode : SkipMode} {opened : List Bool} (h : skipFrom mode opened skip s = .ok rest) :
    rest.length ≤ s.length := by
  induction s generalizing mode opened skip with
  | nil =>
    rw [skipFrom.eq_def] at h
    dsimp only at h
    split at h <;> cases h
  | cons c r ih =>
    rw [skipFrom.eq_def] at h
    dsimp only at h
    cases skip with
    | succ skip => exact Nat.le_succ_of_le (ih h)
    | zero =>
      dsimp only at h
      split at h
      · exact Nat.le_succ_of_le (ih h)
      · -- one case for each mode; only behind a value may the character be left to what comes then
        cases mode with
        | value => exact length_le_of_skipItem ih h
        | first =>
          dsimp only at h
          split at h
          · exact length_le_of_skipEnd ih h
          · exact length_le_of_skipEnd ih h
          · exact length_le_of_skipKey ih h
          · exact length_le_of_skipItem ih h
        | key => exact length_le_of_skipKey ih h
        | colon =>
          dsimp only at h
          split at h
          · exact Nat.le_succ_of_le (ih h)
          · cases h
        | behindValue =>
          dsimp only at h
          split at h
          · cases h
            exact Nat.le_refl _
          · next isObject outer =>
            split at h
            · exact Nat.le_succ_of_le (ih h)
            · by_cases hend : c = (if isObject then '}' else ']')
              · rw [if_pos hend] at h
                exact length_le_of_skipEnd ih h
              · rw [if_neg hend] at h
                cases h

/-- What is skipped is taken from the head of the text. -/
theorem length_le_of_skipValue (h : skipValue s = .ok rest) : rest.length ≤ s.length :=
  length_le_of_skipFrom h

end ImportCensus.Json
