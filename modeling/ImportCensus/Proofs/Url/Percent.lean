/-
ImportCensus/Proofs/Url/Percent.lean

What percent escapes stand for.

An escape stands for one byte in the place of three characters, so a text with an escape stands for fewer
bytes than it has itself; a text without one stands for its own bytes.  No escape goes across a character
that is no hexadecimal digit, so a text is read piece by piece there.

Main statement: the texts that stand for their own bytes are those without an escape
(`unescape_eq_encode_iff`).
-/
import ImportCensus.Proofs.Text.Utf8
import ImportCensus.Url.Percent

namespace ImportCensus

open Text

namespace Url

variable {s t : List Char} {c : Char}

/-- Does a text start with an escape? -/
def startsEscape : List Char → Bool
  | '%' :: a :: b :: _ => (hexValue? a).isSome && (hexValue? b).isSome
  | _ => false

/-- Is there an escape in a text? -/
def HasEscape (s : List Char) : Prop :=
  ∃ r ∈ s.tails, startsEscape r = true

instance (s : List Char) : Decidable (HasEscape s) :=
  inferInstanceAs (Decidable (∃ r ∈ s.tails, startsEscape r = true))

theorem not_hasEscape_nil : ¬HasEscape [] := by
  decide

theorem hasEscape_cons_iff : HasEscape (c :: s) ↔ startsEscape (c :: s) = true ∨ HasEscape s := by
  simp [HasEscape]

theorem exists_of_startsEscape (h : startsEscape s = true) :
    ∃ a b r x y, s = '%' :: a :: b :: r ∧ hexValue? a = some x ∧ hexValue? b = some y := by
  unfold startsEscape at h
  split at h
  · next a b r =>
    rw [Bool.and_eq_true, Option.isSome_iff_exists, Option.isSome_iff_exists] at h
    obtain ⟨⟨x, ha⟩, y, hb⟩ := h
    exact ⟨a, b, r, x, y, rfl, ha, hb⟩
  · cases h

theorem startsEscape_cons (h : c ≠ '%') (s : List Char) : startsEscape (c :: s) = false := by
  unfold startsEscape
  split
  · next heq => exact absurd (List.cons.inj heq).1 h
  · rfl

/-- An escape does not go on across a character that is no digit. -/
theorem startsEscape_append (hc : hexValue? c = none) (s t : List Char) (d : Char) :
    startsEscape (d :: (s ++ c :: t)) = startsEscape (d :: s) := by
  by_cases hd : d = '%'
  · subst hd
    rcases s with _ | ⟨a, _ | ⟨b, r⟩⟩
    · cases t <;> simp [startsEscape, hc]
    · simp [startsEscape, hc]
    · rfl
  · rw [startsEscape_cons hd, startsEscape_cons hd]

/-! ### One character -/

theorem unescape_escape {a b : Char} {x y : Nat} (ha : hexValue? a = some x) (hb : hexValue? b = some y)
    (r : List Char) :
    unescape ('%' :: a :: b :: r) = UInt8.ofNat (16 * x + y) :: unescape r := by
  rw [unescape, ha, hb]

theorem unescape_cons (h : startsEscape (c :: s) = false) :
    unescape (c :: s) = String.utf8EncodeChar c ++ unescape s := by
  have hencode : String.utf8EncodeChar c = encode [c] := by simp [encode]
  rw [unescape.eq_def, hencode]
  split
  · next heq => cases heq
  · next a b r heq =>
    cases heq
    split
    · next ha hb => simp [startsEscape, ha, hb] at h
    · rfl
  · next heq =>
    cases heq
    rfl

/-! ### Whole texts -/

/-- The cases of a text: it is empty, starts with an escape or with a character of its own. -/
theorem escape_induction {motive : List Char → Prop} (nil : motive [])
    (escape : ∀ {a b x y}, hexValue? a = some x → hexValue? b = some y → ∀ r, motive r →
      motive ('%' :: a :: b :: r))
    (cons : ∀ {c r}, startsEscape (c :: r) = false → motive r → motive (c :: r)) (s : List Char) :
    motive s := by
  induction hlength : s.length using Nat.strongRecOn generalizing s with
  | ind length ih =>
    subst hlength
    cases hstart : startsEscape s with
    | true =>
      obtain ⟨a, b, r, x, y, rfl, ha, hb⟩ := exists_of_startsEscape hstart
      exact escape ha hb r (ih _ (by simp; omega) r rfl)
    | false =>
      cases s with
      | nil => exact nil
      | cons c r => exact cons hstart (ih _ (by simp) r rfl)

/-- A text stands for no more bytes than it has. -/
theorem length_unescape_le (s : List Char) : (unescape s).length ≤ (encode s).length := by
  induction s using escape_induction with
  | nil => exact Nat.le_refl _
  | @escape a b x y ha hb r ih =>
    have hsize := Char.utf8Size_pos '%'
    rw [unescape_escape ha hb, List.length_cons, length_encode_cons, length_encode_cons,
      length_encode_cons]
    omega
  | cons hstart ih =>
    rw [unescape_cons hstart, encode_cons, List.length_append, List.length_append]
    omega

/-- A text with an escape stands for fewer bytes than it has. -/
theorem length_unescape_lt (h : HasEscape s) : (unescape s).length < (encode s).length := by
  induction s using escape_induction with
  | nil => exact absurd h not_hasEscape_nil
  | @escape a b x y ha hb r ih =>
    have hle := length_unescape_le r
    have hsize := Char.utf8Size_pos '%'
    have hsize' := Char.utf8Size_pos a
    rw [unescape_escape ha hb, List.length_cons, length_encode_cons, length_encode_cons,
      length_encode_cons]
    omega
  | cons hstart ih =>
    rw [hasEscape_cons_iff, hstart] at h
    have hlt := ih (h.resolve_left nofun)
    rw [unescape_cons hstart, encode_cons, List.length_append, List.length_append]
    omega

/-- **The texts that stand for their own bytes are those without an escape.** -/
theorem unescape_eq_encode_iff : unescape s = encode s ↔ ¬HasEscape s := by
  constructor
  · intro heq h
    have hlt := length_unescape_lt h
    rw [heq] at hlt
    exact Nat.lt_irrefl _ hlt
  · intro h
    induction s with
    | nil => rfl
    | cons c r ih =>
      rw [hasEscape_cons_iff, not_or, Bool.not_eq_true] at h
      rw [unescape_cons h.1, ih h.2, ← encode_cons]

/-- Texts are read one by one if a character that is no digit stands between them. -/
theorem unescape_append (hc : hexValue? c = none) (s t : List Char) :
    unescape (s ++ c :: t) = unescape s ++ unescape (c :: t) := by
  induction s using escape_induction with
  | nil => rfl
  | escape ha hb r ih =>
    rw [List.cons_append, List.cons_append, List.cons_append, unescape_escape ha hb,
      unescape_escape ha hb, ih]
    rfl
  | @cons d r hstart ih =>
    rw [List.cons_append, unescape_cons ((startsEscape_append hc r t d).trans hstart),
      unescape_cons hstart, ih, List.append_assoc]

end Url

end ImportCensus
