/-
ImportCensus/Proofs/Text/Utf8.lean

The bytes of a text are read as the text.

A reader looks at the head of the bytes and knows from the first byte how many belong to a character.  The
bytes of a character at the head are read as this character, whatever follows.

Main statements: decoding undoes encoding (`decode?_encode`), texts are ordered as their bytes are
(`encode_lt_encode_iff`), and what is no text before or behind a byte of ASCII is replaced as if it stood alone
(`decodeLossy_append`).
-/
import ImportCensus.Text.Utf8
import Mathlib.Data.Char
import Mathlib.Data.List.Lex
import Mathlib.Data.UInt

namespace ImportCensus.Text

variable {a b c d : UInt8} {rest : Bytes}

/-! ### Heads of one to four bytes -/

theorem isContinuation_iff : isContinuation b = true ↔ 0x80 ≤ b.toNat ∧ b.toNat ≤ 0xBF := by
  simp [isContinuation, UInt8.le_iff_toNat_le]

theorem head_one (h : a.toNat < 0x80) : head a rest = (some (Char.ofNat a.toNat), 0) := by
  have ha : a < 0x80 := UInt8.lt_iff_toNat_lt.2 h
  rw [head.eq_def, if_pos ha]

theorem head_two (h : 0xC2 ≤ a.toNat ∧ a.toNat ≤ 0xDF) (hb : isContinuation b = true) :
    head a (b :: rest) = (some (Char.ofNat (a.toNat % 32 * 64 + payload b)), 1) := by
  have h₁ : ¬a < 0x80 := by
    rw [UInt8.lt_iff_toNat_lt]
    exact Nat.not_lt.2 (Nat.le_trans (by decide) h.1)
  have h₂ : (0xC2 ≤ a && a ≤ 0xDF) = true := by simpa [UInt8.le_iff_toNat_le] using h
  simp only [head.eq_def, if_neg h₁, h₂, if_true, hb]

theorem head_three (h : 0xE0 ≤ a.toNat ∧ a.toNat ≤ 0xEF) (hb : isSecond a b = true)
    (hc : isContinuation c = true) :
    head a (b :: c :: rest)
      = (some (Char.ofNat (a.toNat % 16 * 4096 + payload b * 64 + payload c)), 2) := by
  have h₁ : ¬a < 0x80 := by
    rw [UInt8.lt_iff_toNat_lt]
    exact Nat.not_lt.2 (Nat.le_trans (by decide) h.1)
  have h₂ : ¬(0xC2 ≤ a && a ≤ 0xDF) = true := by
    simp [UInt8.le_iff_toNat_le]
    omega
  have h₃ : (0xE0 ≤ a && a ≤ 0xEF) = true := by simpa [UInt8.le_iff_toNat_le] using h
  simp only [head.eq_def, if_neg h₁, if_neg h₂, h₃, if_true, hb, hc]

theorem head_four (h : 0xF0 ≤ a.toNat ∧ a.toNat ≤ 0xF4) (hb : isSecond a b = true)
    (hc : isContinuation c = true) (hd : isContinuation d = true) :
    head a (b :: c :: d :: rest)
      = (some (Char.ofNat (a.toNat % 8 * 262144 + payload b * 4096 + payload c * 64 + payload d)), 3) := by
  have h₁ : ¬a < 0x80 := by
    rw [UInt8.lt_iff_toNat_lt]
    exact Nat.not_lt.2 (Nat.le_trans (by decide) h.1)
  have h₂ : ¬(0xC2 ≤ a && a ≤ 0xDF) = true := by
    simp [UInt8.le_iff_toNat_le]
    omega
  have h₃ : ¬(0xE0 ≤ a && a ≤ 0xEF) = true := by
    simp [UInt8.le_iff_toNat_le]
    omega
  have h₄ : (0xF0 ≤ a && a ≤ 0xF4) = true := by simpa [UInt8.le_iff_toNat_le] using h
  simp only [head.eq_def, if_neg h₁, if_neg h₂, if_neg h₃, h₄, if_true, hb, hc, hd]

/-! ### The bytes of a character -/

theorem toNat_ofNat_of_lt {n : Nat} (h : n < 256) : (UInt8.ofNat n).toNat = n := by
  simp [Nat.mod_eq_of_lt h]

theorem isContinuation_ofNat (n : Nat) : isContinuation (UInt8.ofNat (n % 64 + 128)) = true := by
  rw [isContinuation_iff, toNat_ofNat_of_lt (by omega)]
  omega

theorem payload_ofNat (n : Nat) : payload (UInt8.ofNat (n % 64 + 128)) = n % 64 := by
  rw [payload, toNat_ofNat_of_lt (by omega)]
  omega

/-- The second byte of a character of three bytes keeps out shorter spellings and surrogates. -/
theorem isSecond_three {v : Nat} (hlow : 0x800 ≤ v) (hhigh : v ≤ 0xFFFF)
    (hvalid : v < 0xD800 ∨ 0xDFFF < v) :
    isSecond (UInt8.ofNat (v / 4096 % 16 + 224)) (UInt8.ofNat (v / 64 % 64 + 128)) = true := by
  have hfirst := toNat_ofNat_of_lt (n := v / 4096 % 16 + 224) (by omega)
  have hsecond := toNat_ofNat_of_lt (n := v / 64 % 64 + 128) (by omega)
  rw [isSecond]
  simp only [← UInt8.toNat_inj, UInt8.le_iff_toNat_le, hfirst, hsecond, isContinuation_ofNat,
    UInt8.reduceToNat]
  split_ifs <;> simp <;> omega

/-- The second byte of a character of four bytes keeps out shorter spellings and what is too large. -/
theorem isSecond_four {v : Nat} (hlow : 0xFFFF < v) (hhigh : v < 0x110000) :
    isSecond (UInt8.ofNat (v / 262144 % 8 + 240)) (UInt8.ofNat (v / 4096 % 64 + 128)) = true := by
  have hfirst := toNat_ofNat_of_lt (n := v / 262144 % 8 + 240) (by omega)
  have hsecond := toNat_ofNat_of_lt (n := v / 4096 % 64 + 128) (by omega)
  rw [isSecond]
  simp only [← UInt8.toNat_inj, UInt8.le_iff_toNat_le, hfirst, hsecond, isContinuation_ofNat,
    UInt8.reduceToNat]
  split_ifs <;> simp <;> omega

/-- The bytes of a character at the head of others are read as the character. -/
theorem head_utf8EncodeChar (ch : Char) (rest : Bytes) :
    ∃ b more, String.utf8EncodeChar ch = b :: more ∧
      head b (more ++ rest) = (some ch, more.length) := by
  have hch : Char.ofNat ch.val.toNat = ch := Char.ofNat_toNat ch
  have hvalid : ch.val.toNat < 0xD800 ∨ 0xDFFF < ch.val.toNat ∧ ch.val.toNat < 0x110000 := ch.valid
  rw [String.utf8EncodeChar.eq_1]
  generalize ch.val.toNat = v at *
  by_cases h₁ : v ≤ 127
  · have hfirst := toNat_ofNat_of_lt (n := v) (by omega)
    refine ⟨_, _, if_pos h₁, ?_⟩
    rw [head_one (by omega), hfirst, hch]
    rfl
  · rw [if_neg h₁]
    by_cases h₂ : v ≤ 2047
    · have hfirst := toNat_ofNat_of_lt (n := v / 64 % 32 + 192) (by omega)
      have hvalue : (v / 64 % 32 + 192) % 32 * 64 + v % 64 = v := by omega
      refine ⟨_, _, if_pos h₂, ?_⟩
      rw [List.singleton_append, head_two (by omega) (isContinuation_ofNat v), hfirst, payload_ofNat,
        hvalue, hch]
      rfl
    · rw [if_neg h₂]
      by_cases h₃ : v ≤ 65535
      · have hfirst := toNat_ofNat_of_lt (n := v / 4096 % 16 + 224) (by omega)
        have hsecond := isSecond_three (by omega) h₃ (by omega)
        have hvalue : (v / 4096 % 16 + 224) % 16 * 4096 + v / 64 % 64 * 64 + v % 64 = v := by omega
        refine ⟨_, _, if_pos h₃, ?_⟩
        rw [List.cons_append, List.singleton_append,
          head_three (by omega) hsecond (isContinuation_ofNat v), hfirst, payload_ofNat, payload_ofNat,
          hvalue, hch]
        rfl
      · rw [if_neg h₃]
        have hfirst := toNat_ofNat_of_lt (n := v / 262144 % 8 + 240) (by omega)
        have hsecond := isSecond_four (by omega : 0xFFFF < v) (by omega)
        have hvalue : (v / 262144 % 8 + 240) % 8 * 262144 + v / 4096 % 64 * 4096 + v / 64 % 64 * 64
            + v % 64 = v := by omega
        refine ⟨_, _, rfl, ?_⟩
        rw [List.cons_append, List.cons_append, List.singleton_append,
          head_four (by omega) hsecond (isContinuation_ofNat _) (isContinuation_ofNat v), hfirst,
          payload_ofNat, payload_ofNat, payload_ofNat, hvalue, hch]
        rfl

/-! ### Whole texts -/

theorem encode_cons (c : Char) (s : List Char) :
    encode (c :: s) = String.utf8EncodeChar c ++ encode s :=
  List.flatMap_cons

theorem length_encode_cons (c : Char) (s : List Char) :
    (encode (c :: s)).length = c.utf8Size + (encode s).length := by
  rw [encode_cons, List.length_append, String.length_utf8EncodeChar]

theorem encode_append (s t : List Char) : encode (s ++ t) = encode s ++ encode t :=
  List.flatMap_append

theorem decodeFrom?_append (more rest : Bytes) :
    decodeFrom? more.length (more ++ rest) = decodeFrom? 0 rest := by
  induction more with
  | nil => rfl
  | cons b r ih => exact ih

/-- **The bytes of a text are read as the text.** -/
theorem decode?_encode (s : List Char) : decode? (encode s) = some s := by
  induction s with
  | nil => rfl
  | cons ch s ih =>
    obtain ⟨b, more, hchar, hhead⟩ := head_utf8EncodeChar ch (encode s)
    have hbytes : encode (ch :: s) = b :: (more ++ encode s) := by
      rw [encode, List.flatMap_cons, hchar]
      rfl
    rw [decode?] at ih ⊢
    rw [hbytes, decodeFrom?, hhead]
    dsimp only
    rw [decodeFrom?_append, ih]
    rfl

theorem decodeLossyFrom_length_append (more rest : Bytes) :
    decodeLossyFrom more.length (more ++ rest) = decodeLossyFrom 0 rest := by
  induction more with
  | nil => rfl
  | cons b r ih => exact ih

/-- Nothing is replaced in the bytes of a text. -/
theorem decodeLossy_encode (s : List Char) : decodeLossy (encode s) = s := by
  induction s with
  | nil => rfl
  | cons ch s ih =>
    obtain ⟨b, more, hchar, hhead⟩ := head_utf8EncodeChar ch (encode s)
    have hbytes : encode (ch :: s) = b :: (more ++ encode s) := by
      rw [encode_cons, hchar]
      rfl
    rw [decodeLossy] at ih ⊢
    rw [hbytes, decodeLossyFrom, hhead]
    dsimp only
    rw [decodeLossyFrom_length_append, ih]
    rfl

/-! ### Order -/

/-- The bytes of a smaller character are smaller, whatever follows them. -/
theorem utf8EncodeChar_append_lt {c d : Char} (h : c < d) (rest rest' : Bytes) :
    String.utf8EncodeChar c ++ rest < String.utf8EncodeChar d ++ rest' := by
  have hlt : c.val.toNat < d.val.toNat := UInt32.lt_iff_toNat_lt.1 h
  have hd : d.val.toNat < 0xD800 ∨ 0xDFFF < d.val.toNat ∧ d.val.toNat < 0x110000 := d.valid
  rw [String.utf8EncodeChar.eq_1, String.utf8EncodeChar.eq_1]
  generalize c.val.toNat = v at *
  generalize d.val.toNat = w at *
  -- the bytes behind the first one are digits to the base 64
  have hdiv (n : Nat) : n / 4096 = n / 64 / 64 ∧ n / 262144 = n / 64 / 64 / 64 := by omega
  split_ifs <;>
  · simp (disch := omega) only [List.cons_append, List.nil_append, List.cons_lt_cons_iff,
      UInt8.lt_iff_toNat_lt, ← UInt8.toNat_inj, toNat_ofNat_of_lt, hdiv]
    omega

theorem encode_lt_of_lt {s t : List Char} (h : s < t) : encode s < encode t := by
  -- by induction on the way in which a list of characters is smaller: it ends, or goes on smaller
  induction h with
  | @nil a l =>
    obtain ⟨b, more, hchar, -⟩ := head_utf8EncodeChar a []
    rw [encode_cons, hchar]
    exact List.nil_lt_cons _ _
  | rel hab =>
    rw [encode_cons, encode_cons]
    exact utf8EncodeChar_append_lt hab _ _
  | cons _ ih =>
    rw [encode_cons, encode_cons]
    exact List.append_left_lt ih

/-- **Texts are ordered as their bytes are.** -/
theorem encode_lt_encode_iff {s t : List Char} : encode s < encode t ↔ s < t := by
  refine ⟨fun h => ?_, encode_lt_of_lt⟩
  rcases lt_trichotomy s t with hst | rfl | hts
  · exact hst
  · exact absurd h (List.lt_irrefl _)
  · exact absurd h (List.lt_asymm (encode_lt_of_lt hts))

/-! ### Bytes behind others -/

theorem isContinuation_of_lt (h : a < 0x80) : isContinuation a = false := by
  rw [Bool.eq_false_iff, ne_eq, isContinuation_iff]
  rw [UInt8.lt_iff_toNat_lt] at h
  exact fun hle => Nat.not_lt.2 hle.1 h

theorem isSecond_of_lt (first : UInt8) (h : a < 0x80) : isSecond first a = false := by
  have hcontinuation := isContinuation_of_lt h
  simp only [UInt8.lt_iff_toNat_lt, UInt8.reduceToNat] at h
  rw [isSecond]
  split_ifs <;> simp [UInt8.le_iff_toNat_le, hcontinuation] <;> omega

/-- What stands at the head of bytes does not depend on a byte that is a character by itself, nor on what
follows it. -/
theorem head_append (hb : b < 0x80) (first : UInt8) (front rest : Bytes) :
    head first (front ++ b :: rest) = head first front := by
  have hsecond := isSecond_of_lt first hb
  have hcontinuation := isContinuation_of_lt hb
  -- no head takes in more than three bytes behind the first one
  rcases front with - | ⟨c, - | ⟨d, - | ⟨e, front⟩⟩⟩ <;> simp [head, hsecond, hcontinuation]

/-- What belongs to the head of bytes is among them. -/
theorem head_snd_le (first : UInt8) (rest : Bytes) : (head first rest).2 ≤ rest.length := by
  rcases rest with - | ⟨c, - | ⟨d, - | ⟨e, rest⟩⟩⟩ <;> simp only [head] <;> split_ifs <;> simp

/-- The invariant of reading up to a byte that is a character by itself: what belongs to something that was
read already ends before this byte. -/
theorem decodeLossyFrom_append {front : Bytes} {skip : Nat} (hb : b < 0x80) (hskip : skip ≤ front.length) :
    decodeLossyFrom skip (front ++ b :: rest)
      = decodeLossyFrom skip front ++ decodeLossyFrom 0 (b :: rest) := by
  induction front generalizing skip with
  | nil =>
    obtain rfl : skip = 0 := Nat.le_zero.1 hskip
    rfl
  | cons first front ih =>
    cases skip with
    | succ skip => exact ih (Nat.le_of_succ_le_succ hskip)
    | zero =>
      rw [List.cons_append, decodeLossyFrom, decodeLossyFrom, head_append hb, ih (head_snd_le first front)]
      rfl

theorem decodeLossyFrom_cons (hb : b < 0x80) (rest : Bytes) :
    decodeLossyFrom 0 (b :: rest) = Char.ofNat b.toNat :: decodeLossyFrom 0 rest := by
  rw [decodeLossyFrom, head_one (UInt8.lt_iff_toNat_lt.1 hb)]
  rfl

/-- **Bytes around a byte that is a character by itself are read apart from each other**, with the same
replacements as if they stood alone. -/
theorem decodeLossy_append (hb : b < 0x80) (front rest : Bytes) :
    decodeLossy (front ++ b :: rest) = decodeLossy front ++ Char.ofNat b.toNat :: decodeLossy rest := by
  rw [decodeLossy, decodeLossyFrom_append hb (Nat.zero_le _), decodeLossyFrom_cons hb]
  rfl

end ImportCensus.Text
