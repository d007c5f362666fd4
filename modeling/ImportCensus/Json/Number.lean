/-
ImportCensus/Json/Number.lean

Numbers in JSON texts.  A number without fraction and exponent stays an integer if it fits into 64
bits, signed or unsigned; minus zero and everything else becomes a binary64 number.

Such a number is read as a significand of at most 64 bits and a power of ten; digits that no longer fit
into the significand only count places.  The significand is rounded first, and its product or quotient
with the rounded power of ten is rounded again.
-/
import ImportCensus.Datum
import ImportCensus.Json.Fault

namespace ImportCensus.Json

/-- The value of a decimal digit. -/
def digitValue (c : Char) : Nat :=
  c.toNat - '0'.toNat

/-- Appends digits to a significand while it stays below 2^64; what does not fit is left over. -/
def accumulate : Nat → List Char → Nat × List Char
  | n, [] => (n, [])
  | n, c :: cs =>
    if 10 * n + digitValue c < UInt64.size then accumulate (10 * n + digitValue c) cs else (n, c :: cs)

/-! ### From parts -/

/-- The power of ten with an exponent of at most 308, rounded. -/
def powerOfTen (e : Nat) : Binary64 :=
  .ofDecimal false 1 e

/-- Scales a number by a power of ten, dividing step by step where the power is not itself a number;
`steps` bounds the divisions, after three of which nothing is left. -/
def scale : (steps : Nat) → Binary64 → Int → Option Binary64
  | 0, x, _ => some (x.mul (.finite false 0 0))
  | steps + 1, x, e =>
    if 0 ≤ e ∧ e ≤ 308 then
      let y := x.mul (powerOfTen e.toNat)
      if y.isInfinite then none else some y
    else if e < 0 ∧ -308 ≤ e then some (x.div (powerOfTen (-e).toNat))
    else if x.isZero then some x
    else if 0 ≤ e then none
    else scale steps (x.div (powerOfTen 308)) (e + 308)

/-- The number of a significand and a power of ten, if it is finite. -/
def fromParts (negative : Bool) (significand : Nat) (e : Int) : Option Binary64 :=
  scale 4 (.ofFraction negative significand 1) e

/-! ### Reading -/

/-- Does a text start with a digit? -/
def startsInDigit : List Char → Bool
  | c :: _ => c.isDigit
  | [] => false

/-- The number of a significand and a power of ten, or a fault before `rest`. -/
def finishFloat (negative : Bool) (significand : Nat) (e : Int) (rest : List Char) :
    Except Fault (Datum × List Char) :=
  match fromParts negative significand e with
  | some x => .ok (.float x, rest)
  | none => .error (.behind .numberOutOfRange rest)

theorem rest_of_finishFloat {negative : Bool} {n : Nat} {e : Int} {rest rest' : List Char} {d : Datum}
    (h : finishFloat negative n e rest = .ok (d, rest')) : rest' = rest := by
  simp only [finishFloat] at h
  split at h
  · exact (Prod.mk.inj (Except.ok.inj h)).2.symm
  · cases h

/-- The exponents from which on a number is out of range or zero without being looked at. -/
def exponentLimit : Nat :=
  Nat.pow 2 31

/-- The longest run of digits whose value stays below the exponent limit, and what is behind it. -/
def exponentDigits : Nat → List Char → Nat × List Char
  | n, [] => (n, [])
  | n, c :: r =>
    if c.isDigit ∧ 10 * n + digitValue c < exponentLimit then
      exponentDigits (10 * n + digitValue c) r
    else (n, c :: r)

theorem length_exponentDigits_le (n : Nat) (s : List Char) :
    (exponentDigits n s).2.length ≤ s.length := by
  induction s generalizing n with
  | nil => simp [exponentDigits]
  | cons c r ih =>
    simp only [exponentDigits]
    split
    · exact Nat.le_succ_of_le (ih _)
    · exact Nat.le_refl _

theorem length_dropWhile_le {α : Type} (p : α → Bool) (l : List α) :
    (l.dropWhile p).length ≤ l.length :=
  (List.dropWhile_sublist p).length_le

/-- An exponent behind its sign; `down` says that it is negative. -/
def readPower (negative : Bool) (significand : Nat) (e : Int) (down : Bool) (s : List Char) :
    Except Fault (Datum × List Char) :=
  match s with
  | [] => .error (.behind .endInValue [])
  | c :: r =>
    if !c.isDigit then .error (.at .badNumber (c :: r))
    else
      let (n, rest) := exponentDigits 0 (c :: r)
      match rest with
      | d :: behind =>
        if d.isDigit then
          if significand ≠ 0 ∧ !down then .error (.behind .numberOutOfRange behind)
          else .ok (.float (.finite negative 0 0), behind.dropWhile Char.isDigit)
        else finishFloat negative significand (if down then e - n else e + n) rest
      | [] => finishFloat negative significand (if down then e - n else e + n) rest

theorem length_le_of_readPower {negative down : Bool} {n : Nat} {e : Int} {s rest : List Char}
    {d : Datum} (h : readPower negative n e down s = .ok (d, rest)) : rest.length ≤ s.length := by
  match s with
  | [] => cases h
  | c :: r =>
    have hk := length_exponentDigits_le 0 (c :: r)
    simp only [readPower] at h
    split at h
    · cases h
    · split at h
      · next x behind hx =>
        rw [hx] at hk
        split at h
        · split at h
          · cases h
          · rw [← (Prod.mk.inj (Except.ok.inj h)).2]
            have := length_dropWhile_le Char.isDigit behind
            simp only [List.length_cons] at hk ⊢
            omega
        · rw [rest_of_finishFloat h, hx]
          exact hk
      · rw [rest_of_finishFloat h]
        exact hk

/-- An exponent part behind its letter. -/
def readExponent (negative : Bool) (significand : Nat) (e : Int) (s : List Char) :
    Except Fault (Datum × List Char) :=
  match s with
  | '+' :: r => readPower negative significand e false r
  | '-' :: r => readPower negative significand e true r
  | s => readPower negative significand e false s

theorem length_le_of_readExponent {negative : Bool} {n : Nat} {e : Int} {s rest : List Char}
    {d : Datum} (h : readExponent negative n e s = .ok (d, rest)) : rest.length ≤ s.length := by
  simp only [readExponent] at h
  split at h
  · exact Nat.le_succ_of_le (length_le_of_readPower h)
  · exact Nat.le_succ_of_le (length_le_of_readPower h)
  · exact length_le_of_readPower h

/-- What follows the digits before the point: an exponent part, or the end of the number. -/
def readTail (negative : Bool) (significand : Nat) (e : Int) (s : List Char) :
    Except Fault (Datum × List Char) :=
  match s with
  | 'e' :: r | 'E' :: r => readExponent negative significand e r
  | s => finishFloat negative significand e s

theorem length_le_of_readTail {negative : Bool} {n : Nat} {e : Int} {s rest : List Char}
    {d : Datum} (h : readTail negative n e s = .ok (d, rest)) : rest.length ≤ s.length := by
  simp only [readTail] at h
  split at h
  · exact Nat.le_succ_of_le (length_le_of_readExponent h)
  · exact Nat.le_succ_of_le (length_le_of_readExponent h)
  · exact Nat.le_of_eq (congrArg _ (rest_of_finishFloat h))

/-- A fraction behind its point. -/
def readFraction (negative : Bool) (significand : Nat) (e : Int) (s : List Char) :
    Except Fault (Datum × List Char) :=
  let digits := s.takeWhile Char.isDigit
  let rest := s.dropWhile Char.isDigit
  match digits, rest with
  | [], [] => .error (.behind .endInValue [])
  | [], rest => .error (.at .badNumber rest)
  | digits, rest =>
    let (n, left) := accumulate significand digits
    readTail negative n (e - (digits.length - left.length : Nat)) rest

theorem length_le_of_readFraction {negative : Bool} {n : Nat} {e : Int} {s rest : List Char}
    {d : Datum} (h : readFraction negative n e s = .ok (d, rest)) : rest.length ≤ s.length := by
  simp only [readFraction] at h
  split at h
  · cases h
  · cases h
  · exact Nat.le_trans (length_le_of_readTail h) (length_dropWhile_le _ _)

/-- A number behind its sign. -/
def readUnsigned (negative : Bool) (s : List Char) : Except Fault (Datum × List Char) :=
  match s with
  | [] => .error (.behind .endInValue [])
  | c :: r =>
    if !c.isDigit then .error (.at .badNumber (c :: r))
    else if c = '0' ∧ startsInDigit r then .error (.at .badNumber r)
    else
      let digits := s.takeWhile Char.isDigit
      let rest := s.dropWhile Char.isDigit
      let (n, left) := accumulate 0 digits
      match rest with
      | '.' :: r => readFraction negative n left.length r
      | 'e' :: _ | 'E' :: _ => readTail negative n left.length rest
      | rest =>
        if left.isEmpty then
          if !negative then .ok (.int n, rest)
          else if n = 0 ∨ Nat.pow 2 63 < n then .ok (.float (.ofFraction true n 1), rest)
          else .ok (.int (-n), rest)
        else finishFloat negative n left.length rest

theorem length_lt_of_readUnsigned {negative : Bool} {s rest : List Char} {d : Datum}
    (h : readUnsigned negative s = .ok (d, rest)) : rest.length < s.length := by
  match s with
  | [] => cases h
  | c :: r =>
    have hr := length_dropWhile_le Char.isDigit r
    simp only [readUnsigned] at h
    split at h
    · cases h
    · next hc =>
      have hc : c.isDigit = true := by simpa using hc
      rw [List.dropWhile_cons_of_pos hc] at h
      simp only [List.length_cons]
      split at h
      · cases h
      · split at h
        · next t ht =>
          have := length_le_of_readFraction h
          rw [ht] at hr
          simp only [List.length_cons] at hr
          omega
        · have := length_le_of_readTail h
          omega
        · have := length_le_of_readTail h
          omega
        · split at h
          · split at h
            · rw [← (Prod.mk.inj (Except.ok.inj h)).2]
              omega
            · split at h <;>
              · rw [← (Prod.mk.inj (Except.ok.inj h)).2]
                omega
          · rw [rest_of_finishFloat h]
            omega

/-- A number at the head of a text. -/
def readNumber (s : List Char) : Except Fault (Datum × List Char) :=
  match s with
  | '-' :: r => readUnsigned true r
  | s => readUnsigned false s

theorem length_lt_of_readNumber {s rest : List Char} {d : Datum}
    (h : readNumber s = .ok (d, rest)) : rest.length < s.length := by
  simp only [readNumber] at h
  split at h
  · exact Nat.lt_succ_of_lt (length_lt_of_readUnsigned h)
  · exact length_lt_of_readUnsigned h

end ImportCensus.Json
