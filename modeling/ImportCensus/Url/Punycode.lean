/-
ImportCensus/Url/Punycode.lean

Labels of domain names beyond ASCII, written with letters, digits and hyphens only.

The ASCII characters of a label come first.  Behind the last hyphen follow the other characters in
ascending order: each one as the number of places that are passed over between it and the one before,
where a place is a code point together with a position in the label.  Such a number is written with the
least digit first; the thresholds that end a number move with the numbers written so far.
-/

namespace ImportCensus.Url.Punycode

/-! ### Digits and thresholds -/

/-- The character for a digit: the letters stand for 0 to 25, the decimal digits for 26 to 35. -/
def digit (n : Nat) : Char :=
  if n < 26 then Char.ofNat ('a'.toNat + n) else Char.ofNat ('0'.toNat + (n - 26))

/-- The value of a digit. -/
def digitValue? (c : Char) : Option Nat :=
  if 'a' ≤ c ∧ c ≤ 'z' then some (c.toNat - 'a'.toNat)
  else if 'A' ≤ c ∧ c ≤ 'Z' then some (c.toNat - 'A'.toNat)
  else if c.isDigit then some (c.toNat - '0'.toNat + 26)
  else none

/-- The threshold of a digit: a digit below it is the last one of its number. -/
def threshold (place bias : Nat) : Nat :=
  if place ≤ bias then 1 else if bias + 26 ≤ place then 26 else place - bias

theorem threshold_pos (place bias : Nat) : 0 < threshold place bias := by
  unfold threshold
  split
  · omega
  · split <;> omega

theorem threshold_le (place bias : Nat) : threshold place bias ≤ 26 := by
  unfold threshold
  split
  · omega
  · split <;> omega

/-- Divides until the number is small, and counts 36 for every division. -/
def shrink (delta count : Nat) : Nat × Nat :=
  if 455 < delta then shrink (delta / 35) (count + 36) else (delta, count)
termination_by delta
decreasing_by exact Nat.div_lt_self (by omega) (by omega)

/-- The bias after a number has been written, when `points` characters of the label are there. -/
def adapt (delta points : Nat) (isFirst : Bool) : Nat :=
  let delta := if isFirst then delta / 700 else delta / 2
  let (delta, count) := shrink (delta + delta / points) 0
  count + 36 * delta / (delta + 38)

/-! ### Writing -/

/-- The digits of a number. -/
def encodeNumber (bias place n : Nat) : List Char :=
  let t := threshold place bias
  if n < t then [digit n]
  else digit (t + (n - t) % (36 - t)) :: encodeNumber bias (place + 36) ((n - t) / (36 - t))
termination_by n
decreasing_by
  have h₁ := threshold_pos place bias
  have h₂ := threshold_le place bias
  calc (n - threshold place bias) / (36 - threshold place bias)
      ≤ n - threshold place bias := Nat.div_le_self _ _
    _ < n := by omega

/-- What has been written behind the ASCII characters, and what the next number depends on. -/
structure Progress where
  written : List Char
  delta : Nat
  bias : Nat
  handled : Nat

/-- Passes over one character of the label while the code point `n` is written. -/
def Progress.pass (basic n : Nat) (p : Progress) (c : Char) : Progress :=
  if c.toNat < n then { p with delta := p.delta + 1 }
  else if c.toNat = n then
    { written := p.written ++ encodeNumber p.bias 36 p.delta
      delta := 0
      bias := adapt p.delta (p.handled + 1) (p.handled == basic)
      handled := p.handled + 1 }
  else p

/-- Writes the code points, in ascending order and each once, from `n` on. -/
def encodePoints (label : List Char) (basic : Nat) : (n : Nat) → List Nat → Progress → Progress
  | _, [], p => p
  | n, m :: ms, p =>
    let p := { p with delta := p.delta + (m - n) * (p.handled + 1) }
    let p := label.foldl (Progress.pass basic m) p
    encodePoints label basic (m + 1) ms { p with delta := p.delta + 1 }

/-- A label without its marker. -/
def encode (label : List Char) : List Char :=
  let basic := label.filter fun c => c.toNat < 0x80
  let points := ((label.filter fun c => 0x80 ≤ c.toNat).map Char.toNat).mergeSort.eraseDups
  let start : Progress := ⟨[], 0, 72, basic.length⟩
  basic ++ (if basic.isEmpty then [] else ['-'])
    ++ (encodePoints label basic.length 0x80 points start).written

/-! ### Reading -/

/-- A number at the head of a text, added to `sum`. -/
def decodeNumber (bias : Nat) : (place weight sum : Nat) → List Char → Option (Nat × List Char)
  | _, _, _, [] => none
  | place, weight, sum, c :: r =>
    match digitValue? c with
    | none => none
    | some d =>
      let t := threshold place bias
      if d < t then some (sum + d * weight, r)
      else decodeNumber bias (place + 36) (weight * (36 - t)) (sum + d * weight) r

theorem length_lt_of_decodeNumber {bias place weight sum : Nat} {s : List Char}
    {r : Nat × List Char} (h : decodeNumber bias place weight sum s = some r) :
    r.2.length < s.length := by
  induction s generalizing place weight sum with
  | nil => simp [decodeNumber] at h
  | cons c s ih =>
    simp only [decodeNumber] at h
    split at h
    · simp at h
    · split at h
      · simp only [Option.some.injEq] at h
        simp [← h]
      · exact Nat.lt_succ_of_lt (ih h)

/-- Puts the characters that a text stands for into a label: the next one is not before position `i`
or is a code point above `n`. -/
def decodePoints (bias n i : Nat) (label : List Char) (s : List Char) : Option (List Char) :=
  if s.isEmpty then some label
  else
    match _h : decodeNumber bias 36 1 i s with
    | none => none
    | some (sum, rest) =>
      let size := label.length + 1
      let point := n + sum / size
      let position := sum % size
      if ¬ point.isValidChar then none
      else
        decodePoints (adapt (sum - i) size (i == 0)) point (position + 1)
          (label.take position ++ Char.ofNat point :: label.drop position) rest
termination_by s.length
decreasing_by exact length_lt_of_decodeNumber ‹_›

/-- The label that a text without its marker stands for. -/
def decode (s : List Char) : Option (List Char) :=
  let behind := (s.reverse.takeWhile (· != '-')).reverse
  let before := s.take (s.length - behind.length)
  let basic := before.dropLast
  if basic.any fun c => 0x80 ≤ c.toNat then none else decodePoints 72 0x80 0 basic behind

end ImportCensus.Url.Punycode
