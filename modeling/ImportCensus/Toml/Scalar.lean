/-
ImportCensus/Toml/Scalar.lean

Values without quotes and brackets: truth values, whole numbers to four bases, floating-point numbers,
and dates and times.  An underscore may stand between two digits.
-/
import ImportCensus.Text.Hex
import ImportCensus.Timestamp
import ImportCensus.Toml.Item

namespace ImportCensus.Toml

open Text

/-! ### Digits -/

/-- The digits of a run in which an underscore may stand between two digits; there is one at least. -/
def digits? (isDigit : Char → Bool) : List Char → Option (List Char)
  | [] => none
  | [c] => if isDigit c then some [c] else none
  | c :: '_' :: r => if isDigit c then (digits? isDigit r).map (c :: ·) else none
  | c :: r => if isDigit c then (digits? isDigit r).map (c :: ·) else none

/-- The value of digits to a base. -/
def valueOf (base : Nat) (digits : List Char) : Nat :=
  digits.foldl (fun n c => base * n + (hexValue? c).getD 0) 0

/-- Is a character a digit to a base? -/
def isDigitTo (base : Nat) (c : Char) : Bool :=
  (hexValue? c).any (· < base)

/-- The digits of a whole number in decimal: no zero leads unless it is the only digit. -/
def wholeDigits? (s : List Char) : Option (List Char) :=
  (digits? Char.isDigit s).filter fun ds => ds.head? != some '0' || ds.length == 1

/-- A sign and what it stands before. -/
def splitSign (s : List Char) : Bool × List Char :=
  match s with
  | '+' :: r => (false, r)
  | '-' :: r => (true, r)
  | s => (false, s)

/-! ### Numbers -/

/-- A whole number with the mark of its base, or in decimal with a sign if there is one. -/
def integer? (s : List Char) : Option Int :=
  match s with
  | '0' :: 'x' :: r => (digits? (isDigitTo 16) r).map fun ds => valueOf 16 ds
  | '0' :: 'o' :: r => (digits? (isDigitTo 8) r).map fun ds => valueOf 8 ds
  | '0' :: 'b' :: r => (digits? (isDigitTo 2) r).map fun ds => valueOf 2 ds
  | s =>
    let (negative, r) := splitSign s
    (wholeDigits? r).map fun ds =>
      if negative then -(valueOf 10 ds : Int) else (valueOf 10 ds : Int)

/-- The largest magnitudes of whole numbers: those of 128 bits, signed or not. -/
def isSizable (n : Int) : Bool :=
  decide (-(Nat.pow 2 127 : Nat) ≤ n ∧ n < (Nat.pow 2 128 : Nat))

/-- Is a character the letter of an exponent? -/
def isExponentLetter (c : Char) : Bool :=
  c == 'e' || c == 'E'

/-- An exponent behind its letter. -/
def exponent? (s : List Char) : Option Int :=
  let (negative, r) := splitSign s
  (digits? Char.isDigit r).map fun ds =>
    if negative then -(valueOf 10 ds : Int) else (valueOf 10 ds : Int)

/-- A number in decimal with a fraction or an exponent. -/
def decimal? (negative : Bool) (s : List Char) : Option Binary64 := do
  let mantissa := s.takeWhile (!isExponentLetter ·)
  let whole := mantissa.takeWhile (· != '.')
  let e ←
    match s.drop mantissa.length with
    | [] => some 0
    | _ :: r => exponent? r
  let wholeDs ← wholeDigits? whole
  let fractionDs ←
    match mantissa.drop whole.length with
    | [] => if mantissa.length = s.length then none else some []
    | _ :: r => digits? Char.isDigit r
  return .ofDecimal negative (valueOf 10 (wholeDs ++ fractionDs)) (e - (fractionDs.length : Int))

/-- A floating-point number. -/
def float? (s : List Char) : Option Binary64 :=
  let (negative, r) := splitSign s
  if r = "inf".toList then some (.infinite negative)
  else if r = "nan".toList then some .notANumber
  else decimal? negative r

/-! ### Dates and times -/

/-- Is this an offset of at most a day, or nothing? -/
def isOffset (s : List Char) : Bool :=
  match s with
  | [] | ['Z'] | ['z'] => true
  | [sign, h₁, h₂, ':', m₁, m₂] =>
    match Timestamp.number? [h₁, h₂], Timestamp.number? [m₁, m₂] with
    | some hour, some minute => (sign == '+' || sign == '-') && hour * 60 + minute ≤ 24 * 60
    | _, _ => false
  | _ => false

/-- Is this what may follow the seconds: a fraction if there is one, and an offset if allowed? -/
def isSecondsTail (offset : Bool) (s : List Char) : Bool :=
  let rest :=
    match s with
    | '.' :: c :: r => if c.isDigit then r.dropWhile Char.isDigit else s
    | s => s
  if offset then isOffset rest else rest.isEmpty

/-- Is this a time of day?  Seconds may be left out. -/
def isTimeOfDay (offset : Bool) (s : List Char) : Bool :=
  match s with
  | h₁ :: h₂ :: ':' :: m₁ :: m₂ :: r =>
    match Timestamp.number? [h₁, h₂], Timestamp.number? [m₁, m₂] with
    | some hour, some minute =>
      match r with
      | ':' :: s₁ :: s₂ :: tail =>
        match Timestamp.number? [s₁, s₂] with
        | some second => Timestamp.isTime hour minute second && isSecondsTail offset tail
        | none => false
      | r => Timestamp.isTime hour minute 0 && (if offset then isOffset r else r.isEmpty)
    | _, _ => false
  | _ => false

/-- The length of a date in digits and hyphens. -/
def dateLength : Nat :=
  10

/-- Is this a date? -/
def isDate (s : List Char) : Bool :=
  match s with
  | [y₁, y₂, y₃, y₄, '-', m₁, m₂, '-', d₁, d₂] =>
    match Timestamp.number? [y₁, y₂, y₃, y₄], Timestamp.number? [m₁, m₂],
      Timestamp.number? [d₁, d₂] with
    | some year, some month, some day => Timestamp.isDate year month day
    | _, _, _ => false
  | _ => false

/-- Is this a date, a time, or a date with a time? -/
def isMoment (s : List Char) : Bool :=
  isTimeOfDay false s || isDate s ||
    (isDate (s.take dateLength) &&
      match s.drop dateLength with
      | c :: r => Timestamp.isSeparator c && isTimeOfDay true r
      | [] => false)

/-! ### Reading -/

/-- Does a character belong to a value without quotes? -/
def isScalarChar (c : Char) : Bool :=
  c.isAlphanum || c == '+' || c == '-' || c == '_' || c == '.' || c == ':'

/-- The characters of a value without quotes.  A blank behind a date belongs to it if a digit follows. -/
def scalarChars (s : List Char) : List Char :=
  let first := s.takeWhile isScalarChar
  match s.drop first.length with
  | ' ' :: c :: r =>
    if isDate first ∧ c.isDigit then first ++ ' ' :: (c :: r).takeWhile isScalarChar else first
  | _ => first

/-- A value without quotes and brackets. -/
def readScalar (s : List Char) : Except Fault (Item × List Char) :=
  let chars := scalarChars s
  let rest := s.drop chars.length
  let span := Span.between s rest
  if chars = [] then fail .expectedValue s
  else if chars = "true".toList then .ok (.bool span true, rest)
  else if chars = "false".toList then .ok (.bool span false, rest)
  else
    match integer? chars with
    | some n => if isSizable n then .ok (.int span n, rest) else fail .numberTooLarge s
    | none =>
      match float? chars with
      | some x =>
        if x.isInfinite && !(chars.contains 'n') then fail .numberTooLarge s
        else .ok (.float span x, rest)
      | none => if isMoment chars then .ok (.moment span, rest) else fail .badScalar s

end ImportCensus.Toml
