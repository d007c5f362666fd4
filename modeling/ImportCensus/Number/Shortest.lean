/-
ImportCensus/Number/Shortest.lean

The text of a binary64 number: the fewest decimal digits that still round to the number, and of those
the nearest.

With 1, 2, … 17 digits the two neighbours of the number on that decimal grid are tried; the first grid
with a neighbour inside the interval of what rounds to the number wins.  The ends of the interval
belong to it if the mantissa is even.  How the digits are laid out is a matter of the format that writes
them: a `Layout` says which exponents are written out.
-/
import ImportCensus.Number.Binary64

namespace ImportCensus

namespace Binary64

/-- A decimal number `digits · 10 ^ exponent`. -/
structure Decimal where
  digits : Nat
  exponent : Int
  deriving DecidableEq, Repr

/-- A decimal number as a fraction. -/
def Decimal.fraction (d : Decimal) : Nat × Nat :=
  if 0 ≤ d.exponent then (d.digits * Nat.pow 10 d.exponent.toNat, 1)
  else (d.digits, Nat.pow 10 (-d.exponent).toNat)

/-- Is the first fraction below the second? -/
def fractionLt (x y : Nat × Nat) : Bool :=
  x.1 * y.2 < y.1 * x.2

/-- The interval of what rounds to `mantissa · 2 ^ exponent`: its two ends.  Below a power of two the
spacing is halved. -/
def roundingInterval (mantissa : Nat) (exponent : Int) : (Nat × Nat) × (Nat × Nat) :=
  let low :=
    if mantissa = Nat.pow 2 52 ∧ -1074 < exponent then magnitude (4 * mantissa - 1) (exponent - 2)
    else magnitude (2 * mantissa - 1) (exponent - 1)
  (low, magnitude (2 * mantissa + 1) (exponent - 1))

/-- Does a decimal number round to `mantissa · 2 ^ exponent`? -/
def rounds (mantissa : Nat) (exponent : Int) (d : Decimal) : Bool :=
  let (low, high) := roundingInterval mantissa exponent
  if mantissa % 2 = 0 then !fractionLt d.fraction low && !fractionLt high d.fraction
  else fractionLt low d.fraction && fractionLt d.fraction high

/-- The exponent of the first digit of a fraction. -/
def leadingExponent (x : Nat × Nat) : Int :=
  if x.2 ≤ x.1 then ((Nat.toDigits 10 (x.1 / x.2)).length : Int) - 1
  else
    let guess : Int := (Nat.toDigits 10 x.1).length - (Nat.toDigits 10 x.2).length
    if fractionLt x (Decimal.fraction ⟨1, guess⟩) then guess - 1 else guess

/-- The distance of a decimal number from a fraction, scaled by both denominators. -/
def distance (x : Nat × Nat) (d : Decimal) : Nat :=
  let y := d.fraction
  (y.1 * x.2 - x.1 * y.2) + (x.1 * y.2 - y.1 * x.2)

/-- The whole number of steps of `10 ^ exponent` in a fraction. -/
def stepsIn (x : Nat × Nat) (exponent : Int) : Nat :=
  if 0 ≤ exponent then x.1 / (x.2 * Nat.pow 10 exponent.toNat)
  else x.1 * Nat.pow 10 (-exponent).toNat / x.2

/-- The nearest decimal number of `places` digits that rounds to `mantissa · 2 ^ exponent`; of two that
are equally near, the one with the even last digit. -/
def candidate (mantissa : Nat) (exponent : Int) (places : Nat) : Option Decimal :=
  let x := magnitude mantissa exponent
  let last := leadingExponent x - places + 1
  let below : Decimal := ⟨stepsIn x last, last⟩
  let above : Decimal := ⟨below.digits + 1, last⟩
  match rounds mantissa exponent below, rounds mantissa exponent above with
  | true, true =>
    let b := distance x below
    let a := distance x above
    if a < b then some above
    else if b < a then some below
    else if below.digits % 2 = 0 then some below else some above
  | true, false => some below
  | false, true => some above
  | false, false => none

/-- The fewest digits that read back; 17 digits always do. -/
def shortest (mantissa : Nat) (exponent : Int) : Decimal :=
  ((List.range 17).findSome? fun n => candidate mantissa exponent (n + 1)).getD ⟨0, 0⟩

/-! ### Layout -/

/-- How a format writes its numbers: the exponents of the first digit that are written positionally,
and whether a whole number keeps a `.0` there. -/
structure Layout where
  /-- Smallest exponent of the first digit that is written without an exponent part. -/
  lowest : Int
  /-- Largest such exponent. -/
  highest : Int

/-- Every number without an exponent part. -/
def Layout.positional : Layout :=
  ⟨-400, 400⟩

/-- An exponent part below 10^-4 and from 10^16 on. -/
def Layout.scientific : Layout :=
  ⟨-4, 15⟩

/-- A digit string without the zeros at its end. -/
def dropTrailingZeros (cs : List Char) : List Char :=
  (cs.reverse.dropWhile (· == '0')).reverse

/-- The exponent part: the letter, the sign, and at least two digits. -/
def exponentPart (e : Int) : List Char :=
  let digits := Nat.toDigits 10 e.natAbs
  let padded := if digits.length < 2 then '0' :: digits else digits
  'e' :: (if e < 0 then '-' else '+') :: padded

/-- The digits of a number whose first digit has exponent `e`. -/
def layOut (layout : Layout) (digits : List Char) (e : Int) : List Char :=
  if layout.lowest ≤ e ∧ e ≤ layout.highest then
    if 0 ≤ e then
      let whole := e.toNat + 1
      let padded := digits ++ List.replicate (whole - digits.length) '0'
      let fraction := padded.drop whole
      padded.take whole ++ '.' :: (if fraction.isEmpty then ['0'] else fraction)
    else
      '0' :: '.' :: List.replicate ((-e).toNat - 1) '0' ++ digits
  else
    match digits with
    | [d] => d :: exponentPart e
    | d :: ds => d :: '.' :: ds ++ exponentPart e
    | [] => []

/-- The text of a number. -/
def toText (layout : Layout) (x : Binary64) : String :=
  match x with
  | notANumber => "NaN"
  | infinite negative => if negative then "-inf" else "inf"
  | finite negative mantissa exponent =>
    let body :=
      if mantissa = 0 then "0.0".toList
      else
        let d := shortest mantissa exponent
        let digits := Nat.toDigits 10 d.digits
        layOut layout (dropTrailingZeros digits) (d.exponent + digits.length - 1)
    String.ofList (if negative then '-' :: body else body)

end Binary64

end ImportCensus
