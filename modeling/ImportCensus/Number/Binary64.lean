/-
ImportCensus/Number/Binary64.lean

Binary floating-point numbers of 64 bits, as exact data: a finite number is a sign, a whole mantissa
below 2^53 and a power of two.  Nothing here computes with machine floats.

A fraction is rounded to the nearest number, and a tie goes to the even mantissa.  The last binary place
is never below 2^-1074, so small numbers lose digits instead of vanishing at once, and what would need
an exponent above 971 is infinite.
-/

namespace ImportCensus

/-- A number of the binary64 format: `± mantissa · 2 ^ exponent`, an infinity, or no number. -/
inductive Binary64 where
  | finite (negative : Bool) (mantissa : Nat) (exponent : Int)
  | infinite (negative : Bool)
  | notANumber
  deriving DecidableEq, Repr

namespace Binary64

/-- The quotient rounded to the nearest whole number, a tie to the even one. -/
def roundedQuotient (num den : Nat) : Nat :=
  let q := num / den
  let twice := 2 * (num % den)
  if twice < den then q
  else if den < twice then q + 1
  else q + q % 2

/-- The quotient `num / (den · 2 ^ e)` rounded to a whole number. -/
def scaledQuotient (num den : Nat) (e : Int) : Nat :=
  if 0 ≤ e then roundedQuotient num (den * Nat.pow 2 e.toNat)
  else roundedQuotient (num * Nat.pow 2 (-e).toNat) den

/-- The lowest exponent `e` for which `num / den` is below `2 ^ (e + 53)`, but not below -1074. -/
def exponentFor (num den : Nat) : Int :=
  let guess : Int := (num.log2 : Int) - (den.log2 : Int) - 52
  let small :=
    if 0 ≤ guess then num < Nat.pow 2 52 * (den * Nat.pow 2 guess.toNat)
    else num * Nat.pow 2 (-guess).toNat < Nat.pow 2 52 * den
  max (if small then guess - 1 else guess) (-1074)

/-- The number nearest to `num / den`. -/
def ofFraction (negative : Bool) (num den : Nat) : Binary64 :=
  if num = 0 then finite negative 0 0
  else
    let e := exponentFor num den
    let m := scaledQuotient num den e
    let (m, e) := if m = Nat.pow 2 53 then (Nat.pow 2 52, e + 1) else (m, e)
    if 971 < e then infinite negative else finite negative m e

/-- A finite number as a fraction without its sign. -/
def magnitude (mantissa : Nat) (exponent : Int) : Nat × Nat :=
  if 0 ≤ exponent then (mantissa * Nat.pow 2 exponent.toNat, 1)
  else (mantissa, Nat.pow 2 (-exponent).toNat)

/-- The number nearest to `± digits · 10 ^ exponent`. -/
def ofDecimal (negative : Bool) (digits : Nat) (exponent : Int) : Binary64 :=
  if digits = 0 then finite negative 0 0
  else
    let places : Int := (Nat.toDigits 10 digits).length + exponent
    if 310 < places then infinite negative
    else if places < -330 then finite negative 0 0
    else if 0 ≤ exponent then ofFraction negative (digits * Nat.pow 10 exponent.toNat) 1
    else ofFraction negative digits (Nat.pow 10 (-exponent).toNat)

/-- Is the number zero, of either sign? -/
def isZero : Binary64 → Bool
  | finite _ 0 _ => true
  | _ => false

/-- Is the number infinite? -/
def isInfinite : Binary64 → Bool
  | infinite _ => true
  | _ => false

/-- The product of two magnitudes, rounded. -/
def mul (x y : Binary64) : Binary64 :=
  match x, y with
  | finite s m e, finite _ m' e' =>
    let (a, b) := magnitude m e
    let (c, d) := magnitude m' e'
    ofFraction s (a * c) (b * d)
  | x, _ => x

/-- The quotient of two magnitudes, rounded; the divisor is not zero. -/
def div (x y : Binary64) : Binary64 :=
  match x, y with
  | finite s m e, finite _ m' e' =>
    let (a, b) := magnitude m e
    let (c, d) := magnitude m' e'
    ofFraction s (a * d) (b * c)
  | x, _ => x

end Binary64

end ImportCensus
