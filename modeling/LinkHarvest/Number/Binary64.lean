import LinkHarvest.Number.Integer

/-!
# Binary floating point

Floating point numbers of 64 bits as exact values: a sign, a mantissa below `2 ^ 53` and a power of
two. Conversion from a ratio rounds to the nearest such value, and to the even one of two.
-/

namespace LinkHarvest

/-- A floating point number: not a number, an infinity, or `± mantissa * 2 ^ exponent`. -/
inductive Binary64
  | nan
  | infinite (negative : Bool)
  | finite (negative : Bool) (mantissa : Nat) (exponent : Int)
  deriving DecidableEq, Repr

namespace Binary64

/-- The least exponent, that of zero and of the smallest positive value. -/
def minExponent : Int := -1074

/-- The greatest exponent of a finite value. -/
def maxExponent : Int := 971

/-- The ratio `num / (den * 2 ^ e)` as numerator and denominator. -/
def scaled (num den : Nat) (e : Int) : Nat × Nat :=
  if e < 0 then (num * Nat.pow 2 e.natAbs, den) else (num, den * Nat.pow 2 e.natAbs)

/-- The quotient rounded to the nearest natural number, a tie going to the even one. -/
def roundedQuotient (num den : Nat) : Nat :=
  let q := num / den
  let r := num % den
  if den < 2 * r ∨ (den = 2 * r ∧ q % 2 = 1) then q + 1 else q

/-- The exponent at which the positive ratio `num / den` has 53 binary digits, or the least one. -/
def exponentFor (num den : Nat) : Int :=
  let guess : Int := (Nat.log2 num : Int) - Nat.log2 den - 52
  let (n, d) := scaled num den guess
  max minExponent (if n < Nat.pow 2 52 * d then guess - 1 else guess)

/-- The value nearest to the ratio `num / den`. -/
def ofRatio (negative : Bool) (num den : Nat) : Binary64 :=
  if num = 0 then .finite negative 0 minExponent
  else
    let e := exponentFor num den
    let (n, d) := scaled num den e
    let m := roundedQuotient n d
    let (m, e) := if m = Nat.pow 2 53 then (Nat.pow 2 52, e + 1) else (m, e)
    if maxExponent < e then .infinite negative else .finite negative m e

/-- The value nearest to `mantissa * 10 ^ exponent`. Exponents far outside the range are decided
without computing the power. -/
def ofDecimal (negative : Bool) (mantissa : Nat) (exponent : Int) : Binary64 :=
  if mantissa = 0 then .finite negative 0 minExponent
  else
    let size : Int := exponent + (Text.ofNat mantissa).length
    if 400 < size then .infinite negative
    else if size < -400 then .finite negative 0 minExponent
    else if exponent < 0 then ofRatio negative mantissa (Nat.pow 10 exponent.natAbs)
    else ofRatio negative (mantissa * Nat.pow 10 exponent.natAbs) 1

def ofInt (n : Int) : Binary64 := ofRatio (n < 0) n.natAbs 1

/-- Whether the value is zero or less; no comparison holds of what is not a number. -/
def isNonPositive : Binary64 → Bool
  | .nan => false
  | .infinite negative => negative
  | .finite negative m _ => negative || m == 0

/-- Whether the value is neither infinite nor not a number. -/
def isFinite : Binary64 → Bool
  | .finite .. => true
  | _ => false

/-- Whether the value is a zero of either sign. -/
def isZero : Binary64 → Bool
  | .finite _ m _ => m == 0
  | _ => false

/-- The integer that the value is, if it is one. -/
def toInt? : Binary64 → Option Int
  | .finite negative m e =>
    let scale := Nat.pow 2 e.natAbs
    if 0 ≤ e then some (Integer.signed negative (m * scale))
    else if m % scale = 0 then some (Integer.signed negative (m / scale))
    else none
  | _ => none

end Binary64

end LinkHarvest
