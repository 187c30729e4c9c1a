import LinkHarvest.Number.Binary64

/-!
# Shortest decimals

The text of a floating point number: the fewest decimal digits that read back as the same value,
and of several such numerals the nearest. A numeral is positional while its point stands between
the fourth place after zero and the sixteenth before it, and has an exponent otherwise.
-/

namespace LinkHarvest.Binary64

def decimalLe (x : Nat) (k : Int) (y : Nat) (e : Int) : Bool :=
  x * Nat.pow 10 k.toNat * Nat.pow 2 (-e).toNat ≤ y * Nat.pow 2 e.toNat * Nat.pow 10 (-k).toNat

def decimalLt (x : Nat) (k : Int) (y : Nat) (e : Int) : Bool :=
  x * Nat.pow 10 k.toNat * Nat.pow 2 (-e).toNat < y * Nat.pow 2 e.toNat * Nat.pow 10 (-k).toNat

/-- Whether the decimal `x * 10 ^ k` rounds to `m * 2 ^ e`: it lies between the midpoints to the two
neighbours, which themselves belong to the value with the even mantissa. -/
def readsBack (x : Nat) (k : Int) (m : Nat) (e : Int) : Bool :=
  let low := if m = Nat.pow 2 52 ∧ minExponent < e then 4 * m - 1 else 4 * m - 2
  let high := 4 * m + 2
  if m % 2 = 0 then !decimalLt x k low (e - 2) && decimalLe x k high (e - 2)
  else !decimalLe x k low (e - 2) && decimalLt x k high (e - 2)

/-- The number of decimal digits of a natural number. -/
def digitCount (n : Nat) : Nat := (Text.ofNat n).length

/-- The power of ten at or below the positive ratio `num / den`. -/
def leadingPower (num den : Nat) : Int :=
  if den ≤ num then (digitCount (num / den) : Int) - 1
  else
    let j := digitCount (den / num) - 1
    if den ≤ num * Nat.pow 10 j then -(j : Int) else -(j : Int) - 1

/-- The numeral with `n` digits that reads back as `m * 2 ^ e` and is nearest to it, if one of the
two neighbours on that grid does. -/
def numeral? (m : Nat) (e : Int) (power : Int) (n : Nat) : Option (Nat × Int) :=
  let k := power - (n : Int) + 1
  let num := m * Nat.pow 2 e.toNat * Nat.pow 10 (-k).toNat
  let den := Nat.pow 2 (-e).toNat * Nat.pow 10 k.toNat
  let d := num / den
  match readsBack d k m e, readsBack (d + 1) k m e with
  | true, false => some (d, k)
  | false, true => some (d + 1, k)
  | true, true =>
    if 2 * num < (2 * d + 1) * den ∨ (2 * num = (2 * d + 1) * den ∧ d % 2 = 0) then some (d, k)
    else some (d + 1, k)
  | false, false => none

/-- The numeral with the fewest digits for `m * 2 ^ e`. -/
def shortest (m : Nat) (e : Int) : Nat × Int :=
  let power := leadingPower (m * Nat.pow 2 e.toNat) (Nat.pow 2 (-e).toNat)
  ((List.range' 1 17).findSome? (numeral? m e power)).getD (m, 0)

def withoutTrailingZeros (digits : Text) : Text := (digits.reverse.dropWhile (· = '0')).reverse

/-- Lays digits out, the decimal point standing `point` places after their start. -/
def layout (digits : Text) (point : Int) : Text :=
  if -4 < point ∧ point ≤ 16 then
    if point ≤ 0 then "0." ++ List.replicate point.natAbs '0' ++ digits
    else if digits.length ≤ point.toNat then
      digits ++ List.replicate (point.toNat - digits.length) '0' ++ ['.', '0']
    else digits.take point.toNat ++ ['.'] ++ digits.drop point.toNat
  else
    let exponent := point - 1
    digits.take 1 ++ (if digits.length ≤ 1 then [] else '.' :: digits.drop 1) ++ ['e'] ++
      [if exponent < 0 then '-' else '+'] ++ Text.padded 2 exponent.natAbs

def magnitudeText (m : Nat) (e : Int) : Text :=
  let (d, k) := shortest m e
  let digits := Text.ofNat d
  layout (withoutTrailingZeros digits) (digits.length + k)

def text : Binary64 → Text
  | .nan => "nan"
  | .infinite negative => if negative then "-inf" else "inf"
  | .finite negative m e =>
    (if negative then ['-'] else []) ++ (if m = 0 then "0.0".toList else magnitudeText m e)

end LinkHarvest.Binary64
