import LinkHarvest.Number.Binary64
import LinkHarvest.Number.Integer

/-!
# Decimal numbers in text

A number as options and documents write it: an optional sign, digits with at most one point among
or beside them, and an optional exponent; or one of the words for the infinities and for what is
not a number.
-/

namespace LinkHarvest.Decimal

/-- The digits at the start of a text and what follows them. -/
def spanDigits (t : Text) : Text × Text := (t.takeWhile Char.isDigit, t.dropWhile Char.isDigit)

/-- The number that a text of digits writes. -/
def ofDigits (t : Text) : Nat := Text.ofDigits 10 (t.filterMap Text.digit?)

/-- The exponent that a text writes; an empty text writes zero. -/
def exponent? (t : Text) : Option Int :=
  match t with
  | [] => some 0
  | c :: rest =>
    if c = 'e' ∨ c = 'E' then
      let (negative, digits) := Integer.sign rest
      if digits.isEmpty || !digits.all Char.isDigit then none
      else some (Integer.signed negative (ofDigits digits))
    else none

def magnitude? (negative : Bool) (t : Text) : Option Binary64 :=
  let (whole, rest) := spanDigits t
  let (fraction, rest) :=
    match rest with
    | '.' :: more => spanDigits more
    | _ => ([], rest)
  if whole.isEmpty && fraction.isEmpty then none
  else
    (exponent? rest).map fun e =>
      .ofDecimal negative (ofDigits (whole ++ fraction)) (e - fraction.length)

/-- Reads a number; the words may stand in any letter case. -/
def read? (t : Text) : Option Binary64 :=
  let (negative, rest) := Integer.sign t
  let word := String.ofList (rest.map Char.toLower)
  if word = "inf" ∨ word = "infinity" then some (.infinite negative)
  else if word = "nan" then some .nan
  else magnitude? negative rest

end LinkHarvest.Decimal
