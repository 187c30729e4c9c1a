import LinkHarvest.Text.Blank
import LinkHarvest.Text.Digit
import LinkHarvest.Text.Quoted

/-!
# Integers in text

How an integer is written in links, options and documents: white space around it, an optional
sign, and digits of any script with single underscores between them. A numeral of more than
`digitLimit` digits is refused.
-/

namespace LinkHarvest.Integer

/-- The greatest number of digits that a decimal numeral may have. -/
def digitLimit : Nat := 4300

/-- Why a text is no integer. -/
inductive Problem
  | malformed (base : Nat) (t : Text)
  | tooLong (digits : Nat)
  deriving DecidableEq, Repr

def Problem.message : Problem → Text
  | .malformed base t =>
    Text.concat ["invalid literal for int() with base ", Text.ofNat base, ": ", Text.quoted t]
  | .tooLong digits =>
    Text.concat ["Exceeds the limit (4300 digits) for integer string conversion: value has ",
      Text.ofNat digits, " digits; use sys.set_int_max_str_digits() to increase the limit"]

/-- Whether the decimal numeral of an integer has too many digits to be written. -/
def isTooLong (n : Int) : Bool := digitLimit < (Text.ofNat n.natAbs).length

def tooLongMessage : Text :=
  Text.concat ["Exceeds the limit (4300 digits) for integer string conversion; ",
    "use sys.set_int_max_str_digits() to increase the limit"]

/-- The white space that may stand around an integer. The information separators are left out. -/
def isMargin (c : Char) : Bool := Text.isBlank c && !(28 ≤ c.toNat && c.toNat ≤ 31)

def trimMargins (t : Text) : Text :=
  ((t.dropWhile isMargin).reverse.dropWhile isMargin).reverse

/-- The digits of a numeral after its first digit: an underscore has to be followed by a digit. -/
def moreDigits? (digit? : Char → Option Nat) : Text → Option (List Nat)
  | [] => some []
  | '_' :: c :: rest => do return (← digit? c) :: (← moreDigits? digit? rest)
  | c :: rest => do return (← digit? c) :: (← moreDigits? digit? rest)

/-- The digits of a numeral, of which there is at least one. -/
def digits? (digit? : Char → Option Nat) : Text → Option (List Nat)
  | [] => none
  | c :: rest => do return (← digit? c) :: (← moreDigits? digit? rest)

/-- The sign of a text and what follows it. -/
def sign : Text → Bool × Text
  | '-' :: rest => (true, rest)
  | '+' :: rest => (false, rest)
  | t => (false, t)

/-- An integer from its sign and absolute value. -/
def signed (negative : Bool) (n : Nat) : Int := if negative then -(n : Int) else n

def read (t : Text) : Except Problem Int :=
  let (negative, numeral) := sign (trimMargins t)
  match digits? Text.anyDigit? numeral with
  | none => .error (.malformed 10 t)
  | some digits =>
    if digitLimit < digits.length then .error (.tooLong digits.length)
    else .ok (signed negative (Text.ofDigits 10 digits))

/-! ## Other bases -/

/-- The value of a digit in a base: of any script up to nine, and of the Latin alphabet above. -/
def digitIn? (base : Nat) (c : Char) : Option Nat :=
  let value? :=
    if c.isAlpha then some (c.toLower.toNat - 87) else Text.anyDigit? c
  value?.bind fun n => if n < base then some n else none

/-- The letter that may mark a base, behind a zero at the start of a numeral. -/
def baseMark? : Nat → Option Char
  | 2 => some 'b'
  | 8 => some 'o'
  | 16 => some 'x'
  | _ => none

/-- A numeral without the mark of its base. -/
def withoutBaseMark (base : Nat) (t : Text) : Text :=
  match t with
  | '0' :: c :: rest => if baseMark? base = some c.toLower then rest else t
  | _ => t

/-- Reads an integer in a base that is a power of two; there is no limit to its digits. -/
def readIn (base : Nat) (t : Text) : Except Problem Int :=
  let (negative, numeral) := sign (trimMargins t)
  match digits? (digitIn? base) (withoutBaseMark base numeral) with
  | none => .error (.malformed base t)
  | some digits => .ok (signed negative (Text.ofDigits base digits))

/-- Reads a decimal integer, if the text is one. -/
def read? (t : Text) : Option Int := (read t).toOption

end LinkHarvest.Integer
