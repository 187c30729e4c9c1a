/-!
# Text

Text is the list of its characters. This module holds the ways in which the library cuts text at
a delimiter and puts it together again; everything else about text builds on them.
-/

namespace LinkHarvest

abbrev Text := List Char

/-- A string literal may stand where text is expected. -/
instance : Coe String Text := ⟨String.toList⟩

namespace Text

/-! ## Cutting -/

/-- Cuts at the first `sep`: what stands before it and, if `sep` occurs, what follows it. -/
def cut (sep : Char) : Text → Text × Option Text
  | [] => ([], none)
  | c :: rest =>
    if c = sep then ([], some rest)
    else ((c :: (cut sep rest).1), (cut sep rest).2)

/-- Cuts at the last `sep`; nothing when `sep` does not occur. -/
def cutLast (sep : Char) : Text → Option (Text × Text)
  | [] => none
  | c :: rest =>
    match cutLast sep rest with
    | some (before, after) => some (c :: before, after)
    | none => if c = sep then some ([], rest) else none

/-- Cuts at the first occurrence of the text `sep`; nothing when it does not occur. -/
def cutAt (sep : Text) : Text → Option (Text × Text)
  | [] => if sep.isEmpty then some ([], []) else none
  | c :: rest =>
    if sep.isPrefixOf (c :: rest) then some ([], (c :: rest).drop sep.length)
    else (cutAt sep rest).map fun (before, after) => (c :: before, after)

/-- The part before the first `sep`, or the whole text. -/
def before (sep : Char) (t : Text) : Text := (cut sep t).1

/-- The part after the first `sep`, or nothing at all. -/
def after (sep : Char) (t : Text) : Text := (cut sep t).2.getD []

/-- The pieces between the occurrences of `sep`; there is always at least one. -/
def split (sep : Char) : Text → List Text
  | [] => [[]]
  | c :: rest =>
    if c = sep then [] :: split sep rest
    else
      match split sep rest with
      | [] => [[c]]
      | piece :: more => (c :: piece) :: more

/-- The pieces put together with `sep` between them. -/
def joined (sep : Text) (pieces : List Text) : Text := sep.intercalate pieces

def concat (pieces : List Text) : Text := pieces.flatten

def startsWith (t p : Text) : Bool := p.isPrefixOf t

def endsWith (t p : Text) : Bool := p.isSuffixOf t

/-- The text without the listed characters. -/
def without (t unwanted : Text) : Text := t.filter fun c => !unwanted.contains c

def isAscii (t : Text) : Bool := t.all fun c => c.toNat < 128

/-! ## Numerals -/

/-- The decimal numeral of a natural number. -/
def ofNat (n : Nat) : Text := Nat.toDigits 10 n

/-- The decimal numeral of an integer, with a leading minus sign when it is negative. -/
def ofInt (n : Int) : Text := if n < 0 then '-' :: ofNat n.natAbs else ofNat n.natAbs

/-- The numeral of `n`, filled with zeros on the left up to `width` characters. -/
def padded (width n : Nat) : Text :=
  List.replicate (width - (ofNat n).length) '0' ++ ofNat n

/-- The lower-case hexadecimal numeral of `n`, filled with zeros on the left up to `width`. -/
def hex (width n : Nat) : Text :=
  List.replicate (width - (Nat.toDigits 16 n).length) '0' ++ Nat.toDigits 16 n

def digit? (c : Char) : Option Nat := if c.isDigit then some (c.toNat - 48) else none

/-- The value of a hexadecimal digit of either case. -/
def hexDigit? (c : Char) : Option Nat :=
  if '0' ≤ c ∧ c ≤ '9' then some (c.toNat - 48)
  else if 'a' ≤ c ∧ c ≤ 'f' then some (c.toNat - 87)
  else if 'A' ≤ c ∧ c ≤ 'F' then some (c.toNat - 55)
  else none

/-- The number that a list of digits in the given base writes. -/
def ofDigits (base : Nat) (digits : List Nat) : Nat :=
  digits.foldl (fun n d => n * base + d) 0

end Text

end LinkHarvest
