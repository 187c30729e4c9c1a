import LinkHarvest.Text.Blank
import LinkHarvest.Text.Utf8

/-!
# Base64

The strict base64 form of bytes in either alphabet, and the tolerant reading of panels and
subscription bodies: line breaks inside are dropped, missing padding is restored, and the standard
alphabet is tried before the URL-safe one.
-/

namespace LinkHarvest.Base64

/-- The two spellings of the digits 62 and 63. -/
inductive Alphabet
  | standard
  | urlSafe
  deriving DecidableEq, Repr

/-! ## Writing -/

def Alphabet.digit (a : Alphabet) (n : Nat) : Char :=
  if n < 26 then Char.ofNat (65 + n)
  else if n < 52 then Char.ofNat (71 + n)
  else if n < 62 then Char.ofNat (n - 4)
  else
    match a, n with
    | .standard, 62 => '+'
    | .standard, _ => '/'
    | .urlSafe, 62 => '-'
    | .urlSafe, _ => '_'

def encode (a : Alphabet) : Bytes → Text
  | [] => []
  | [x] => [a.digit (x.toNat / 4), a.digit (x.toNat % 4 * 16), '=', '=']
  | [x, y] =>
    [a.digit (x.toNat / 4), a.digit (x.toNat % 4 * 16 + y.toNat / 16),
      a.digit (y.toNat % 16 * 4), '=']
  | x :: y :: z :: rest =>
    a.digit (x.toNat / 4) :: a.digit (x.toNat % 4 * 16 + y.toNat / 16) ::
      a.digit (y.toNat % 16 * 4 + z.toNat / 64) :: a.digit (z.toNat % 64) :: encode a rest

/-! ## Strict reading -/

/-- The value of a digit. The URL-safe reading also takes the standard digits. -/
def Alphabet.value? (a : Alphabet) (c : Char) : Option Nat :=
  if 'A' ≤ c ∧ c ≤ 'Z' then some (c.toNat - 65)
  else if 'a' ≤ c ∧ c ≤ 'z' then some (c.toNat - 71)
  else if '0' ≤ c ∧ c ≤ '9' then some (c.toNat + 4)
  else if c = '+' then some 62
  else if c = '/' then some 63
  else
    match a with
    | .standard => none
    | .urlSafe => if c = '-' then some 62 else if c = '_' then some 63 else none

/-- The bytes of complete groups of digits; bits left over at the end are dropped. -/
def bytesOf : List Nat → Bytes
  | a :: b :: c :: d :: rest =>
    UInt8.ofNat (a * 4 + b / 16) :: UInt8.ofNat (b % 16 * 16 + c / 4) ::
      UInt8.ofNat (c % 4 * 64 + d) :: bytesOf rest
  | [a, b, c] => [UInt8.ofNat (a * 4 + b / 16), UInt8.ofNat (b % 16 * 16 + c / 4)]
  | [a, b] => [UInt8.ofNat (a * 4 + b / 16)]
  | _ => []

/-- Whether `pads` padding characters may follow `digits` digits. Any number of them may follow
complete groups. -/
def paddingFits (digits pads : Nat) : Bool :=
  match digits % 4 with
  | 0 => pads == 0 || 0 < digits
  | 2 => pads == 2
  | 3 => pads == 1
  | _ => false

/-- The bytes of a base64 text: digits, then padding, and nothing else. -/
def decode? (a : Alphabet) (t : Text) : Option Bytes :=
  let digits := t.takeWhile (· ≠ '=')
  let pads := t.dropWhile (· ≠ '=')
  if pads.all (· = '=') && paddingFits digits.length pads.length then
    (digits.mapM a.value?).map bytesOf
  else none

/-! ## Tolerant reading -/

/-- The text without outer white space and without line breaks. -/
def compact (t : Text) : Text := (Text.trim t).without ['\n', '\r']

/-- The text with as much padding as completes its last group. -/
def completed (t : Text) : Text := t ++ List.replicate ((4 - t.length % 4) % 4) '='

/-- The text that a payload encodes: the first alphabet that gives valid UTF-8. -/
def decodeText? (t : Text) : Option Text :=
  let payload := completed (compact t)
  ((decode? .standard payload).bind Utf8.decode?).orElse fun _ =>
    (decode? .urlSafe payload).bind Utf8.decode?

/-- The text of a whole body, if the body is base64: the first alphabet that gives bytes decides,
and these bytes have to be UTF-8. An empty body is not base64. -/
def decodeBody? (t : Text) : Option Text :=
  let payload := compact t
  if payload.isEmpty then none
  else
    match (decode? .standard (completed payload)).orElse fun _ =>
        decode? .urlSafe (completed payload) with
    | some bytes => Utf8.decode? bytes
    | none => none

end LinkHarvest.Base64
