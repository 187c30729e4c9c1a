import LinkHarvest.Text.Basic

/-!
# UTF-8

Text as bytes and bytes as text. Bytes are first cut into pieces, each one a character or a run
of bytes that no character starts with; a strict reader refuses the first such run, a lenient one
puts a replacement character in its place, and a skipping one leaves it out. Concatenating the
bytes of the pieces gives the input back.
-/

namespace LinkHarvest

abbrev Bytes := List UInt8

namespace Utf8

/-! ## Writing -/

def encodePoint (n : Nat) : Bytes :=
  if n < 0x80 then [UInt8.ofNat n]
  else if n < 0x800 then [UInt8.ofNat (0xC0 + n / 64), UInt8.ofNat (0x80 + n % 64)]
  else if n < 0x10000 then
    [UInt8.ofNat (0xE0 + n / 4096), UInt8.ofNat (0x80 + n / 64 % 64), UInt8.ofNat (0x80 + n % 64)]
  else
    [UInt8.ofNat (0xF0 + n / 262144), UInt8.ofNat (0x80 + n / 4096 % 64),
      UInt8.ofNat (0x80 + n / 64 % 64), UInt8.ofNat (0x80 + n % 64)]

def encodeChar (c : Char) : Bytes := encodePoint c.toNat

def encode (t : Text) : Bytes := t.flatMap encodeChar

/-! ## Reading -/

/-- What the first byte of a longer character says: the bits it brings, how many bytes follow, and
the range in which the first of these lies. -/
structure Lead where
  bits : Nat
  tails : Nat
  low : Nat
  high : Nat

/-- The reading of a first byte beyond ASCII. -/
def lead? (b : Nat) : Option Lead :=
  if 0xC2 ≤ b ∧ b ≤ 0xDF then some ⟨b - 0xC0, 1, 0x80, 0xBF⟩
  else if b = 0xE0 then some ⟨0, 2, 0xA0, 0xBF⟩
  else if b = 0xED then some ⟨0xD, 2, 0x80, 0x9F⟩
  else if 0xE1 ≤ b ∧ b ≤ 0xEF then some ⟨b - 0xE0, 2, 0x80, 0xBF⟩
  else if b = 0xF0 then some ⟨0, 3, 0x90, 0xBF⟩
  else if b = 0xF4 then some ⟨4, 3, 0x80, 0x8F⟩
  else if 0xF1 ≤ b ∧ b ≤ 0xF3 then some ⟨b - 0xF0, 3, 0x80, 0xBF⟩
  else none

/-- Why a run of bytes starts no character. -/
inductive Fault
  | start
  | continuation
  | ended
  deriving DecidableEq, Repr

def Fault.message : Fault → Text
  | .start => "invalid start byte"
  | .continuation => "invalid continuation byte"
  | .ended => "unexpected end of data"

/-- A piece of a byte sequence: a character, or `count` bytes that start none. -/
inductive Piece
  | char (c : Char) (count : Nat)
  | bad (count : Nat) (fault : Fault)
  deriving DecidableEq, Repr

def Piece.count : Piece → Nat
  | .char _ n => n
  | .bad n _ => n

/-- Reads `tails` more bytes of a character whose first `taken` bytes have the value `value`. -/
def readTails (value taken low high : Nat) : Nat → Bytes → Piece
  | 0, _ => .char (Char.ofNat value) taken
  | _ + 1, [] => .bad taken .ended
  | tails + 1, b :: rest =>
    if low ≤ b.toNat ∧ b.toNat ≤ high then
      readTails (value * 64 + (b.toNat - 0x80)) (taken + 1) 0x80 0xBF tails rest
    else .bad taken .continuation

/-- The piece that starts with the byte `b`. -/
def firstPiece (b : UInt8) (rest : Bytes) : Piece :=
  if b.toNat < 0x80 then .char (Char.ofNat b.toNat) 1
  else
    match lead? b.toNat with
    | none => .bad 1 .start
    | some l => readTails l.bits 1 l.low l.high l.tails rest

/-- The pieces of a byte sequence of which the first `skip` bytes are already accounted for. -/
def piecesAfter : Nat → Bytes → List Piece
  | _, [] => []
  | skip + 1, _ :: rest => piecesAfter skip rest
  | 0, b :: rest =>
    let piece := firstPiece b rest
    piece :: piecesAfter (piece.count - 1) rest

def pieces (bytes : Bytes) : List Piece := piecesAfter 0 bytes

/-- Where and why bytes are not UTF-8: the position and length of the first faulty run. -/
structure Problem where
  byte : UInt8
  position : Nat
  count : Nat
  fault : Fault
  deriving DecidableEq, Repr

def Problem.message (p : Problem) : Text :=
  if p.count = 1 then
    Text.concat ["'utf-8' codec can't decode byte 0x", Text.hex 2 p.byte.toNat, " in position ",
      Text.ofNat p.position, ": ", p.fault.message]
  else
    Text.concat ["'utf-8' codec can't decode bytes in position ", Text.ofNat p.position, "-",
      Text.ofNat (p.position + p.count - 1), ": ", p.fault.message]

/-- The characters of the pieces, or the position, length and fault of the first faulty one. -/
def charsOf (position : Nat) : List Piece → Except (Nat × Nat × Fault) Text
  | [] => .ok []
  | .char c n :: rest => (charsOf (position + n) rest).map (c :: ·)
  | .bad n fault :: _ => .error (position, n, fault)

/-- The text that the bytes encode, or why they encode none. -/
def decode (bytes : Bytes) : Except Problem Text :=
  (charsOf 0 (pieces bytes)).mapError fun (position, count, fault) =>
    ⟨(bytes.drop position).headD 0, position, count, fault⟩

/-- The text that the bytes encode, if they do. -/
def decode? (bytes : Bytes) : Option Text := (decode bytes).toOption

/-- The text of the bytes, with a replacement character for every run that starts no character. -/
def decodeReplacing (bytes : Bytes) : Text :=
  (pieces bytes).map fun
    | .char c _ => c
    | .bad _ _ => '\uFFFD'

/-- The text of the bytes without the runs that start no character. -/
def decodeSkipping (bytes : Bytes) : Text :=
  (pieces bytes).filterMap fun
    | .char c _ => some c
    | .bad _ _ => none

end Utf8

end LinkHarvest
