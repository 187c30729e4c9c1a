import LinkHarvest.Text.Utf8

/-!
# Percent escapes

Reading and writing of `%XX` escapes. Escapes stand for bytes; the bytes of each run of ASCII
characters are read as UTF-8 on their own, so a character beyond ASCII ends a run. A strict
reading gives the text back as it was when an escape is malformed or a run is not UTF-8.
-/

namespace LinkHarvest.Percent

/-! ## Reading -/

/-- The byte that an escape's two digits write. -/
def escapedByte? (high low : Char) : Option UInt8 :=
  match Text.hexDigit? high, Text.hexDigit? low with
  | some h, some l => some (UInt8.ofNat (h * 16 + l))
  | _, _ => none

/-- Whether some percent sign is not followed by two hexadecimal digits. -/
def hasBadEscape : Text → Bool
  | [] => false
  | '%' :: a :: b :: rest => (escapedByte? a b).isNone || hasBadEscape (a :: b :: rest)
  | '%' :: _ => true
  | _ :: rest => hasBadEscape rest

/-- Decodes a text whose current ASCII run has given the bytes `run`, last first. -/
def decodeRuns (read : Bytes → Option Text) (run : Bytes) : Text → Option Text
  | [] => read run.reverse
  | '%' :: a :: b :: rest =>
    match escapedByte? a b with
    | some byte => decodeRuns read (byte :: run) rest
    | none => decodeRuns read (0x25 :: run) (a :: b :: rest)
  | c :: rest =>
    if c.toNat < 128 then decodeRuns read (UInt8.ofNat c.toNat :: run) rest
    else do
      let start ← read run.reverse
      let more ← decodeRuns read [] rest
      return start ++ c :: more

/-- The text with its escapes decoded; broken UTF-8 gives replacement characters, and a percent
sign that starts no escape stays. -/
def decodeReplacing (t : Text) : Text :=
  (decodeRuns (fun bytes => some (Utf8.decodeReplacing bytes)) [] t).getD t

/-- The text with its escapes decoded, or the text itself when an escape is malformed or does not
give UTF-8. -/
def unescape (t : Text) : Text :=
  if hasBadEscape t then t else (decodeRuns Utf8.decode? [] t).getD t

/-! ## Writing -/

/-- The upper-case hexadecimal digit with the value `n`. -/
def hexDigit (n : Nat) : Char := if n < 10 then Char.ofNat (48 + n) else Char.ofNat (55 + n)

def escapeByte (b : UInt8) : Text := ['%', hexDigit (b.toNat / 16), hexDigit (b.toNat % 16)]

/-- The escapes of all bytes of a character. -/
def escapeChar (c : Char) : Text := (Utf8.encodeChar c).flatMap escapeByte

/-- The characters that a component never needs to escape. -/
def isUnreserved (c : Char) : Bool := c.isAlphanum || "-._~".toList.contains c

/-- The text with every character escaped that is not kept. -/
def escape (keep : Char → Bool) (t : Text) : Text :=
  t.flatMap fun c => if keep c then [c] else escapeChar c

/-- As `escape`, but leaving the escapes that the text already holds. -/
def escapeOnce (keep : Char → Bool) : Text → Text
  | [] => []
  | '%' :: a :: b :: rest =>
    if (escapedByte? a b).isSome then '%' :: a :: b :: escapeOnce keep rest
    else (if keep '%' then ['%'] else escapeChar '%') ++ escapeOnce keep (a :: b :: rest)
  | c :: rest => (if keep c then [c] else escapeChar c) ++ escapeOnce keep rest

end LinkHarvest.Percent
