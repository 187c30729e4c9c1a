import LinkHarvest.Text.Basic
import LinkHarvest.Text.Printable

/-!
# Quoted text

How a message quotes a value: between single quotes, or between double quotes when the value
holds a single quote and no double one, with escapes for the quote in use, the backslash and
every character that cannot be printed.
-/

namespace LinkHarvest.Text

/-- The escape of a code point that is not printed as it is. -/
def numericEscape (n : Nat) : Text :=
  if n < 0x100 then "\\x" ++ hex 2 n
  else if n < 0x10000 then "\\u" ++ hex 4 n
  else "\\U" ++ hex 8 n

/-- A character as it stands between `quote` marks. -/
def quotedChar (quote c : Char) : Text :=
  if c = quote ∨ c = '\\' then ['\\', c]
  else if c = '\t' then "\\t"
  else if c = '\n' then "\\n"
  else if c = '\r' then "\\r"
  else if isPrintable c then [c]
  else numericEscape c.toNat

def quoteMark (t : Text) : Char := if t.contains '\'' && !t.contains '"' then '"' else '\''

def quoted (t : Text) : Text :=
  let mark := quoteMark t
  mark :: t.flatMap (quotedChar mark) ++ [mark]

end LinkHarvest.Text
