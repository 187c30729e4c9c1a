import LinkHarvest.Text.Basic

/-!
# Blank characters

The characters that count as white space when a link, a URL or an option is trimmed: the ASCII
and Latin controls for layout, and the space separators of Unicode.
-/

namespace LinkHarvest.Text

def isBlank (c : Char) : Bool :=
  let n := c.toNat
  (9 ≤ n && n ≤ 13) || (28 ≤ n && n ≤ 32) || n == 0x85 || n == 0xA0 || n == 0x1680 ||
    (0x2000 ≤ n && n ≤ 0x200A) || n == 0x2028 || n == 0x2029 || n == 0x202F || n == 0x205F ||
    n == 0x3000

/-- The text without white space at its start. -/
def trimStart (t : Text) : Text := t.dropWhile isBlank

/-- The text without white space at its end. -/
def trimEnd (t : Text) : Text := (t.reverse.dropWhile isBlank).reverse

/-- The text without white space at its ends. -/
def trim (t : Text) : Text := trimEnd (trimStart t)

/-- Whether a text holds white space only. -/
def isBlankText (t : Text) : Bool := t.all isBlank

end LinkHarvest.Text
