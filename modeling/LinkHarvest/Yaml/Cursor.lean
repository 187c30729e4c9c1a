import LinkHarvest.Text.Basic

/-!
# Places in a YAML text

A cursor is a place in a text: what follows it, and the line, the column and the number of
characters before it. Behind the end of the text only the character NUL is seen, which no text
holds.
-/

namespace LinkHarvest.Yaml

def isBreak (c : Char) : Bool :=
  c == '\n' || c == '\u0085' || c == '\u2028' || c == '\u2029'

/-- Whether a character ends a line or the text. -/
def isLineEnd (c : Char) : Bool := isBreak c || c == '\x00'

/-- Whether a character is a blank, a tab, or ends a line or the text. -/
def isGap (c : Char) : Bool := isLineEnd c || c == ' ' || c == '\t'

/-- A place in a text. -/
structure Cursor where
  rest : Text
  index : Nat
  line : Nat
  column : Nat
  deriving DecidableEq, Repr

namespace Cursor

def start (t : Text) : Cursor := ⟨t, 0, 0, 0⟩

def peek (c : Cursor) : Char := c.rest.headD '\x00'

/-- The character that follows the next `n` ones. -/
def peekAt (c : Cursor) (n : Nat) : Char := c.rest.getD n '\x00'

/-- The place behind the next character. A byte order mark takes up no column. -/
def advance (c : Cursor) : Cursor :=
  match c.rest with
  | [] => c
  | x :: rest =>
    if isBreak x then ⟨rest, c.index + 1, c.line + 1, 0⟩
    else ⟨rest, c.index + 1, c.line, if x = '\uFEFF' then c.column else c.column + 1⟩

/-- The place behind the next `n` characters. -/
def advanceBy (c : Cursor) : Nat → Cursor
  | 0 => c
  | n + 1 => (c.advance).advanceBy n

/-- The characters from here on that satisfy `p`, up to the first that does not. -/
def run (p : Char → Bool) (c : Cursor) : Text := c.rest.takeWhile p

/-- The place behind the characters that satisfy `p`. -/
def skip (p : Char → Bool) (c : Cursor) : Cursor := c.advanceBy (c.run p).length

def skipBlanks (c : Cursor) : Cursor := c.skip (· == ' ')

/-- The place behind blanks in front of the given column. -/
def skipIndent (column : Nat) (c : Cursor) : Cursor :=
  c.advanceBy (min (column - c.column) (c.run (· == ' ')).length)

/-- The place behind a comment, if one starts here. -/
def skipComment (c : Cursor) : Cursor :=
  if c.peek = '#' then c.skip fun x => !isLineEnd x else c

/-- The line break that starts here, and the place behind it. Next line counts as a line feed. -/
def lineBreak? (c : Cursor) : Option (Char × Cursor) :=
  if isBreak c.peek then some (if c.peek = '\u0085' then '\n' else c.peek, c.advance) else none

/-- Whether the three given characters stand here as a word of their own. -/
def atMarker (marker : Text) (c : Cursor) : Bool :=
  c.rest.take 3 == marker && isGap (c.peekAt 3)

/-- Whether the start or the end of a document stands here. -/
def atDocumentMark (c : Cursor) : Bool := c.atMarker "---" || c.atMarker "..."

/-- Whether nothing but blanks and a comment is left on this line. -/
def restIsIgnored (c : Cursor) : Bool := isLineEnd c.skipBlanks.skipComment.peek

/-- The place behind the rest of this line. -/
def nextLine (c : Cursor) : Cursor := c.skipBlanks.skipComment.advance

end Cursor

end LinkHarvest.Yaml
