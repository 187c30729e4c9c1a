import LinkHarvest.Text.Percent
import LinkHarvest.Yaml.Scalar

/-!
# Tokens of a YAML text

The pieces of which a YAML text consists, and how each of those with a content of its own is read:
directives, anchors, aliases and tags. The structure that indentation gives to a text shows in
tokens that mark where a block starts and ends.
-/

namespace LinkHarvest.Yaml

/-- A tag as it is written: a handle, if it has one, and what follows it. -/
structure WrittenTag where
  handle : Option Text
  suffix : Text
  deriving DecidableEq, Repr

/-- A directive: a version, the meaning of a handle, or anything else. -/
inductive Directive
  | version (major : Nat)
  | handle (name meaning : Text)
  | other
  deriving DecidableEq, Repr

/-- A piece of a text. A broken piece ends it. -/
inductive Token
  | directive (d : Directive)
  | documentStart
  | documentEnd
  | blockSequence
  | blockMapping
  | blockEnd
  | openBracket
  | closeBracket
  | openBrace
  | closeBrace
  | entry
  | comma
  | key
  | value
  | alias (name : Text)
  | anchor (name : Text)
  | tag (t : WrittenTag)
  | scalar (plain : Bool) (t : LooseText)
  | finish
  | broken (problem : Problem)
  deriving DecidableEq, Repr

/-- Whether a character may stand in the name of an anchor, a handle or a directive. -/
def isNameChar (c : Char) : Bool := c.isAlphanum || c == '-' || c == '_'

def require (condition : Bool) : Except Problem Unit :=
  if condition then .ok () else .error .malformed

/-! ## Anchors and aliases -/

/-- The characters that may follow the name of an anchor, besides white space. -/
def afterAnchor : Text := "?:,]\x7d%@`"

/-- Reads the name of an anchor or alias, behind its mark. -/
def anchorName (c : Cursor) : Except Problem (Text × Cursor) := do
  let name := c.run isNameChar
  let after := c.skip isNameChar
  require (!name.isEmpty && (isGap after.peek || afterAnchor.contains after.peek))
  return (name, after)

/-! ## Tags -/

/-- The characters besides letters and digits that may stand in a tag. -/
def tagMarks : Text := "-;/?:@&=+$,_.!~*'()[]%"

/-- Reads the part of a tag behind its handle, in which bytes may be escaped. -/
def tagSuffix (c : Cursor) : Except Problem (Text × Cursor) := do
  let isTagChar := fun (x : Char) => x.isAlphanum || tagMarks.contains x
  let written := c.run isTagChar
  require (!written.isEmpty && !Percent.hasBadEscape written)
  match Percent.decodeRuns Utf8.decode? [] written with
  | some suffix => return (suffix, c.skip isTagChar)
  | none => .error .malformed

/-- Reads a handle: an exclamation mark, or a name between two of them. -/
def tagHandle (c : Cursor) : Except Problem (Text × Cursor) := do
  let name := c.advance.run isNameChar
  let after := c.advance.skip isNameChar
  require (c.peek == '!')
  if c.peekAt 1 = ' ' then return (['!'], c.advance)
  else do
    require (after.peek == '!')
    return (['!'] ++ name ++ ['!'], after.advance)

def writtenTag (c : Cursor) : Except Problem (WrittenTag × Cursor) := do
  let (tag, after) ←
    if c.peekAt 1 = '<' then do
      let (suffix, after) ← tagSuffix (c.advanceBy 2)
      require (after.peek == '>')
      pure (WrittenTag.mk none suffix, after.advance)
    else if isGap (c.peekAt 1) then pure (WrittenTag.mk none ['!'], c.advance)
    else do
      let hasName := (c.advance.run fun x => !(isLineEnd x || x == ' ')).contains '!'
      let (handle, after) ← if hasName then tagHandle c else pure (['!'], c.advance)
      let (suffix, after) ← tagSuffix after
      pure (WrittenTag.mk (some handle) suffix, after)
  require (after.peek == ' ' || isLineEnd after.peek)
  return (tag, after)

/-! ## Directives -/

def versionNumber (c : Cursor) : Except Problem (Nat × Cursor) := do
  let digits := c.run Char.isDigit
  require (!digits.isEmpty)
  if Integer.digitLimit < digits.length then throw (.integer (.tooLong digits.length))
  return (Text.ofDigits 10 (digits.filterMap Text.digit?), c.skip Char.isDigit)

/-- Reads a version: two numbers with a point between them. -/
def version (c : Cursor) : Except Problem (Directive × Cursor) := do
  let (major, after) ← versionNumber c.skipBlanks
  require (after.peek == '.')
  let (_, after) ← versionNumber after.advance
  require (after.peek == ' ' || isLineEnd after.peek)
  return (.version major, after)

def handleMeaning (c : Cursor) : Except Problem (Directive × Cursor) := do
  let (name, after) ← tagHandle c.skipBlanks
  require (after.peek == ' ')
  let (meaning, after) ← tagSuffix after.skipBlanks
  require (after.peek == ' ' || isLineEnd after.peek)
  return (.handle name meaning, after)

/-- Reads a directive and the rest of its line. -/
def directive (c : Cursor) : Except Problem (Directive × Cursor) := do
  let name := c.advance.run isNameChar
  let after := c.advance.skip isNameChar
  require (!name.isEmpty && (after.peek == ' ' || isLineEnd after.peek))
  let (d, after) ←
    if name = "YAML".toList then version after
    else if name = "TAG".toList then handleMeaning after
    else pure (.other, after.skip fun x => !isLineEnd x)
  require after.restIsIgnored
  return (d, after.nextLine)

end LinkHarvest.Yaml
