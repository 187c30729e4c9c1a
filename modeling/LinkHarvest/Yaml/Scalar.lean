import LinkHarvest.Text.CodePoint
import LinkHarvest.Yaml.Cursor
import LinkHarvest.Yaml.Problem

/-!
# Scalars of a YAML text

The four ways of writing a scalar: plain, between single or double quotes, and as a block of
lines. In all of them a single line break between two words counts as a blank; each break beyond
the first counts as a line feed. Inside a literal block the lines stay as they are.
-/

namespace LinkHarvest.Yaml

/-- A part of a text that has been read, and the place behind it. -/
abbrev Part (α : Type) := Except Problem (α × Cursor)

/-! ## Quoted scalars -/

/-- The character that an escape of one letter stands for. -/
def shortEscape? : Char → Option Char
  | '0' => some '\x00'
  | 'a' => some '\x07'
  | 'b' => some '\x08'
  | 't' => some '\t'
  | '\t' => some '\t'
  | 'n' => some '\n'
  | 'v' => some '\x0b'
  | 'f' => some '\x0c'
  | 'r' => some '\r'
  | 'e' => some '\x1b'
  | ' ' => some ' '
  | '"' => some '"'
  | '\\' => some '\\'
  | '/' => some '/'
  | 'N' => some '\u0085'
  | '_' => some '\u00A0'
  | 'L' => some '\u2028'
  | 'P' => some '\u2029'
  | _ => none

/-- How many digits follow the letter of an escape that gives a code point. -/
def escapeDigits? : Char → Option Nat
  | 'x' => some 2
  | 'u' => some 4
  | 'U' => some 8
  | _ => none

def codePoint (n : Nat) : Except Problem CodePoint :=
  if 0x80000000 ≤ n then .error .codePointSize
  else if 0x110000 ≤ n then .error .codePoint
  else if 0xD800 ≤ n ∧ n < 0xE000 then .ok (.half n)
  else .ok (.char (Char.ofNat n))

def numericEscape (count : Nat) (c : Cursor) : Part CodePoint :=
  if c.rest.length < count then .error .malformed
  else
    match (c.rest.take count).mapM Text.hexDigit? with
    | none => .error .malformed
    | some digits => (codePoint (Text.ofDigits 16 digits)).map fun p => (p, c.advanceBy count)

/-- Reads the empty lines within a quoted scalar, and the margin of the line that follows them. -/
def quotedBreaks : Nat → Cursor → Part Text
  | 0, _ => .error .malformed
  | fuel + 1, c =>
    if c.atDocumentMark then .error .malformed
    else
      let c := c.skip fun x => x == ' ' || x == '\t'
      match c.lineBreak? with
      | none => .ok ([], c)
      | some (x, c) => (quotedBreaks fuel c).map fun (breaks, c) => (x :: breaks, c)

/-- The text that line breaks between words stand for. -/
def folded (first : Char) (breaks : Text) : Text :=
  if first ≠ '\n' then first :: breaks else if breaks.isEmpty then [' '] else breaks

/-- Reads white space within a quoted scalar. -/
def quotedSpace (fuel : Nat) (c : Cursor) : Part Text :=
  let isSpace := fun x => x == ' ' || x == '\t'
  let space := c.run isSpace
  let c := c.skip isSpace
  match c.lineBreak? with
  | none => if c.rest.isEmpty then .error .malformed else .ok (space, c)
  | some (first, c) => (quotedBreaks fuel c).map fun (breaks, c) => (folded first breaks, c)

/-- Reads an escape, behind its backslash. -/
def escape (fuel : Nat) (c : Cursor) : Part LooseText :=
  match shortEscape? c.peek with
  | some x => if c.rest.isEmpty then .error .malformed else .ok ([.char x], c.advance)
  | none =>
    match escapeDigits? c.peek with
    | some count => (numericEscape count c.advance).map fun (p, c) => ([p], c)
    | none =>
      match c.lineBreak? with
      | some (_, c) => (quotedBreaks fuel c).map fun (breaks, c) => (LooseText.ofText breaks, c)
      | none => .error .malformed

/-- Reads the rest of a quoted scalar, up to and with its closing mark. -/
def quotedRest (double : Bool) : Nat → Cursor → Part LooseText
  | 0, _ => .error .malformed
  | fuel + 1, c =>
    let more (front : LooseText) (c : Cursor) : Part LooseText :=
      (quotedRest double fuel c).map fun (t, c) => (front ++ t, c)
    if c.rest.isEmpty then .error .malformed
    else if !double && c.peek = '\'' && c.peekAt 1 = '\'' then more [.char '\''] (c.advanceBy 2)
    else if c.peek = (if double then '"' else '\'') then .ok ([], c.advance)
    else if double && c.peek = '\\' then
      match escape fuel c.advance with
      | .ok (t, c) => more t c
      | .error p => .error p
    else if isGap c.peek then
      match quotedSpace fuel c with
      | .ok (t, c) => more (LooseText.ofText t) c
      | .error p => .error p
    else more [.char c.peek] c.advance

def quotedScalar (c : Cursor) : Part LooseText :=
  quotedRest (c.peek = '"') (c.rest.length + 1) c.advance

/-! ## Plain scalars -/

/-- Whether a character is part of the structure inside brackets. -/
def isFlowMark (c : Char) : Bool :=
  c == ',' || c == '[' || c == ']' || c == '\x7b' || c == '\x7d'

/-- The length of the word that starts a text. -/
def wordLength (flow : Bool) : Text → Nat
  | [] => 0
  | c :: rest =>
    let next := rest.headD '\x00'
    if isGap c || (c == ':' && (isGap next || (flow && isFlowMark next))) ||
        (flow && (isFlowMark c || c == '?')) then 0
    else wordLength flow rest + 1

/-- Reads empty lines and the margins within a plain scalar. Nothing when a document ends here. -/
def plainBreaks : Nat → Cursor → Option (Text × Cursor)
  | 0, c => some ([], c)
  | fuel + 1, c =>
    if c.peek = ' ' then plainBreaks fuel c.skipBlanks
    else
      match c.lineBreak? with
      | none => some ([], c)
      | some (x, c) =>
        if c.atDocumentMark then none
        else (plainBreaks fuel c).map fun (breaks, c) => (x :: breaks, c)

/-- What stands between two words of a plain scalar. -/
structure PlainGap where
  space : Text
  after : Cursor
  hasBreak : Bool

/-- Reads what follows a word of a plain scalar. The gap is empty when the scalar ends here. -/
def plainGap (fuel : Nat) (c : Cursor) : PlainGap :=
  let space := c.run (· == ' ')
  let c := c.skipBlanks
  match c.lineBreak? with
  | none => ⟨space, c, false⟩
  | some (first, c) =>
    if c.atDocumentMark then ⟨[], c, true⟩
    else
      match plainBreaks fuel c with
      | some (breaks, c) => ⟨folded first breaks, c, true⟩
      | none => ⟨[], c.skip (fun x => x == ' ' || isBreak x), true⟩

/-- A plain scalar: its text, the place behind it, and whether a line break was passed after its
last word. -/
structure Plain where
  text : Text
  after : Cursor
  endsLine : Bool

/-- Reads a plain scalar, whose lines have to start at or behind the column `margin`. -/
def plainScalar (flow : Bool) (margin : Nat) : Nat → Cursor → Plain
  | 0, c => ⟨[], c, false⟩
  | fuel + 1, c =>
    let n := wordLength flow c.rest
    let word := c.rest.take n
    let gap := plainGap c.rest.length (c.advanceBy n)
    let c := gap.after
    if gap.space.isEmpty || c.peek == '#' || (!flow && c.column < margin) ||
        wordLength flow c.rest = 0 then ⟨word, c, gap.hasBreak⟩
    else
      let rest := plainScalar flow margin fuel c
      { rest with text := word ++ gap.space ++ rest.text }

/-! ## Block scalars -/

/-- What happens to the line breaks at the end of a block. -/
inductive Chomping
  | strip
  | clip
  | keep
  deriving DecidableEq, Repr

/-- The header of a block scalar. -/
structure BlockHeader where
  chomping : Chomping
  indent : Option Nat

/-- Reads the sign that says what happens to the last line breaks. -/
def chomping? : Char → Option Chomping
  | '+' => some .keep
  | '-' => some .strip
  | _ => none

/-- Reads the digit that gives the indentation of a block; zero is refused. -/
def blockIndent (c : Cursor) : Part (Option Nat) :=
  match Text.digit? c.peek with
  | none => .ok (none, c)
  | some 0 => .error .malformed
  | some n => .ok (some n, c.advance)

/-- Reads the header of a block scalar, behind its mark. -/
def blockHeader (c : Cursor) : Part BlockHeader :=
  match chomping? c.peek with
  | some chomping => (blockIndent c.advance).map fun (indent, c) => (⟨chomping, indent⟩, c)
  | none =>
    (blockIndent c).map fun (indent, c) =>
      match indent, chomping? c.peek with
      | some n, some chomping => (⟨chomping, some n⟩, c.advance)
      | _, _ => (⟨.clip, indent⟩, c)

/-- Reads the lines before the first line of a block, and the column at which the widest of their
margins ends. -/
def blockMargin (widest : Nat) : Nat → Cursor → Text × Nat × Cursor
  | 0, c => ([], widest, c)
  | fuel + 1, c =>
    if c.peek = ' ' then blockMargin (max widest c.advance.column) fuel c.advance
    else
      match c.lineBreak? with
      | none => ([], widest, c)
      | some (x, c) =>
        let (breaks, widest, c) := blockMargin widest fuel c
        (x :: breaks, widest, c)

/-- Reads empty lines of a block, and the margin of the line that follows them. -/
def blockBreaks (indent : Nat) : Nat → Cursor → Text × Cursor
  | 0, c => ([], c)
  | fuel + 1, c =>
    let c := c.skipIndent indent
    match c.lineBreak? with
    | none => ([], c)
    | some (x, c) =>
      let (breaks, c) := blockBreaks indent fuel c
      (x :: breaks, c)

def breakText (x : Option Char) : Text := x.toList

/-- The line breaks at the end of a block that stay. -/
def chomped (chomping : Chomping) (last : Option Char) (breaks : Text) : Text :=
  match chomping with
  | .strip => []
  | .clip => breakText last
  | .keep => breakText last ++ breaks

/-- The text between two lines of a block. -/
def betweenLines (fold : Bool) (line : Text) (last : Option Char) (next : Char)
    (breaks : Text) : Text :=
  let starts (c : Char) : Bool := c == ' ' || c == '\t'
  if fold && last == some '\n' && !starts (line.headD '\n') && !starts next then
    (if breaks.isEmpty then [' '] else []) ++ breaks
  else breakText last ++ breaks

def blockLines (fold : Bool) (chomping : Chomping) (indent : Nat) : Nat → Cursor → Text × Cursor
  | 0, c => ([], c)
  | fuel + 1, c =>
    let line := c.run fun x => !isLineEnd x
    let c := c.skip fun x => !isLineEnd x
    let (last, c) :=
      match c.lineBreak? with
      | some (x, c) => (some x, c)
      | none => (none, c)
    let (breaks, c) := blockBreaks indent (c.rest.length + 1) c
    if c.column = indent && !c.rest.isEmpty then
      let (more, after) := blockLines fold chomping indent fuel c
      (line ++ betweenLines fold line last c.peek breaks ++ more, after)
    else (line ++ chomped chomping last breaks, c)

/-- Reads a block scalar. Its lines are indented by at least `least` blanks. -/
def blockScalar (least : Nat) (c : Cursor) : Part Text :=
  match blockHeader c.advance with
  | .error p => .error p
  | .ok (header, after) =>
    if !(after.peek == ' ' || isLineEnd after.peek) || !after.restIsIgnored then .error .malformed
    else
      let c0 := after.nextLine
      let fuel := c0.rest.length + 1
      let (breaks, indent, first) :=
        match header.indent with
        | some n =>
          let indent := least + n - 1
          let (breaks, c) := blockBreaks indent fuel c0
          (breaks, indent, c)
        | none =>
          let (breaks, widest, c) := blockMargin 0 fuel c0
          (breaks, max least widest, c)
      if first.column = indent && !first.rest.isEmpty then
        let (t, c) := blockLines (c.peek == '>') header.chomping indent fuel first
        .ok (breaks ++ t, c)
      else .ok (chomped header.chomping none breaks, first)

end LinkHarvest.Yaml
