import LinkHarvest.Yaml.Token

/-!
# A YAML text as tokens

A text is cut from its start to its end. Outside of brackets the column of a line's first token
opens and closes blocks. Whether a node is the key of an entry shows only when the colon behind it
is met: until then its place among the tokens is kept, as long as the colon can still follow on
the same line.
-/

namespace LinkHarvest.Yaml

/-- A place at which a key may have started: the number of tokens before it, whether only a key may
stand there, and its place in the text. -/
structure KeyPlace where
  number : Nat
  required : Bool
  index : Nat
  line : Nat
  column : Nat
  deriving DecidableEq, Repr

/-- The greatest number of characters of a key that is not marked as one. -/
def keyLimit : Nat := 1024

/-- How far a text has been cut. The tokens stand in reverse; a block that is open is known by its
column; a key place is kept for each level of brackets. -/
structure Cutting where
  cursor : Cursor
  brackets : Nat
  blocks : List Nat
  keyAllowed : Bool
  keys : List (Nat × KeyPlace)
  tokens : List Token

namespace Cutting

/-- The start of a text. A byte order mark there is passed over. -/
def start (t : Text) : Cutting :=
  let c := Cursor.start t
  ⟨if c.peek = '\uFEFF' then c.advance else c, 0, [], true, [], []⟩

/-- Whether the place lies inside brackets. -/
def inFlow (s : Cutting) : Bool := s.brackets != 0

/-- The least column of lines that continue a scalar of the innermost block. -/
def margin (s : Cutting) : Nat := (s.blocks.head?.map (· + 1)).getD 0

def push (s : Cutting) (token : Token) : Cutting := { s with tokens := token :: s.tokens }

/-- Adds a token behind the first `number` ones. -/
def insert (s : Cutting) (number : Nat) (token : Token) : Cutting :=
  let later := s.tokens.length - number
  { s with tokens := s.tokens.take later ++ token :: s.tokens.drop later }

def advanceBy (s : Cutting) (n : Nat) : Cutting := { s with cursor := s.cursor.advanceBy n }

/-! ## Blocks -/

/-- Closes the blocks that start behind a column. -/
def closeBlocks (column : Nat) : List Nat → List Nat × Nat
  | [] => ([], 0)
  | b :: outer =>
    if column < b then
      let (left, closed) := closeBlocks column outer
      (left, closed + 1)
    else (b :: outer, 0)

/-- Closes the blocks that start behind the column of the next token. -/
def unwind (s : Cutting) : Cutting :=
  if s.inFlow then s
  else
    let (blocks, closed) := closeBlocks s.cursor.column s.blocks
    { s with blocks, tokens := List.replicate closed .blockEnd ++ s.tokens }

def unwindAll (s : Cutting) : Cutting :=
  if s.inFlow then s
  else { s with blocks := [], tokens := List.replicate s.blocks.length .blockEnd ++ s.tokens }

/-- Whether a block may be opened at a column. -/
def opensAt (s : Cutting) (column : Nat) : Bool :=
  match s.blocks with
  | [] => true
  | b :: _ => b < column

/-! ## Keys -/

/-- Gives up the key places whose colon can no longer follow. -/
def dropStaleKeys (s : Cutting) : Except Problem Cutting :=
  let isStale (k : KeyPlace) : Bool :=
    k.line != s.cursor.line || keyLimit < s.cursor.index - k.index
  if s.keys.any fun k => isStale k.2 && k.2.required then .error .malformed
  else .ok { s with keys := s.keys.filter fun k => !isStale k.2 }

/-- Gives up the key place on the present level. -/
def dropKey (s : Cutting) : Except Problem Cutting :=
  if s.keys.any fun k => k.1 == s.brackets && k.2.required then .error .malformed
  else .ok { s with keys := s.keys.filter fun k => k.1 != s.brackets }

/-- Keeps the present place as one at which a key may start. -/
def saveKey (s : Cutting) : Except Problem Cutting :=
  if s.keyAllowed then do
    let required := !s.inFlow && s.blocks.head? == some s.cursor.column
    let s ← s.dropKey
    let c := s.cursor
    return { s with
      keys := (s.brackets, ⟨s.tokens.length, required, c.index, c.line, c.column⟩) :: s.keys }
  else .ok s

/-! ## Tokens -/

/-- Passes over blanks, comments and line breaks. Outside of brackets a key may follow a break. -/
def skipSpace : Nat → Cutting → Cutting
  | 0, s => s
  | fuel + 1, s =>
    let c := s.cursor.skipBlanks.skipComment
    match c.lineBreak? with
    | some (_, c) => skipSpace fuel { s with cursor := c, keyAllowed := s.keyAllowed || !s.inFlow }
    | none => { s with cursor := c }

def finish (s : Cutting) : Except Problem Cutting := do
  return (← s.unwindAll.dropKey).push .finish

def cutDirective (s : Cutting) : Except Problem Cutting := do
  let s ← s.unwindAll.dropKey
  let (d, cursor) ← directive s.cursor
  return { s with cursor, keyAllowed := false, tokens := .directive d :: s.tokens }

/-- Cuts off the mark at which a document starts or ends. -/
def cutDocumentMark (s : Cutting) (token : Token) : Except Problem Cutting := do
  let s ← s.unwindAll.dropKey
  return ({ s with keyAllowed := false }.advanceBy 3).push token

def cutOpening (s : Cutting) (token : Token) : Except Problem Cutting := do
  let s ← s.saveKey
  return ({ s with brackets := s.brackets + 1, keyAllowed := true }.advanceBy 1).push token

def cutClosing (s : Cutting) (token : Token) : Except Problem Cutting := do
  require s.inFlow
  let s ← s.dropKey
  return ({ s with brackets := s.brackets - 1, keyAllowed := false }.advanceBy 1).push token

def cutComma (s : Cutting) : Except Problem Cutting := do
  let s ← s.dropKey
  return ({ s with keyAllowed := true }.advanceBy 1).push .comma

/-- Opens a block at a column, with a token that says so behind the first `number` ones. -/
def openBlock (s : Cutting) (column number : Nat) (token : Token) : Cutting :=
  if !s.inFlow && s.opensAt column then
    { s with blocks := column :: s.blocks }.insert number token
  else s

/-- Cuts off the mark of a sequence's entry. -/
def cutEntry (s : Cutting) : Except Problem Cutting := do
  require (s.inFlow || s.keyAllowed)
  let s ← (s.openBlock s.cursor.column s.tokens.length .blockSequence).dropKey
  return ({ s with keyAllowed := true }.advanceBy 1).push .entry

def cutKey (s : Cutting) : Except Problem Cutting := do
  require (s.inFlow || s.keyAllowed)
  let s ← (s.openBlock s.cursor.column s.tokens.length .blockMapping).dropKey
  return ({ s with keyAllowed := !s.inFlow }.advanceBy 1).push .key

/-- Cuts off the mark of a value. What stands at the key place of this level was its key. -/
def cutValue (s : Cutting) : Except Problem Cutting :=
  match s.keys.find? fun k => k.1 == s.brackets with
  | some (_, place) =>
    let s := { s with keys := s.keys.filter (fun k => k.1 != s.brackets), keyAllowed := false }
    let s := (s.insert place.number .key).openBlock place.column place.number .blockMapping
    .ok ((s.advanceBy 1).push .value)
  | none => do
    require (s.inFlow || s.keyAllowed)
    let s ← (s.openBlock s.cursor.column s.tokens.length .blockMapping).dropKey
    return ({ s with keyAllowed := !s.inFlow }.advanceBy 1).push .value

/-- Cuts off a token with a content, at which a key may start. -/
def cutContent (s : Cutting) (read : Cursor → Part Token) : Except Problem Cutting := do
  let s ← s.saveKey
  let (token, cursor) ← read s.cursor
  return { s with cursor, keyAllowed := false, tokens := token :: s.tokens }

def cutPlain (s : Cutting) : Except Problem Cutting := do
  let s ← s.saveKey
  let plain := plainScalar s.inFlow s.margin (s.cursor.rest.length + 1) s.cursor
  return { s with
    cursor := plain.after
    keyAllowed := plain.endsLine
    tokens := .scalar true (.ofText plain.text) :: s.tokens }

def cutBlock (s : Cutting) : Except Problem Cutting := do
  let s ← s.dropKey
  let (t, cursor) ← blockScalar (max 1 s.margin) s.cursor
  return { s with cursor, keyAllowed := true, tokens := .scalar false (.ofText t) :: s.tokens }

/-- The characters with which no plain scalar starts, besides white space. -/
def marks : Text := "-?:,[]\x7b\x7d#&*!|>'\"%@`"

def startsPlain (s : Cutting) : Bool :=
  let c := s.cursor.peek
  !(isGap c || marks.contains c) ||
    (!isGap (s.cursor.peekAt 1) && (c == '-' || (!s.inFlow && (c == '?' || c == ':'))))

/-- Cuts off the next token. -/
def next (s : Cutting) : Except Problem Cutting := do
  let s ← (skipSpace (s.cursor.rest.length + 1) s).dropStaleKeys
  let s := s.unwind
  let c := s.cursor
  let alone := isGap (c.peekAt 1)
  if c.rest.isEmpty then s.finish
  else if c.column = 0 && c.peek == '%' then s.cutDirective
  else if c.column = 0 && c.atMarker "---" then s.cutDocumentMark .documentStart
  else if c.column = 0 && c.atMarker "..." then s.cutDocumentMark .documentEnd
  else
    match c.peek with
    | '[' => s.cutOpening .openBracket
    | '\x7b' => s.cutOpening .openBrace
    | ']' => s.cutClosing .closeBracket
    | '\x7d' => s.cutClosing .closeBrace
    | ',' => s.cutComma
    | '*' => s.cutContent fun c => (anchorName c.advance).map fun (name, c) => (.alias name, c)
    | '&' => s.cutContent fun c => (anchorName c.advance).map fun (name, c) => (.anchor name, c)
    | '!' => s.cutContent fun c => (writtenTag c).map fun (t, c) => (.tag t, c)
    | '\'' => s.cutContent fun c => (quotedScalar c).map fun (t, c) => (.scalar false t, c)
    | '"' => s.cutContent fun c => (quotedScalar c).map fun (t, c) => (.scalar false t, c)
    | x =>
      if x = '-' ∧ alone then s.cutEntry
      else if x = '?' ∧ (s.inFlow ∨ alone) then s.cutKey
      else if x = ':' ∧ (s.inFlow ∨ alone) then s.cutValue
      else if (x = '|' ∨ x = '>') ∧ !s.inFlow then s.cutBlock
      else if s.startsPlain then s.cutPlain
      else .error .malformed

/-- Cuts the text to its end. A problem becomes the last token. -/
def all : Nat → Cutting → List Token
  | 0, s => (Token.broken .malformed :: s.tokens).reverse
  | fuel + 1, s =>
    match s.next with
    | .error p => (Token.broken p :: s.tokens).reverse
    | .ok next =>
      match next.tokens with
      | .finish :: _ => next.tokens.reverse
      | _ => all fuel next

end Cutting

/-- Whether a character may stand in a text at all. -/
def isAllowed (c : Char) : Bool :=
  let n := c.toNat
  n == 9 || n == 10 || n == 13 || (0x20 ≤ n && n ≤ 0x7E) || n == 0x85 ||
    (0xA0 ≤ n && n != 0xFFFE && n != 0xFFFF)

def tokens (t : Text) : List Token :=
  if t.all isAllowed then Cutting.all (t.length + 2) (.start t) else [.broken .malformed]

end LinkHarvest.Yaml
