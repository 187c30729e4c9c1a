import LinkHarvest.Data.Display
import LinkHarvest.Text.Base64
import LinkHarvest.Yaml.Cursor
import LinkHarvest.Yaml.Tag

/-!
# Writing YAML

A document in block form: an entry or item a line, two blanks of indentation for each level, and
items of a sequence in the column of the key before them. A scalar is written plainly where its
plain form reads back as the same scalar, and between quotes otherwise. Long scalars are folded at
single blanks.
-/

namespace LinkHarvest.Yaml

/-! ## Forms of scalars -/

/-- Whether a character may stand in a scalar that is not written with escapes. -/
def isShown (p : CodePoint) : Bool :=
  match p with
  | .half _ => false
  | .char c =>
    let n := c.toNat
    n == 10 || (0x20 ≤ n && n ≤ 0x7E) || n == 0x85 ||
      (0xA0 ≤ n && n < 0x10FFFF && n != 0xFEFF && n != 0xFFFE && n != 0xFFFF)

/-- The characters with which no plain scalar starts. -/
def leadingMarks : Text := "#,[]\x7b\x7d&*!|>'\"%@`"

/-- Whether the start of a text would be read as a mark. -/
def startsAsMark (t : Text) : Bool :=
  match t with
  | [] => false
  | c :: rest =>
    leadingMarks.contains c || Text.startsWith t "---" || Text.startsWith t "..." ||
      ((c == '?' || c == ':' || c == '-') && isGap (rest.headD ' '))

/-- Whether something within a text would be read as a mark; `before` is the character before. -/
def hasMark (before : Char) : Text → Bool
  | [] => false
  | c :: rest =>
    (c == ':' && isGap (rest.headD ' ')) || (c == '#' && isGap before) || hasMark c rest

/-- Whether two characters that satisfy `p` and `q` stand side by side. -/
def hasPair (p q : Char → Bool) : Text → Bool
  | a :: b :: rest => (p a && q b) || hasPair p q (b :: rest)
  | _ => false

/-- Whether a blank stands next to a line break. -/
def hasBlankAtBreak (t : Text) : Bool :=
  hasPair (· == ' ') isBreak t || hasPair isBreak (· == ' ') t

/-- Whether a text may be written plainly. -/
def fitsPlain (t : Text) : Bool :=
  let atEnd := fun c => c == ' ' || isBreak c
  !(t.any isBreak || atEnd (t.headD 'x') || atEnd (t.getLastD 'x') || startsAsMark t ||
    hasMark (t.headD 'x') (t.drop 1))

/-- The ways of writing a scalar on one or more lines. -/
inductive Form
  | plain
  | single
  | double
  deriving DecidableEq, Repr

/-- The form in which a scalar is written that would, written plainly, have the given tag. -/
def formFor (tag : Tag) (t : LooseText) : Form :=
  match t.toText? with
  | none => .double
  | some s =>
    if !t.all isShown then .double
    else if Tag.ofPlain s = tag && fitsPlain s then .plain
    else if hasBlankAtBreak s then .double
    else .single

/-! ## The page -/

/-- What has been written so far, last character first. -/
structure Page where
  written : Text
  column : Nat
  blank : Bool
  fresh : Bool
  deriving DecidableEq, Repr

namespace Page

def empty : Page := ⟨[], 0, true, true⟩

/-- The column behind which a scalar is folded. -/
def width : Nat := 80

def put (page : Page) (t : Text) : Page :=
  { page with written := t.reverse ++ page.written, column := page.column + t.length }

def lineBreak (page : Page) (c : Char) : Page := ⟨c :: page.written, 0, true, true⟩

/-- Goes to the given column of a line on which nothing else is written. -/
def indentTo (column : Nat) (page : Page) : Page :=
  let page :=
    if !page.fresh || column < page.column || (page.column = column && !page.blank) then
      page.lineBreak '\n'
    else page
  if page.column < column then
    { page.put (List.replicate (column - page.column) ' ') with blank := true }
  else page

def foldTo (column : Nat) (page : Page) : Page :=
  { page.indentTo column with blank := false, fresh := false }

/-- Writes a mark, with a blank before it where one is needed; `stays` says that a block may start
behind it. -/
def mark (page : Page) (t : Text) (apart stays : Bool) : Page :=
  let page' := page.put (if apart && !page.blank then ' ' :: t else t)
  { page' with blank := false, fresh := page.fresh && stays }

end Page

/-! ## Scalars -/

/-- The runs of blanks, of line breaks and of other characters in a text. -/
def runs (t : Text) : List Text :=
  let kind := fun (c : Char) => (c == ' ', isBreak c)
  t.splitBy fun a b => kind a == kind b

/-- Whether a run is a single blank at which a scalar may be folded. -/
def isFold (run : Text) (page : Page) : Bool := run == [' '] && Page.width < page.column

/-- Writes a plain scalar, which is folded at single blanks if `fold` says so. -/
def putPlain (indent : Nat) (fold : Bool) (t : Text) (page : Page) : Page :=
  if t.isEmpty then page
  else
    let page := if page.blank then page else page.put [' ']
    (runs t).foldl (fun page run =>
      if fold && isFold run page then page.foldTo indent else page.put run)
      { page with blank := false, fresh := false }

/-- Writes line breaks within a scalar. A line feed needs another one, since one alone is read as
a blank. -/
def putBreaks (indent : Nat) (run : Text) (page : Page) : Page :=
  let page := if run.head? == some '\n' then page.lineBreak '\n' else page
  (run.foldl Page.lineBreak page).indentTo indent

/-- Writes the runs of a scalar between single quotes. Blanks at its ends are not folded. -/
def putRuns (indent : Nat) (fold first : Bool) : List Text → Page → Page
  | [], page => page
  | run :: rest, page =>
    let page :=
      if run.all isBreak then putBreaks indent run page
      else if fold && !first && !rest.isEmpty && isFold run page then page.indentTo indent
      else page.put (run.flatMap fun c => if c = '\'' then ['\'', '\''] else [c])
    putRuns indent fold false rest page

/-- Writes a scalar between single quotes. -/
def putSingle (indent : Nat) (fold : Bool) (t : Text) (page : Page) : Page :=
  (putRuns indent fold true (runs t) (page.mark ['\''] true false)).mark ['\''] false false

/-- The letter that stands for a character in an escape. -/
def escapeLetter? : Char → Option Char
  | '\x00' => some '0'
  | '\x07' => some 'a'
  | '\x08' => some 'b'
  | '\t' => some 't'
  | '\n' => some 'n'
  | '\x0b' => some 'v'
  | '\x0c' => some 'f'
  | '\r' => some 'r'
  | '\x1b' => some 'e'
  | '"' => some '"'
  | '\\' => some '\\'
  | '\u0085' => some 'N'
  | '\u2028' => some 'L'
  | '\u2029' => some 'P'
  | _ => none

/-- The escape of a code point by its number, in capital digits. -/
def numberedEscape (n : Nat) : Text :=
  let digits (width : Nat) : Text := (Text.hex width n).map Char.toUpper
  if n ≤ 0xFF then "\\x" ++ digits 2
  else if n ≤ 0xFFFF then "\\u" ++ digits 4
  else "\\U" ++ digits 8

/-- The escape of a code point, if it needs one between double quotes. -/
def escapeOf? (p : CodePoint) : Option Text :=
  match p with
  | .half code => some (numberedEscape code)
  | .char c =>
    match escapeLetter? c with
    | some letter => some ['\\', letter]
    | none =>
      let n := c.toNat
      if (0x20 ≤ n ∧ n ≤ 0x7E) ∨ (0xA0 ≤ n ∧ n ≤ 0xFFFD ∧ n ≠ 0xFEFF) then none
      else some (numberedEscape n)

/-- Breaks the line within a scalar between double quotes. -/
def breakDouble (indent : Nat) (next : Option CodePoint) (page : Page) : Page :=
  let page := (page.put ['\\']).foldTo indent
  if next = some (.char ' ') then page.put ['\\'] else page

/-- Writes a scalar between double quotes, behind its first mark. Characters that need no escape
are held back as `pending`, last first, until the place for a line break behind them is known;
`first` says that nothing stands before them. -/
def putDouble (indent : Nat) (fold first : Bool) (pending : Text) : LooseText → Page → Page
  | [], page => page.put pending.reverse
  | p :: rest, page =>
    let mayBreak := fold && !first && !rest.isEmpty
    match escapeOf? p, p with
    | some e, _ =>
      let page := (page.put pending.reverse).put e
      let page :=
        if mayBreak && Page.width < page.column - 1 then breakDouble indent rest.head? page
        else page
      putDouble indent fold false [] rest page
    | none, .char c =>
      if mayBreak && (c = ' ' || pending.isEmpty) &&
          Page.width < page.column + pending.length then
        putDouble indent fold false [c] rest
          (breakDouble indent (some p) (page.put pending.reverse))
      else putDouble indent fold false (c :: pending) rest page
    | none, .half _ => putDouble indent fold false pending rest page

/-- Writes a scalar that has, written plainly, the given tag; only a key is not folded. -/
def putScalar (tag : Tag) (indent : Nat) (fold : Bool) (t : LooseText) (page : Page) : Page :=
  match formFor tag t with
  | .plain => putPlain indent fold t.toText page
  | .single => putSingle indent fold t.toText page
  | .double =>
    (putDouble indent fold true [] t (page.mark ['"'] true false)).mark ['"'] false false

/-! ## Documents -/

/-- The text of a number with a point; an exponent does not stand behind a whole number. -/
def numberText (x : Binary64) : Text :=
  match x with
  | .nan => ".nan"
  | .infinite negative => if negative then "-.inf" else ".inf"
  | x =>
    let t := x.text
    match Text.cut 'e' t with
    | (digits, some exponent) =>
      if digits.contains '.' then t else Text.concat [digits, ".0e", exponent]
    | (_, none) => t

/-- The tag and text of a scalar; nothing for a list or mapping that is not empty. -/
def scalarOf? (v : Value) : Option (Tag × LooseText) :=
  match v with
  | .null => some (.null, "null".toList)
  | .bool b => some (.bool, LooseText.ofText (if b then "true" else "false"))
  | .int n => some (.int, Text.ofInt n)
  | .float x => some (.float, numberText x)
  | .text t => some (.text, t)
  | .date _ => some (.moment, v.display)
  | .time _ => some (.moment, v.display)
  | .bytes b => some (.text, Base64.encode .standard b)
  | _ => none

/-- The greatest number of characters of a key that is not marked as one. -/
def shortKeyLimit : Nat := 122

/-- Whether a key can stand before its colon without a mark. -/
def isShortKey (v : Value) : Bool :=
  match scalarOf? v with
  | some (_, t) => !t.isEmpty && t.length ≤ shortKeyLimit && !t.toText.any isBreak
  | none => false

/-- The column of the items inside a block at `outer`. -/
def innerColumn (outer : Option Nat) : Nat := (outer.map (· + 2)).getD 0

/-- The column of the items of a sequence inside a block at `outer`. As the value of an entry it
starts in the column of the key. -/
def itemColumn (outer : Option Nat) (inEntry : Bool) (page : Page) : Nat :=
  if inEntry && !page.fresh then outer.getD 0 else innerColumn outer

def putEmpty (opening closing : Char) (page : Page) : Page :=
  (page.mark [opening] true false).mark [closing] false false

mutual

/-- Writes a value inside a block at `outer`; `inEntry` says that it is the value of an entry. -/
def putValue (outer : Option Nat) (inEntry : Bool) (v : Value) (page : Page) : Page :=
  match v with
  | .list items =>
    if items.isEmpty then putEmpty '[' ']' page
    else putEach (itemColumn outer inEntry page) items page
  | .tuple items =>
    if items.isEmpty then putEmpty '[' ']' page
    else putEach (itemColumn outer inEntry page) items page
  | .set items =>
    if items.isEmpty then putEmpty '[' ']' page
    else putEach (itemColumn outer inEntry page) items page
  | .map entries =>
    if entries.isEmpty then putEmpty '\x7b' '\x7d' page
    else putEntries (innerColumn outer) entries page
  | v =>
    match scalarOf? v with
    | some (tag, t) => putScalar tag ((outer.map (· + 2)).getD 2) true t page
    | none => page

/-- Writes the items of a sequence in a column. -/
def putEach (column : Nat) (items : List Value) (page : Page) : Page :=
  match items with
  | [] => page
  | v :: rest =>
    putEach column rest
      (putValue (some column) false v ((page.indentTo column).mark ['-'] true true))

/-- Writes the entries of a mapping in a column. -/
def putEntries (column : Nat) (entries : List (Value × Value)) (page : Page) : Page :=
  match entries with
  | [] => page
  | (k, v) :: rest =>
    let page := page.indentTo column
    let page :=
      if isShortKey k then
        match scalarOf? k with
        | some (tag, t) => (putScalar tag (column + 2) false t page).mark [':'] false false
        | none => page
      else
        let page := putValue (some column) true k (page.mark ['?'] true true)
        (page.indentTo column).mark [':'] true true
    putEntries column rest (putValue (some column) true v page)

end

/-- Whether a document is a plain scalar, behind which its end is marked. -/
def endsOpen (v : Value) : Bool :=
  match scalarOf? v with
  | some (tag, t) => formFor tag t == .plain
  | none => false

def write (v : Value) : Text :=
  (((putValue none false v .empty).indentTo 0).written).reverse ++
    (if endsOpen v then "...\n".toList else [])

end LinkHarvest.Yaml
