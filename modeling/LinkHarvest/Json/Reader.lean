import LinkHarvest.Data.Value
import LinkHarvest.Json.Problem

/-!
# Reading JSON

The JSON texts that carry link payloads and documents. Beyond the standard, `NaN`, `Infinity` and
`-Infinity` are numbers, half a surrogate pair may be escaped on its own, and of two entries with
the same key the later value stands. A whole number stays exact.
-/

namespace LinkHarvest.Json

/-- Why reading stopped: a fault with the number of characters left at its place, or a number. -/
inductive Stop
  | fault (fault : Fault) (left : Nat)
  | number (problem : Integer.Problem)

/-- A reading step gives a result and the rest of the text. -/
abbrev Step (α : Type) := Except Stop (α × Text)

/-- Whether a character may stand between tokens. -/
def isSpace (c : Char) : Bool := c == ' ' || c == '\t' || c == '\n' || c == '\r'

/-- The text without white space at its start. -/
def skipSpace (t : Text) : Text := t.dropWhile isSpace

/-! ## Strings -/

/-- The character that a one-letter escape stands for. -/
def shortEscape? : Char → Option Char
  | '"' => some '"'
  | '\\' => some '\\'
  | '/' => some '/'
  | 'b' => some '\x08'
  | 'f' => some '\x0c'
  | 'n' => some '\n'
  | 'r' => some '\r'
  | 't' => some '\t'
  | _ => none

/-- The number that four hexadecimal digits write. -/
def hex4? (a b c d : Char) : Option Nat := do
  let a ← Text.hexDigit? a
  let b ← Text.hexDigit? b
  let c ← Text.hexDigit? c
  let d ← Text.hexDigit? d
  return ((a * 16 + b) * 16 + c) * 16 + d

/-- Whether a code is the first half of a surrogate pair. -/
def isHighHalf (n : Nat) : Bool := 0xD800 ≤ n && n < 0xDC00

/-- Whether a code is the second half of a surrogate pair. -/
def isLowHalf (n : Nat) : Bool := 0xDC00 ≤ n && n < 0xE000

/-- The code point that an escape for `n` stands for on its own. -/
def escaped (n : Nat) : CodePoint :=
  if isHighHalf n || isLowHalf n then .half n else .char (Char.ofNat n)

/-- Adds a code point to the front of a string that was read. -/
def withPoint (p : CodePoint) (s : Step LooseText) : Step LooseText :=
  s.map fun (t, rest) => (p :: t, rest)

/-- Reads a string from behind its opening quote, before which `left` characters were left. -/
def stringBody (left : Nat) : Text → Step LooseText
  | [] => .error (.fault .unterminated left)
  | '"' :: rest => .ok ([], rest)
  | '\\' :: [] => .error (.fault .unterminated left)
  | '\\' :: 'u' :: a :: b :: c :: d :: rest =>
    if rest.isEmpty then .error (.fault .unicodeEscape 5)
    else
      match hex4? a b c d with
      | none => .error (.fault .unicodeEscape (rest.length + 5))
      | some n =>
        match rest with
        | '\\' :: 'u' :: e :: f :: g :: h :: rest' =>
          if isHighHalf n && !rest'.isEmpty then
            match hex4? e f g h with
            | none => .error (.fault .unicodeEscape (rest'.length + 5))
            | some m =>
              if isLowHalf m then
                withPoint (.char (Char.ofNat (0x10000 + (n - 0xD800) * 1024 + (m - 0xDC00))))
                  (stringBody left rest')
              else withPoint (escaped n) (stringBody left ('\\' :: 'u' :: e :: f :: g :: h :: rest'))
          else withPoint (escaped n) (stringBody left ('\\' :: 'u' :: e :: f :: g :: h :: rest'))
        | rest => withPoint (escaped n) (stringBody left rest)
  | '\\' :: 'u' :: rest => .error (.fault .unicodeEscape (rest.length + 1))
  | '\\' :: c :: rest =>
    match shortEscape? c with
    | none => .error (.fault .escape (rest.length + 2))
    | some e => withPoint (.char e) (stringBody left rest)
  | c :: rest =>
    if c.toNat < 32 then .error (.fault .control (rest.length + 1))
    else withPoint (.char c) (stringBody left rest)

/-! ## Numbers -/

/-- The digits at the start of a text and what follows them. -/
def spanDigits (t : Text) : Text × Text := (t.takeWhile Char.isDigit, t.dropWhile Char.isDigit)

def digitsValue (t : Text) : Nat := Text.ofDigits 10 (t.filterMap Text.digit?)

/-- The whole part of a number: a zero, or digits that do not start with one. -/
def wholePart : Text → Option (Text × Text)
  | '0' :: rest => some (['0'], rest)
  | c :: rest => if c.isDigit then some (spanDigits (c :: rest)) else none
  | [] => none

/-- The digits of a fraction, if one follows. -/
def fractionPart : Text → Text × Text
  | '.' :: rest =>
    if (rest.takeWhile Char.isDigit).isEmpty then ([], '.' :: rest) else spanDigits rest
  | t => ([], t)

def exponentPart (t : Text) : Option Int × Text :=
  match t with
  | [] => (none, t)
  | c :: rest =>
    if c = 'e' ∨ c = 'E' then
      let (negative, rest) := Integer.sign rest
      let (digits, rest) := spanDigits rest
      if digits.isEmpty then (none, t)
      else (some (Integer.signed negative (digitsValue digits)), rest)
    else (none, t)

/-- Reads the part of a number after its sign; `left` characters were left at its start. -/
def magnitude (left : Nat) (negative : Bool) (t : Text) : Step Value :=
  match wholePart t with
  | none => .error (.fault .value left)
  | some (whole, rest) =>
    let (fraction, rest) := fractionPart rest
    let (exponent, rest) := exponentPart rest
    if fraction.isEmpty && exponent.isNone then
      if Integer.digitLimit < whole.length then .error (.number (.tooLong whole.length))
      else .ok (.int (Integer.signed negative (digitsValue whole)), rest)
    else
      .ok (.float (.ofDecimal negative (digitsValue (whole ++ fraction))
        (exponent.getD 0 - fraction.length)), rest)

def number (t : Text) : Step Value :=
  match t with
  | '-' :: rest => magnitude t.length true rest
  | _ => magnitude t.length false t

/-! ## Values -/

def words : List (Text × Value) :=
  [("null", .null), ("true", .bool true), ("false", .bool false), ("NaN", .float .nan),
    ("Infinity", .float (.infinite false)), ("-Infinity", .float (.infinite true))]

def atom (t : Text) : Step Value :=
  match words.find? fun w => t.startsWith w.1 with
  | some (word, v) => .ok (v, t.drop word.length)
  | none => number t

mutual

/-- Reads a value. A step into a list or mapping uses up two units of fuel and a character, any other
step one unit and a character. -/
def value : Nat → Text → Step Value
  | 0, t => .error (.fault .value t.length)
  | fuel + 1, t =>
    match t with
    | '"' :: rest => (stringBody t.length rest).map fun (s, rest) => (.text s, rest)
    | '[' :: rest =>
      match skipSpace rest with
      | ']' :: rest => .ok (.list [], rest)
      | rest => (items fuel rest).map fun (vs, rest) => (.list vs, rest)
    | '\x7b' :: rest =>
      match skipSpace rest with
      | '\x7d' :: rest => .ok (.map [], rest)
      | rest => (members fuel [] rest).map fun (es, rest) => (.map es, rest)
    | _ => atom t

/-- Reads the items of a list up to its closing bracket. -/
def items : Nat → Text → Step (List Value)
  | 0, t => .error (.fault .value t.length)
  | fuel + 1, t =>
    match value fuel t with
    | .error stop => .error stop
    | .ok (v, rest) =>
      match skipSpace rest with
      | ']' :: rest => .ok ([v], rest)
      | ',' :: rest => (items fuel (skipSpace rest)).map fun (vs, rest) => (v :: vs, rest)
      | rest => .error (.fault .comma rest.length)

/-- Reads the entries of a mapping up to its closing brace, adding them to those read before. -/
def members : Nat → List (Value × Value) → Text → Step (List (Value × Value))
  | 0, _, t => .error (.fault .value t.length)
  | fuel + 1, seen, t =>
    match t with
    | '"' :: rest =>
      match stringBody t.length rest with
      | .error stop => .error stop
      | .ok (key, rest) =>
        match skipSpace rest with
        | ':' :: rest =>
          match value fuel (skipSpace rest) with
          | .error stop => .error stop
          | .ok (v, rest) =>
            match skipSpace rest with
            | '\x7d' :: rest => .ok (Value.put seen (.text key) v, rest)
            | ',' :: rest => members fuel (Value.put seen (.text key) v) (skipSpace rest)
            | rest => .error (.fault .comma rest.length)
        | rest => .error (.fault .colon rest.length)
    | _ => .error (.fault .propertyName t.length)

end

/-- Reads a document: one value with white space around it. -/
def document (t : Text) : Except Stop Value :=
  match t with
  | '\uFEFF' :: _ => .error (.fault .byteOrderMark t.length)
  | _ =>
    match value (2 * t.length + 2) (skipSpace t) with
    | .error stop => .error stop
    | .ok (v, rest) =>
      match skipSpace rest with
      | [] => .ok v
      | rest => .error (.fault .extra rest.length)

def read (t : Text) : Except Problem Value :=
  (document t).mapError fun
    | .fault fault left => .at t fault (t.length - left)
    | .number p => .number p

end LinkHarvest.Json
