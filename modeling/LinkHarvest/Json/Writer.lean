import LinkHarvest.Data.Display

/-!
# Writing JSON

A document as JSON text with two blanks of indentation for each level. Characters beyond ASCII are
written as they are.
-/

namespace LinkHarvest.Json

/-- A code point as it stands in a string. -/
def writtenPoint : CodePoint → Text
  | .half code => "\\u" ++ Text.hex 4 code
  | .char c =>
    match c with
    | '"' => "\\\""
    | '\\' => "\\\\"
    | '\n' => "\\n"
    | '\r' => "\\r"
    | '\t' => "\\t"
    | '\x0c' => "\\f"
    | '\x08' => "\\b"
    | c => if c.toNat < 32 then "\\u" ++ Text.hex 4 c.toNat else [c]

def writtenString (t : LooseText) : Text := '"' :: t.flatMap writtenPoint ++ ['"']

def writtenFloat : Binary64 → Text
  | .nan => "NaN"
  | .infinite negative => if negative then "-Infinity" else "Infinity"
  | x => x.text

/-- A line break with the indentation of a level. -/
def lineBreak (level : Nat) : Text := '\n' :: List.replicate (2 * level) ' '

/-- Items between brackets, each on a line of its own. -/
def bracketed (opening closing : Char) (level : Nat) (pieces : List Text) : Text :=
  if pieces.isEmpty then [opening, closing]
  else
    opening :: lineBreak (level + 1) ++ Text.joined (',' :: lineBreak (level + 1)) pieces ++
      lineBreak level ++ [closing]

/-- The text of a key that is not a string. -/
def scalarKey (v : Value) : Text :=
  match v with
  | .null => "null"
  | .bool b => if b then "true" else "false"
  | .float x => writtenFloat x
  | v => v.inFull

mutual

def written (level : Nat) : Value → Text
  | .null => "null"
  | .bool b => if b then "true" else "false"
  | .int n => Text.ofInt n
  | .float x => writtenFloat x
  | .text t => writtenString t
  | .list items => bracketed '[' ']' level (allWritten (level + 1) items)
  | .tuple items => bracketed '[' ']' level (allWritten (level + 1) items)
  | .map entries => bracketed '\x7b' '\x7d' level (entriesWritten (level + 1) entries)
  | v => writtenString v.display

def allWritten (level : Nat) : List Value → List Text
  | [] => []
  | v :: rest => written level v :: allWritten level rest

def entriesWritten (level : Nat) : List (Value × Value) → List Text
  | [] => []
  | (k, v) :: rest =>
    let key := match k with
      | .text t => writtenString t
      | k => '"' :: scalarKey k ++ ['"']
    (key ++ ": " ++ written level v) :: entriesWritten level rest

end

def write (v : Value) : Text := written 0 v

end LinkHarvest.Json
