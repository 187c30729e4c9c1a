import LinkHarvest.Data.Value
import LinkHarvest.Number.Integer
import LinkHarvest.Number.Shortest
import LinkHarvest.Text.Quoted

/-!
# Values as text

How a document value is written where a text is needed: a text stands for itself, and any other
value, as well as a text inside a list or mapping, is written out with brackets and quotes.
-/

namespace LinkHarvest

namespace LooseText

/-- Whether messages quote the text between double quotes. -/
def quoteMark (t : LooseText) : Char :=
  if t.contains (.char '\'') && !t.contains (.char '"') then '"' else '\''

/-- The text between quotation marks; unpaired surrogate halves are written as escapes. -/
def quoted (t : LooseText) : Text :=
  let mark := quoteMark t
  mark :: t.flatMap (fun
    | .char c => Text.quotedChar mark c
    | .half code => Text.numericEscape code) ++ [mark]

end LooseText

namespace Bytes

def quotedByte (mark : Char) (b : UInt8) : Text :=
  if b.toNat < 127 ∧ (32 ≤ b.toNat ∨ b.toNat = 9 ∨ b.toNat = 10 ∨ b.toNat = 13) then
    Text.quotedChar mark (Char.ofNat b.toNat)
  else "\\x" ++ Text.hex 2 b.toNat

def quoted (b : Bytes) : Text :=
  let mark := if b.contains 39 && !b.contains 34 then '"' else '\''
  'b' :: mark :: b.flatMap (quotedByte mark) ++ [mark]

end Bytes

namespace Timestamp

/-- The offset in full: days, seconds and microseconds east of universal time, without those that
are zero. -/
def zoneShown (offset : Int) : Text :=
  if offset = 0 then "datetime.timezone.utc"
  else
    let days := offset / DateTime.microsPerDay
    let rest := offset % DateTime.microsPerDay
    let part (name : Text) (n : Int) : List Text :=
      if n = 0 then [] else [name ++ '=' :: Text.ofInt n]
    let parts := part "days" days ++ part "seconds" (rest / 1000000) ++
      part "microseconds" (rest % 1000000)
    Text.concat ["datetime.timezone(datetime.timedelta(", Text.joined ", " parts, "))"]

/-- The parts of a time of day; seconds and microseconds only when they are not zero. -/
def timeParts (t : TimeOfDay) : List Nat :=
  [t.hour, t.minute] ++
    (if t.second = 0 ∧ t.micro = 0 then [] else if t.micro = 0 then [t.second]
      else [t.second, t.micro])

/-- The timestamp with its parts in brackets. -/
def inFull (t : Timestamp) : Text :=
  let d := t.dateTime.date
  let parts := ([d.year, d.month, d.day] ++ timeParts t.dateTime.time).map Text.ofNat
  Text.concat ["datetime.datetime(", Text.joined ", " parts,
    (t.offset.map fun offset => ", tzinfo=".toList ++ zoneShown offset).getD [], ")"]

end Timestamp

namespace Value

mutual

/-- A value as it stands inside a list or mapping. -/
def inFull : Value → Text
  | .null => "None"
  | .bool b => if b then "True" else "False"
  | .int n => Text.ofInt n
  | .float x => x.text
  | .text t => t.quoted
  | .date d =>
    Text.concat ["datetime.date(", Text.joined ", " ([d.year, d.month, d.day].map Text.ofNat), ")"]
  | .time t => t.inFull
  | .bytes b => Bytes.quoted b
  | .list items => Text.concat ["[", Text.joined ", " (allInFull items), "]"]
  | .tuple items =>
    Text.concat ["(", Text.joined ", " (allInFull items), if items.length = 1 then "," else "",
      ")"]
  | .map entries => Text.concat ["\x7b", Text.joined ", " (entriesInFull entries), "\x7d"]
  | .set items =>
    if items.isEmpty then "set()"
    else Text.concat ["\x7b", Text.joined ", " (allInFull items), "\x7d"]

def allInFull : List Value → List Text
  | [] => []
  | v :: rest => inFull v :: allInFull rest

/-- The entries of a mapping, each as key and value in full. -/
def entriesInFull : List (Value × Value) → List Text
  | [] => []
  | (k, v) :: rest => (inFull k ++ ": " ++ inFull v) :: entriesInFull rest

end

mutual

/-- Whether a value holds an integer that cannot be written. -/
def holdsTooLong : Value → Bool
  | .int n => Integer.isTooLong n
  | .list items => anyTooLong items
  | .tuple items => anyTooLong items
  | .map entries => entriesTooLong entries
  | .set items => anyTooLong items
  | _ => false

/-- Whether one of several values holds an integer that cannot be written. -/
def anyTooLong : List Value → Bool
  | [] => false
  | v :: rest => holdsTooLong v || anyTooLong rest

/-- Whether a key or value of some entries holds an integer that cannot be written. -/
def entriesTooLong : List (Value × Value) → Bool
  | [] => false
  | (k, v) :: rest => holdsTooLong k || holdsTooLong v || entriesTooLong rest

end

def display : Value → LooseText
  | .text t => t
  | .date d => d.text
  | .time t => t.text ' '
  | v => inFull v

/-- The name of the kind of a value, as messages about wrong kinds give it. -/
def kind : Value → Text
  | .null => "NoneType"
  | .bool _ => "bool"
  | .int _ => "int"
  | .float _ => "float"
  | .text _ => "str"
  | .date _ => "date"
  | .time _ => "datetime"
  | .bytes _ => "bytes"
  | .list _ => "list"
  | .tuple _ => "tuple"
  | .map _ => "dict"
  | .set _ => "set"

end Value

end LinkHarvest
