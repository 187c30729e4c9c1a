import LinkHarvest.Number.Binary64
import LinkHarvest.Text.CodePoint
import LinkHarvest.Text.Utf8
import LinkHarvest.Time.Instant

/-!
# Document values

The values that JSON and YAML documents hold. A mapping keeps its entries in the order in which
their keys first came; writing to a key that is there replaces its value. Numbers are equal as keys
when they are equal as numbers, and truth values count as the numbers one and zero.
-/

namespace LinkHarvest

/-- A value of a document. Dates, bytes, sets and tuples come from YAML only. -/
inductive Value
  | null
  | bool (b : Bool)
  | int (n : Int)
  | float (x : Binary64)
  | text (t : LooseText)
  | date (d : Date)
  | time (t : Timestamp)
  | bytes (b : Bytes)
  | list (items : List Value)
  | tuple (items : List Value)
  | map (entries : List (Value × Value))
  | set (items : List Value)

instance : Inhabited Value := ⟨.null⟩

namespace Value

def ofText (t : Text) : Value := .text (.ofText t)

/-- The integer that a value counts as when it is compared with numbers. -/
def asInt? : Value → Option Int
  | .bool b => some (if b then 1 else 0)
  | .int n => some n
  | .float x => x.toInt?
  | _ => none

def sameKey (a b : Value) : Bool :=
  match a.asInt?, b.asInt? with
  | some m, some n => m == n
  | none, none =>
    match a, b with
    | .null, .null => true
    | .float x, .float y => x == y && x != .nan
    | .text s, .text t => s == t
    | .date c, .date d => c == d
    | .time s, .time t =>
      if s.offset.isSome && t.offset.isSome then
        (s.dateTime.micros : Int) - s.offset.getD 0 == (t.dateTime.micros : Int) - t.offset.getD 0
      else s == t
    | .bytes x, .bytes y => x == y
    | _, _ => false
  | _, _ => false

/-- The entries of a mapping with `key` bound to `value`. -/
def put (entries : List (Value × Value)) (key value : Value) : List (Value × Value) :=
  match entries with
  | [] => [(key, value)]
  | (k, v) :: rest => if k.sameKey key then (k, value) :: rest else (k, v) :: put rest key value

/-- The value bound to a key that is a text. -/
def find? (entries : List (Value × Value)) (key : Text) : Option Value :=
  (entries.find? fun e => e.1.sameKey (ofText key)).map (·.2)

/-- Whether a value counts as true: it is neither null, false, zero nor empty. -/
def isTruthy : Value → Bool
  | .null => false
  | .bool b => b
  | .int n => n != 0
  | .float x => !x.isZero
  | .text t => !t.isEmpty
  | .date _ => true
  | .time _ => true
  | .bytes b => !b.isEmpty
  | .list items => !items.isEmpty
  | .tuple items => !items.isEmpty
  | .map entries => !entries.isEmpty
  | .set items => !items.isEmpty

end Value

end LinkHarvest
