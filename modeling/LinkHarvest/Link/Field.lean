import LinkHarvest.Data.Display
import LinkHarvest.Link.Summary
import LinkHarvest.Number.Integer

/-!
# Optional fields

The fields that a link may carry beside its required parts, read from a query or from a JSON
object. A field that is absent, null or no integer where one is asked for is left out.
-/

namespace LinkHarvest.Link

/-- What a field holds. -/
inductive FieldKind
  | text
  | integer
  deriving DecidableEq, Repr

/-- A field: the key it is read from, the attribute it sets unless that is the key itself, and what
it holds. -/
structure Field where
  name : Text
  target : Option Text := none
  kind : FieldKind := .text
  deriving DecidableEq, Repr

namespace Field

def attributeName (f : Field) : Text :=
  match f.target with
  | none => f.name
  | some target => if target.isEmpty then f.name else target

/-- The value that stands for an entry: of a list, its first item. -/
def scalar? : Value → Option Value
  | .list [] => none
  | .list (v :: _) => some v
  | v => some v

/-- Reads a field's value from what its key is bound to. -/
def ofValue? (kind : FieldKind) (v : Value) : Option Detail := do
  let v ← scalar? v
  match v with
  | .null => none
  | v =>
    match kind with
    | .text => some (.text v.display)
    | .integer => do
      let t ← v.display.toText?
      return .int (← Integer.read? (Text.trim t))

/-- Reads a field from the entries of a mapping. -/
def read? (f : Field) (values : List (Value × Value)) : Option Detail :=
  (Value.find? values f.name).bind (ofValue? f.kind)

end Field

def readFields (fields : List Field) (values : List (Value × Value)) : Details :=
  fields.foldl (fun details f =>
    match f.read? values with
    | some v => details.set f.attributeName v
    | none => details) []

end LinkHarvest.Link
