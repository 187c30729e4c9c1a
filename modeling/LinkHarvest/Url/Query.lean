import LinkHarvest.Data.Value
import LinkHarvest.Text.Percent

/-!
# Queries

The parameters of a query: pairs joined by ampersands, with plus signs for blanks and percent
escapes in names and values. A name without a value has the empty value, and a name that comes more
than once has all its values.
-/

namespace LinkHarvest.Url.Query

/-- A name or value with its escapes decoded. -/
def unescape (t : Text) : Text :=
  Percent.decodeReplacing (t.map fun c => if c = '+' then ' ' else c)

/-- The name and value that a piece of a query writes. -/
def pair (piece : Text) : Text × Text :=
  let (name, value) := Text.cut '=' piece
  (unescape name, unescape (value.getD []))

/-- The names and values of a query, in order. -/
def pairs (query : Text) : List (Text × Text) :=
  ((Text.split '&' query).filter (!·.isEmpty)).map pair

def addValue (entries : List (Value × Value)) (name value : Text) : List (Value × Value) :=
  match Value.find? entries name with
  | some (.list values) => Value.put entries (.ofText name) (.list (values ++ [.ofText value]))
  | _ => entries ++ [(.ofText name, .list [.ofText value])]

/-- The parameters of a query: each name with the list of its values. -/
def parameters (query : Text) : List (Value × Value) :=
  (pairs query).foldl (fun entries p => addValue entries p.1 p.2) []

end LinkHarvest.Url.Query
