import LinkHarvest.Yaml.Moment

/-!
# Tags

A tag says what a node stands for. A node may carry its tag; a plain scalar without one has the tag
that its form suggests.
-/

namespace LinkHarvest.Yaml

/-- What a node stands for. -/
inductive Tag
  | null
  | bool
  | int
  | float
  | moment
  | text
  | binary
  | merge
  | value
  | sequence
  | mapping
  | set
  | pairs
  | unknown
  deriving DecidableEq, Repr

namespace Tag

/-- What the names of the tags that every document knows start with. -/
def common : Text := "tag:yaml.org,2002:"

def known : List (Text × Tag) :=
  [("null", .null), ("bool", .bool), ("int", .int), ("float", .float), ("timestamp", .moment),
    ("str", .text), ("binary", .binary), ("merge", .merge), ("value", .value),
    ("seq", .sequence), ("map", .mapping), ("set", .set), ("omap", .pairs), ("pairs", .pairs)]

def ofName (name : Text) : Tag :=
  ((known.find? fun entry => name = common ++ entry.1).map (·.2)).getD .unknown

/-! ## Forms of plain scalars -/

def nullWords : List String := ["~", "null", "Null", "NULL", ""]

def boolWords : List String :=
  ["yes", "Yes", "YES", "no", "No", "NO", "true", "True", "TRUE", "false", "False", "FALSE", "on",
    "On", "ON", "off", "Off", "OFF"]

/-- Whether a text is not empty and each of its characters satisfies `p`. -/
def isRun (p : Char → Bool) (t : Text) : Bool := !t.isEmpty && t.all p

/-- Whether a character is a digit or an underscore. -/
def isDigitOrLine (c : Char) : Bool := c.isDigit || c == '_'

/-- Whether a text consists of digits and underscores and starts with a digit. -/
def isNumeral (t : Text) : Bool :=
  match t with
  | c :: rest => c.isDigit && rest.all isDigitOrLine
  | [] => false

/-- Whether a text is a number below sixty of at most two digits. -/
def isSixtieth (t : Text) : Bool :=
  match t with
  | [a] => a.isDigit
  | [a, b] => '0' ≤ a && a ≤ '5' && b.isDigit
  | _ => false

/-- Whether a text is an integer, without its sign. -/
def isUnsignedInteger (t : Text) : Bool :=
  match t with
  | ['0'] => true
  | '0' :: 'b' :: rest => isRun (fun c => c == '0' || c == '1' || c == '_') rest
  | '0' :: 'x' :: rest => isRun (fun c => (Text.hexDigit? c).isSome || c == '_') rest
  | '0' :: rest => isRun (fun c => ('0' ≤ c && c ≤ '7') || c == '_') rest
  | _ =>
    match Text.split ':' t with
    | whole :: sixtieths => isNumeral whole && sixtieths.all isSixtieth
    | [] => false

def isInteger (t : Text) : Bool := isUnsignedInteger (Integer.sign t).2

/-- Whether a text is an exponent, or empty. An exponent has a sign. -/
def isExponent (t : Text) : Bool :=
  match t with
  | [] => true
  | e :: sign :: digits =>
    (e == 'e' || e == 'E') && (sign == '+' || sign == '-') && isRun Char.isDigit digits
  | _ => false

/-- Whether a text is the part of a number behind its point. -/
def isFraction (t : Text) : Bool := isExponent (t.dropWhile isDigitOrLine)

/-- Whether a plain scalar is a number with a point. A number that starts with its point has no
sign. -/
def isFloat (t : Text) : Bool :=
  let u := (Integer.sign t).2
  let word := String.ofList u
  if [".inf", ".Inf", ".INF"].contains word then true
  else if [".nan", ".NaN", ".NAN"].contains (String.ofList t) then true
  else
    match Text.cut '.' u with
    | ([], some rest) => t.head? == some '.' && (rest.headD 'x').isDigit && isFraction rest
    | (whole, some rest) =>
      match Text.split ':' whole with
      | [_] => isNumeral whole && isFraction rest
      | first :: sixtieths =>
        isNumeral first && sixtieths.all isSixtieth && rest.all isDigitOrLine
      | [] => false
    | _ => false

/-- The tag that the form of a plain scalar suggests. -/
def ofPlain (t : Text) : Tag :=
  let word := String.ofList t
  if nullWords.contains word then .null
  else if boolWords.contains word then .bool
  else if isFloat t then .float
  else if isInteger t then .int
  else if word = "<<" then .merge
  else if word = "=" then .value
  else if Moment.isPlain t then .moment
  else .text

end Tag

end LinkHarvest.Yaml
