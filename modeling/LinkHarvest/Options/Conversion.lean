import LinkHarvest.Files.Path
import LinkHarvest.Number.Decimal
import LinkHarvest.Options.Problem

/-!
# Conversion of values

Options take values of other kinds as long as nothing is lost: an integer may be given as a truth
value, as a whole number or as text, a truth value as zero or one or as one of the usual words,
a number as anything that has a numeric value. Numbers are never taken for text.
-/

namespace LinkHarvest.Options

/-- The text of a value that is text, or bytes that are UTF-8. -/
def textOf? (v : Value) : Option (Option Text) :=
  match v with
  | .text t => some t.toText?
  | .bytes b => some (Utf8.decode? b)
  | _ => none

/-! ## Integers -/

/-- What follows zeros at the start of a numeral, of which `last` is the last character. Underscores
among the zeros go with them. A zero is kept when nothing but a fraction follows. -/
def afterZeros (last : Char) : Text → Option Text
  | [] => some [last]
  | c :: rest =>
    if c = '0' ∨ c = '_' then afterZeros c rest
    else if c = '.' then some (last :: c :: rest)
    else if '1' ≤ c ∧ c ≤ '9' then some (c :: rest)
    else none

/-- The numeral without the zeros at its start, if the text starts as a numeral does. -/
def withoutZeros : Text → Option Text
  | '0' :: rest => afterZeros '0' rest
  | c :: rest => if ('1' ≤ c ∧ c ≤ '9') ∨ c = '-' then some (c :: rest) else none
  | [] => none

/-- The text without a fraction that is zero. -/
def withoutFraction (t : Text) : Text :=
  match Text.cut '.' t with
  | (whole, some fraction) => if fraction.all (· = '0') then whole else t
  | (_, none) => t

/-- Whether two underscores stand side by side. -/
def hasDoubleUnderscore : Text → Bool
  | '_' :: '_' :: _ => true
  | _ :: rest => hasDoubleUnderscore rest
  | [] => false

/-- The text without underscores, if these stand between other characters only. -/
def withoutUnderscores (t : Text) : Text :=
  if t.startsWith ['_'] || t.endsWith ['_'] || hasDoubleUnderscore t then t
  else t.filter (· ≠ '_')

/-- Reads a plain decimal numeral with an optional minus sign and no leading zeros. -/
def plainInteger (t : Text) : Except Fault Int :=
  let (negative, digits) :=
    match t with
    | '-' :: rest => (true, rest)
    | _ => (false, t)
  if digits.isEmpty || !digits.all Char.isDigit then .error .integerText
  else if digits.head? = some '0' && digits.length ≠ 1 then .error .integerText
  else if Integer.digitLimit < digits.length then .error .integerSize
  else .ok (Integer.signed negative (Decimal.ofDigits digits))

def integerOfText (t : Text) : Except Fault Int :=
  let t := Integer.trimMargins t
  let t :=
    match t with
    | '+' :: rest => rest
    | _ => t
  match withoutZeros t with
  | none => .error .integerText
  | some t => plainInteger (withoutUnderscores (withoutFraction t))

/-- The greatest integers that are taken from a number with a point lie below this bound. -/
def floatBound : Int := 9223372036854775808

/-- Reads an integer from a number with a point. -/
def integerOfFloat (x : Binary64) : Except Fault Int :=
  if !x.isFinite then .error .notFinite
  else
    match x.toInt? with
    | none => .error .integerFraction
    | some n => if -floatBound < n ∧ n < floatBound then .ok n else .error .integerSize

def toInteger (v : Value) : Except Fault Int :=
  match v with
  | .int n => .ok n
  | .bool b => .ok (if b then 1 else 0)
  | .float x => integerOfFloat x
  | _ =>
    match textOf? v with
    | some (some t) => integerOfText t
    | some none => .error .integerText
    | none => .error .integerKind

/-! ## Truth values -/

def booleanOfText (t : Text) : Except Fault Bool :=
  let word := String.ofList (t.map Char.toLower)
  if ["0", "f", "n", "no", "off", "false"].contains word then .ok false
  else if ["1", "t", "y", "on", "yes", "true"].contains word then .ok true
  else .error .booleanText

def booleanOfInteger (n : Int) : Except Fault Bool :=
  if n = 0 then .ok false else if n = 1 then .ok true else .error .booleanText

def toBoolean (v : Value) : Except Fault Bool :=
  match v with
  | .bool b => .ok b
  | .int n =>
    if -floatBound ≤ n ∧ n < floatBound then booleanOfInteger n else .error .booleanKind
  | .float x =>
    match integerOfFloat x with
    | .ok n => booleanOfInteger n
    | .error _ => .error .booleanKind
  | _ =>
    match textOf? v with
    | some (some t) => booleanOfText t
    | some none => .error .booleanText
    | none => .error .booleanKind

/-! ## Numbers -/

def numberOfText (t : Text) : Except Fault Binary64 :=
  match Decimal.read? (Integer.trimMargins t) with
  | some x => .ok x
  | none =>
    match Decimal.read? (withoutUnderscores t) with
    | some x => .ok x
    | none => .error .numberText

def toNumber (v : Value) : Except Fault Binary64 :=
  match v with
  | .float x => .ok x
  | .bool b => .ok (.ofInt (if b then 1 else 0))
  | .int n => if (Binary64.ofInt n).isFinite then .ok (.ofInt n) else .error .numberKind
  | _ =>
    match textOf? v with
    | some (some t) => numberOfText t
    | some none => .error .numberText
    | none => .error .numberKind

/-! ## Text and paths -/

def toText (v : Value) : Except Fault Text :=
  match v with
  | .text t => .ok t.toText
  | .bytes b =>
    match Utf8.decode? b with
    | some t => .ok t
    | none => .error .textEncoding
  | _ => .error .textKind

def toOptionalText (v : Value) : Except Fault (Option Text) :=
  match v with
  | .null => .ok none
  | _ => (toText v).map some

def toPath (v : Value) : Except Rejection FilePath :=
  match v with
  | .text t => .ok (.ofText t.toText)
  | _ => .error (.notAPath v.kind)

/-- Reads a path that may be left out or empty. -/
def toOptionalPath (v : Value) : Except Rejection (Option FilePath) :=
  match v with
  | .null => .ok none
  | .text [] => .ok none
  | _ => (toPath v).map some

/-- Null in place of text that holds white space only. -/
def blankAsNull (v : Value) : Value :=
  match v with
  | .text t => if (t.toText?.map Text.isBlankText).getD false then .null else v
  | _ => v

/-! ## Rules -/

def checkWorkers (n : Int) : Except Fault Int :=
  if n < Retrieval.minWorkers then .error (.tooFewWorkers n)
  else if Retrieval.maxWorkers < n then .error (.tooManyWorkers n)
  else .ok n

/-- Checks the URL of a proxy, which is trimmed. -/
def checkProxy (proxy : Text) : Except Fault Text :=
  match Url.split (Text.trim proxy) with
  | .error p => .error (.proxyUrl p)
  | .ok parts =>
    if !proxySchemes.contains (Text.lower parts.scheme) || parts.netloc.isEmpty then
      .error (.proxyForm proxy)
    else .ok (Text.trim proxy)

/-- Reads an option that is given, or takes its default. -/
def fieldOr (values : List (Value × Value)) (name : Text) (default : α)
    (read : Value → Except ε α) : Except ε α :=
  match Value.find? values name with
  | none => .ok default
  | some v => read v

/-- The problem that reading an option has found. -/
def problemOf (name : Text) : Except Fault α → List Problem
  | .ok _ => []
  | .error fault => [⟨some name, fault⟩]

end LinkHarvest.Options
