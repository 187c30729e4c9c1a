import LinkHarvest.Number.Integer

/-!
# What is wrong with a YAML text

Most faults break a rule of the language. A text may also keep these rules and still hold a
scalar that stands for nothing: a numeral that is too long, a day that is in no month, an escape
beyond the last code point, parts of sixty that count more than any number with a point.
-/

namespace LinkHarvest.Yaml

/-- Why a text is no YAML document. -/
inductive Problem
  | malformed
  | integer (problem : Integer.Problem)
  | number (t : Text)
  | moment (reason : Text)
  | zone (seconds : Int)
  | codePoint
  | codePointSize
  | truthValue (word : Text)
  | noDigits
  | notATime
  | notAText
  | unitSize
  deriving DecidableEq, Repr

/-- A length of time as messages give it: whole days, rounded down, and the seconds beyond them. -/
def durationShown (seconds : Int) : Text :=
  let days := Int.fdiv seconds 86400
  let rest := Int.fmod seconds 86400
  Text.concat ["datetime.timedelta(days=", Text.ofInt days,
    if rest = 0 then [] else ", seconds=".toList ++ Text.ofInt rest, ")"]

def Problem.message : Problem → Text
  | .malformed => []
  | .integer p => p.message
  | .number t => "could not convert string to float: " ++ Text.quoted t
  | .moment reason => reason
  | .zone seconds =>
    Text.concat ["offset must be a timedelta strictly between -timedelta(hours=24) and ",
      "timedelta(hours=24), not ", durationShown seconds, "."]
  | .codePoint => "chr() arg not in range(0x110000)"
  | .codePointSize => "Python int too large to convert to C int"
  | .truthValue word => Text.quoted word
  | .noDigits => "string index out of range"
  | .notATime => "'NoneType' object has no attribute 'groupdict'"
  | .notAText => "expected string or bytes-like object, got 'list'"
  | .unitSize => "int too large to convert to float"

end LinkHarvest.Yaml
