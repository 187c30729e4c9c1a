import LinkHarvest.Number.Integer

/-!
# What is wrong with a JSON text

A fault of the syntax is reported with its place, as line, column and number of characters before
it. A number may also be well formed and still too long to be read.
-/

namespace LinkHarvest.Json

/-- A fault of the syntax. -/
inductive Fault
  | byteOrderMark
  | value
  | propertyName
  | colon
  | comma
  | extra
  | unterminated
  | control
  | escape
  | unicodeEscape
  deriving DecidableEq, Repr

def Fault.message : Fault → Text
  | .byteOrderMark => "Unexpected UTF-8 BOM (decode using utf-8-sig)"
  | .value => "Expecting value"
  | .propertyName => "Expecting property name enclosed in double quotes"
  | .colon => "Expecting ':' delimiter"
  | .comma => "Expecting ',' delimiter"
  | .extra => "Extra data"
  | .unterminated => "Unterminated string starting at"
  | .control => "Invalid control character at"
  | .escape => "Invalid \\escape"
  | .unicodeEscape => "Invalid \\uXXXX escape"

/-- Why a text is no JSON document. -/
inductive Problem
  | malformed (fault : Fault) (line column position : Nat)
  | number (problem : Integer.Problem)
  deriving DecidableEq, Repr

def Problem.message : Problem → Text
  | .malformed fault line column position =>
    Text.concat [fault.message, ": line ", Text.ofNat line, " column ", Text.ofNat column,
      " (char ", Text.ofNat position, ")"]
  | .number p => p.message

/-- The problem of a fault at a position of a text. -/
def Problem.at (t : Text) (fault : Fault) (position : Nat) : Problem :=
  let seen := t.take position
  .malformed fault (seen.count '\n' + 1) ((seen.reverse.takeWhile (· ≠ '\n')).length + 1) position

end LinkHarvest.Json
