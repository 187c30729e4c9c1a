import LinkHarvest.Data.Display
import LinkHarvest.Retrieval.Workers
import LinkHarvest.Url.Split

/-!
# Problems of options

What is wrong with a value that is given for an option, and how it is reported: each fault has a
code and a message, and is reported under the name of its option.
-/

namespace LinkHarvest.Options

/-- What is wrong with a value. -/
inductive Fault
  | integerKind
  | integerText
  | integerSize
  | integerFraction
  | notFinite
  | booleanKind
  | booleanText
  | numberKind
  | numberText
  | textKind
  | textEncoding
  | tooFewWorkers (n : Int)
  | tooManyWorkers (n : Int)
  | numeralTooLong
  | proxyUrl (p : Url.Problem)
  | proxyForm (proxy : Text)
  | timeoutNotPositive
  | noSource
  | severalSources
  deriving DecidableEq, Repr

def proxySchemes : List Text := ["http", "https", "socks5", "socks5h"]

namespace Fault

def code : Fault → Text
  | .integerKind => "int_type"
  | .integerText => "int_parsing"
  | .integerSize => "int_parsing_size"
  | .integerFraction => "int_from_float"
  | .notFinite => "finite_number"
  | .booleanKind => "bool_type"
  | .booleanText => "bool_parsing"
  | .numberKind => "float_type"
  | .numberText => "float_parsing"
  | .textKind => "string_type"
  | .textEncoding => "string_unicode"
  | _ => "value_error"

def rule : Fault → Text
  | .tooFewWorkers n =>
    if Integer.isTooLong n then Integer.tooLongMessage
    else
      Text.concat ["workers must be at least ", Text.ofInt Retrieval.minWorkers, ", got ",
        Text.ofInt n]
  | .tooManyWorkers n =>
    if Integer.isTooLong n then Integer.tooLongMessage
    else
      Text.concat ["workers must be at most ", Text.ofInt Retrieval.maxWorkers, ", got ",
        Text.ofInt n]
  | .numeralTooLong => Integer.tooLongMessage
  | .proxyUrl p => p.message
  | .proxyForm proxy =>
    Text.concat ["proxy must be an absolute URL with scheme ", Text.joined ", " proxySchemes,
      ", got ", Text.quoted proxy]
  | .timeoutNotPositive => "request_timeout must be > 0"
  | .noSource => "one of subscription id, url, all or file must be provided"
  | .severalSources => "subscription id, url, all and file are mutually exclusive"
  | _ => []

def message : Fault → Text
  | .integerKind => "Input should be a valid integer"
  | .integerText => "Input should be a valid integer, unable to parse string as an integer"
  | .integerSize => "Unable to parse input string as an integer, exceeded maximum size"
  | .integerFraction => "Input should be a valid integer, got a number with a fractional part"
  | .notFinite => "Input should be a finite number"
  | .booleanKind => "Input should be a valid boolean"
  | .booleanText => "Input should be a valid boolean, unable to interpret input"
  | .numberKind => "Input should be a valid number"
  | .numberText => "Input should be a valid number, unable to parse string as a number"
  | .textKind => "Input should be a valid string"
  | .textEncoding => "Input should be a valid string, unable to parse raw data as a unicode string"
  | f => "Value error, " ++ f.rule

end Fault

/-- A fault under the name of its option; a fault of the options together has no name. -/
structure Problem where
  name : Option Text
  fault : Fault
  deriving DecidableEq, Repr

/-- Why options are not accepted: their values have problems, or a value that cannot even be read
as a path stands where a path is needed. -/
inductive Rejection
  | problems (ps : List Problem)
  | notAPath (kind : Text)
  deriving DecidableEq, Repr

def messages (ps : List Problem) : Text := Text.joined "; " (ps.map fun p => p.fault.message)

def notAPathMessage (kind : Text) : Text :=
  if kind = "bytes".toList then
    Text.concat ["argument should be a str object or an os.PathLike object returning str, not ",
      "<class 'bytes'>"]
  else "expected str, bytes or os.PathLike object, not " ++ kind

end LinkHarvest.Options
