import LinkHarvest.Json.Problem
import LinkHarvest.Text.CodePoint
import LinkHarvest.Url.Split

/-!
# Decoded links

What is known about a proxy link once it is decoded, whatever its protocol, and what is said of a
link that cannot be decoded.
-/

namespace LinkHarvest

/-- The value of a detail of a link. -/
inductive Detail
  | text (t : LooseText)
  | int (n : Int)
  deriving DecidableEq, Repr

/-- The details of a link under their attributes, in the order in which they were first set. -/
abbrev Details := List (Text × Detail)

namespace Details

def set (details : Details) (name : Text) (value : Detail) : Details :=
  match details with
  | [] => [(name, value)]
  | (a, v) :: rest =>
    if a = name then (a, value) :: rest else (a, v) :: set rest name value

def update (details more : Details) : Details :=
  more.foldl (fun d e => d.set e.1 e.2) details

def get? (details : Details) (name : Text) : Option Detail :=
  (details.find? fun e => e.1 = name).map (·.2)

end Details

/-- What a decoded link says, in the same form for every protocol. -/
structure Summary where
  protocol : Text
  remark : LooseText
  address : LooseText
  details : Details
  deriving DecidableEq, Repr

namespace Link

/-- Why a link does not follow the grammar of its protocol. -/
inductive Problem
  | unrecognised (protocol link : Text)
  | missingHost
  | missingCredential (name : Text)
  | notBase64
  | notAnObject
  | url (problem : Url.Problem)
  | json (problem : Json.Problem)
  deriving DecidableEq, Repr

def Problem.message : Problem → Text
  | .unrecognised protocol link => Text.concat [protocol, " unrecognised: ", link]
  | .missingHost => "missing host"
  | .missingCredential name => "missing " ++ name
  | .notBase64 => "payload is not base64"
  | .notAnObject => "vmess payload is not a JSON object"
  | .url p => p.message
  | .json p => p.message

/-- A link that could not be decoded. It is still a link, of no known protocol. -/
structure Failure where
  link : Text
  reason : Text
  hint : Option Text
  deriving DecidableEq, Repr

abbrev Decoded := Except Failure Summary

/-- The address of a host and port; a host with colons stands in brackets. -/
def address (host : LooseText) (port : Option Int) : LooseText :=
  let host :=
    if host.contains (.char ':') && host.head? != some (.char '[') then
      LooseText.ofText ['['] ++ host ++ LooseText.ofText [']']
    else host
  match port with
  | none => host
  | some n => host ++ LooseText.ofText (':' :: Text.ofInt n)

end Link

end LinkHarvest
