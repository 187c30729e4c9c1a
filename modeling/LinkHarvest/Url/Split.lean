import LinkHarvest.Number.Integer
import LinkHarvest.Text.Case
import LinkHarvest.Text.Quoted
import LinkHarvest.Url.Ip

/-!
# Parts of a URL

A URL reference is cut into scheme, network location, path, query and fragment, and the network
location into user information, host name and port. Leading controls and blanks, and tabs and line
breaks anywhere, do not count. Brackets around a host have to hold a version 6 address.
-/

namespace LinkHarvest.Url

/-- Why a text is no URL, or why its port cannot be read. -/
inductive Problem
  | unbalancedBrackets
  | futureAddress
  | bracketedVersion4
  | notAnAddress (host : Text)
  | compatibilityCharacter (netloc : Text)
  | portNotInteger (port : Text)
  | portOutOfRange
  | portTooLong (digits : Nat)
  deriving DecidableEq, Repr

def Problem.message : Problem → Text
  | .unbalancedBrackets => "Invalid IPv6 URL"
  | .futureAddress => "IPvFuture address is invalid"
  | .bracketedVersion4 => "An IPv4 address cannot be in brackets"
  | .notAnAddress host => Text.quoted host ++ " does not appear to be an IPv4 or IPv6 address"
  | .compatibilityCharacter netloc =>
    Text.concat ["netloc '", netloc, "' contains invalid characters under NFKC normalization"]
  | .portNotInteger port => "Port could not be cast to integer value as " ++ Text.quoted port
  | .portOutOfRange => "Port out of range 0-65535"
  | .portTooLong digits => (Integer.Problem.tooLong digits).message

/-- The parts of a URL reference, each empty when it is missing. -/
structure Parts where
  scheme : Text
  netloc : Text
  path : Text
  query : Text
  fragment : Text
  deriving DecidableEq, Repr

/-! ## Cutting -/

/-- Whether a character may stand in a scheme. -/
def isSchemeChar (c : Char) : Bool := c.isAlphanum || c == '+' || c == '-' || c == '.'

/-- The scheme, in lower case, and what follows it. -/
def cutScheme (t : Text) : Text × Text :=
  match t with
  | [] => ([], t)
  | first :: _ =>
    match Text.cut ':' t with
    | (scheme, some rest) =>
      if first.isAlpha && scheme.all isSchemeChar then (scheme.map Char.toLower, rest) else ([], t)
    | (_, none) => ([], t)

/-- Whether a character ends a network location. -/
def endsNetloc (c : Char) : Bool := c == '/' || c == '?' || c == '#'

/-- The network location, which follows two slashes, and what follows it. -/
def cutNetloc : Text → Text × Text
  | '/' :: '/' :: rest =>
    (rest.takeWhile fun c => !endsNetloc c, rest.dropWhile fun c => !endsNetloc c)
  | t => ([], t)

/-- The text as a URL is read from it: without controls and blanks at its start and without tabs
and line breaks. -/
def cleaned (t : Text) : Text :=
  Text.without (t.dropWhile fun c => c.toNat ≤ 32) ['\t', '\r', '\n']

/-! ## Checks of the network location -/

/-- Whether a host starting with `v` is an address of a future version. -/
def isFutureAddress (host : Text) : Bool :=
  match Text.cut '.' (host.drop 1) with
  | (digits, some rest) =>
    !digits.isEmpty && digits.all (fun c => (Text.hexDigit? c).isSome) && !rest.isEmpty
  | (_, none) => false

def checkBracketedHost (host : Text) : Except Problem Unit :=
  if host.startsWith ['v'] then
    if isFutureAddress host then .ok () else .error .futureAddress
  else if Ip.isVersion4 host then .error .bracketedVersion4
  else if Ip.isVersion6 host then .ok ()
  else .error (.notAnAddress host)

/-- The part of a network location after its user information. -/
def hostAndPort (netloc : Text) : Text :=
  match Text.cutLast '@' netloc with
  | some (_, rest) => rest
  | none => netloc

/-- Checks the brackets of a network location that has both kinds. -/
def checkBracketedNetloc (netloc : Text) : Except Problem Unit :=
  match Text.cut '[' (hostAndPort netloc) with
  | (before, some bracketed) =>
    if !before.isEmpty then .error .unbalancedBrackets
    else
      let port := Text.after ']' bracketed
      if !port.isEmpty && !port.startsWith [':'] then .error .unbalancedBrackets
      else checkBracketedHost (Text.before ']' bracketed)
  | (plain, none) => checkBracketedHost (Text.before ':' plain)

/-- Checks the brackets of a network location. -/
def checkBrackets (netloc : Text) : Except Problem Unit :=
  match netloc.contains '[', netloc.contains ']' with
  | true, true => checkBracketedNetloc netloc
  | false, false => .ok ()
  | _, _ => .error .unbalancedBrackets

/-- The characters whose compatibility form holds a delimiter of URLs. -/
def delimiterLike : List Nat :=
  [0x2047, 0x2048, 0x2049, 0x2100, 0x2101, 0x2105, 0x2106, 0x2A74, 0xFE13, 0xFE16, 0xFE55, 0xFE56,
   0xFE5F, 0xFE6B, 0xFF03, 0xFF0F, 0xFF1A, 0xFF1F, 0xFF20]

/-- Checks that no character of a network location could be taken for a delimiter. -/
def checkCompatibility (netloc : Text) : Except Problem Unit :=
  if netloc.any fun c => delimiterLike.contains c.toNat then .error (.compatibilityCharacter netloc)
  else .ok ()

def split (t : Text) : Except Problem Parts := do
  let (scheme, rest) := cutScheme (cleaned t)
  let (netloc, rest) := cutNetloc rest
  checkBrackets netloc
  let (rest, fragment) := Text.cut '#' rest
  let (path, query) := Text.cut '?' rest
  checkCompatibility netloc
  return ⟨scheme, netloc, path, query.getD [], fragment.getD []⟩

/-! ## The network location -/

namespace Parts

/-- The host as written and the text of the port. -/
def hostPort (p : Parts) : Text × Text :=
  let place := hostAndPort p.netloc
  match Text.cut '[' place with
  | (_, some bracketed) =>
    (Text.before ']' bracketed, Text.after ':' (Text.after ']' bracketed))
  | (_, none) => (Text.before ':' place, Text.after ':' place)

/-- The host name in lower case; the zone of an address keeps its case. -/
def host (p : Parts) : Text :=
  match Text.cut '%' p.hostPort.1 with
  | (name, none) => Text.lower name
  | (name, some zone) => Text.lower name ++ '%' :: zone

def port (p : Parts) : Except Problem (Option Nat) :=
  let port := p.hostPort.2
  if port.isEmpty then .ok none
  else if !port.all Char.isDigit then .error (.portNotInteger port)
  else if Integer.digitLimit < port.length then .error (.portTooLong port.length)
  else
    let n := Text.ofDigits 10 (port.filterMap Text.digit?)
    if 65535 < n then .error .portOutOfRange else .ok (some n)

/-- The user information; empty when there is none. -/
def userInfo (p : Parts) : Text := ((Text.cutLast '@' p.netloc).map (·.1)).getD []

end Parts

end LinkHarvest.Url
