import LinkHarvest.Http.HostName
import LinkHarvest.Number.Integer
import LinkHarvest.Text.Case
import LinkHarvest.Text.Percent
import LinkHarvest.Url.Ip

/-!
# Request URLs

The URL of a request in its normal form: scheme and host in lower case, without the default port
of the scheme, without dot segments, and with every character escaped that may not stand in its
component. Escapes that the text already holds are left as they are.
-/

namespace LinkHarvest.Http

/-- A URL, each component in its normal form. A missing scheme, user information or host is
empty. -/
structure RequestUrl where
  scheme : Text
  userInfo : Text
  host : Text
  port : Option Int
  path : Text
  query : Option Text
  fragment : Option Text
  deriving DecidableEq, Repr

namespace RequestUrl

/-- Why a text cannot be the URL of a request. -/
inductive Problem
  | tooLong
  | componentTooLong (name : Text)
  | control (c : Char) (position : Nat)
  | controlIn (name : Text) (c : Char) (position : Nat)
  | badComponent (name : Text)
  | port (t : Text)
  | version4 (host : Text)
  | version6 (host : Text)
  | hostName (host : Text)
  | pathNotAbsolute
  | pathTwoSlashes
  | pathColon
  deriving DecidableEq, Repr

def Problem.message : Problem → Text
  | .tooLong => "URL too long"
  | .componentTooLong name => Text.concat ["URL component '", name, "' too long"]
  | .control c position =>
    Text.concat ["Invalid non-printable ASCII character in URL, ", Text.quoted [c],
      " at position ", Text.ofNat position, "."]
  | .controlIn name c position =>
    Text.concat ["Invalid non-printable ASCII character in URL ", name, " component, ",
      Text.quoted [c], " at position ", Text.ofNat position, "."]
  | .badComponent name => Text.concat ["Invalid URL component '", name, "'"]
  | .port t => "Invalid port: " ++ Text.quoted t
  | .version4 host => "Invalid IPv4 address: " ++ Text.quoted host
  | .version6 host => "Invalid IPv6 address: " ++ Text.quoted host
  | .hostName host => "Invalid IDNA hostname: " ++ Text.quoted host
  | .pathNotAbsolute => "For absolute URLs, path must be empty or begin with '/'"
  | .pathTwoSlashes => "Relative URLs cannot have a path starting with '//'"
  | .pathColon => "Relative URLs cannot have a path starting with ':'"

/-! ## Characters -/

/-- The greatest number of characters of a URL or component. -/
def lengthLimit : Nat := 65536

/-- Whether a character is an ASCII control. -/
def isControl (c : Char) : Bool := c.toNat < 32 || c.toNat == 127

/-- Whether a character is printable ASCII and none of the listed ones. -/
def printableBut (unsafeChars : Text) (c : Char) : Bool :=
  0x20 < c.toNat && c.toNat < 0x7F && !unsafeChars.contains c

/-- The characters that stand unescaped in a fragment. -/
def keptInFragment : Char → Bool := printableBut "\"<>`"

/-- The characters that stand unescaped in a query. -/
def keptInQuery : Char → Bool := printableBut "\"#<>"

/-- The characters that stand unescaped in a path. -/
def keptInPath : Char → Bool := printableBut "\"#<>?`\x7b\x7d"

/-- The characters that stand unescaped in user information. -/
def keptInUserInfo : Char → Bool := printableBut "\"#<>?`\x7b\x7d/;=@[\\]^|"

/-- The characters that stand unescaped in a host name. -/
def keptInHost (c : Char) : Bool :=
  Percent.isUnreserved c || "!$&'()*+,;=\"`\x7b\x7d%|\\".toList.contains c

/-! ## Components -/

mutual

/-- Whether a text is `separators` arbitrary characters between groups of digits, at the start of
a group. -/
def numericAtGroup (separators : Nat) : Text → Bool
  | [] => false
  | c :: rest => c.isDigit && numericInGroup separators rest

/-- As `numericAtGroup`, after a digit of the group. -/
def numericInGroup (separators : Nat) : Text → Bool
  | [] => separators == 0
  | c :: rest =>
    (c.isDigit && numericInGroup separators rest) ||
      (match separators with
        | 0 => false
        | left + 1 => numericAtGroup left rest)

end

/-- Whether a host has the shape of a version 4 address: four groups of digits, whatever the
characters between them. -/
def looksNumeric (host : Text) : Bool := numericAtGroup 3 host

/-- A host in its normal form; the brackets of a version 6 address are left out. -/
def normalHost (host : Text) : Except Problem Text :=
  if host.isEmpty then .ok []
  else if looksNumeric host then
    if Ip.isVersion4 host then .ok host else .error (.version4 host)
  else if host.startsWith ['['] && host.endsWith [']'] && 2 ≤ host.length then
    let address := (host.drop 1).dropLast
    if Ip.isVersion6 address then .ok address else .error (.version6 host)
  else if host.isAscii then .ok (Percent.escapeOnce keptInHost (host.map Char.toLower))
  else
    (HostName.encode (Text.lower host)).mapError fun _ => .hostName host

def defaultPort? (scheme : Text) : Option Int :=
  match String.ofList scheme with
  | "ftp" => some 21
  | "http" | "ws" => some 80
  | "https" | "wss" => some 443
  | _ => none

/-- The port in its normal form; `scheme` is taken as it was written. -/
def normalPort (scheme port : Text) : Except Problem (Option Int) :=
  if port.isEmpty then .ok none
  else
    match Integer.read? port with
    | some n => .ok (if some n = defaultPort? scheme then none else some n)
    | none => .error (.port port)

/-- The segments of a path without the dot segments; `output` holds the ones before, last first. -/
def withoutDots (output : List Text) : List Text → List Text
  | [] => output.reverse
  | segment :: rest =>
    if segment = ['.'] then withoutDots output rest
    else if segment = ['.', '.'] then
      withoutDots (if output = [[]] then output else output.drop 1) rest
    else withoutDots (segment :: output) rest

def normalPath (path : Text) : Text :=
  let segments := Text.split '/' path
  if segments.contains ['.'] || segments.contains ['.', '.'] then
    Text.joined ['/'] (withoutDots [] segments)
  else path

/-- Checks that a path cannot be taken for something else where it stands. -/
def checkPath (path : Text) (hasScheme hasAuthority : Bool) : Except Problem Unit :=
  if hasAuthority && !path.isEmpty && !path.startsWith ['/'] then .error .pathNotAbsolute
  else if !hasScheme && !hasAuthority && path.startsWith ['/', '/'] then .error .pathTwoSlashes
  else if !hasScheme && !hasAuthority && path.startsWith [':'] then .error .pathColon
  else .ok ()

/-! ## Cutting -/

/-- The components of a URL as they are written. -/
structure Written where
  scheme : Text
  userInfo : Text
  host : Text
  port : Text
  path : Text
  query : Option Text
  fragment : Option Text
  deriving DecidableEq, Repr

/-- The host and port of an authority. Brackets reach to the last closing one. -/
def cutHost (t : Text) : Text × Text :=
  let plain := (t.takeWhile (· ≠ ':'), t.dropWhile (· ≠ ':'))
  let (host, rest) :=
    match t with
    | '[' :: _ =>
      match Text.cutLast ']' t with
      | some (before, after) => (before ++ [']'], after)
      | none => plain
    | _ => plain
  match rest with
  | ':' :: port => (host, port)
  | port => (host, port)

/-- The user information, host and port of an authority. -/
def cutAuthority (authority : Text) : Text × Text × Text :=
  match Text.cutLast '@' authority with
  | some (userInfo, place) => (userInfo, cutHost place)
  | none => ([], cutHost authority)

/-- The scheme and what follows its colon. A colon at the very start counts as the end of an empty
scheme. -/
def cutScheme (t : Text) : Text × Text :=
  match Text.cut ':' t with
  | (scheme, some rest) =>
    let fits :=
      match scheme with
      | [] => true
      | c :: more =>
        c.isAlpha && more.all fun c => c.isAlphanum || c == '+' || c == '.' || c == '-'
    if fits then (scheme, rest) else ([], t)
  | (_, none) => ([], t)

def cut (t : Text) : Written :=
  let (scheme, rest) := cutScheme t
  let (rest, fragment) := Text.cut '#' rest
  let (rest, query) := Text.cut '?' rest
  let (authority, path) :=
    match rest with
    | '/' :: '/' :: more => (more.takeWhile (· ≠ '/'), more.dropWhile (· ≠ '/'))
    | path => ([], path)
  let (userInfo, host, port) := cutAuthority authority
  ⟨scheme, userInfo, host, port, path, query, fragment⟩

/-! ## Reading -/

/-- Brings written components into their normal form. -/
def ofWritten (w : Written) : Except Problem RequestUrl := do
  let userInfo := Percent.escapeOnce keptInUserInfo w.userInfo
  let host ← normalHost w.host
  let port ← normalPort w.scheme w.port
  let hasScheme := !w.scheme.isEmpty
  let hasAuthority := !userInfo.isEmpty || !host.isEmpty || port.isSome
  checkPath w.path hasScheme hasAuthority
  let path := if hasScheme || hasAuthority then normalPath w.path else w.path
  return {
    scheme := w.scheme.map Char.toLower
    userInfo, host, port
    path := Percent.escapeOnce keptInPath path
    query := w.query.map (Percent.escapeOnce keptInQuery)
    fragment := w.fragment.map (Percent.escapeOnce keptInFragment) }

/-- The first ASCII control of a text and its position. -/
def firstControl? (t : Text) : Option (Char × Nat) :=
  (t.find? isControl).map fun c => (c, t.idxOf c)

def read (t : Text) : Except Problem RequestUrl :=
  if lengthLimit < t.length then .error .tooLong
  else
    match firstControl? t with
    | some (c, position) => .error (.control c position)
    | none => ofWritten (cut t)

/-! ## Writing -/

/-- Whether a URL names both a scheme and a host. -/
def isAbsolute (u : RequestUrl) : Bool := !u.scheme.isEmpty && !u.host.isEmpty

/-- The host, in brackets when it holds a colon, and the port. -/
def place (u : RequestUrl) : Text :=
  (if u.host.contains ':' then '[' :: u.host ++ [']'] else u.host) ++
    (u.port.map fun n => ':' :: Text.ofInt n).getD []

/-- The authority with the given user information. -/
def authorityWith (u : RequestUrl) (userInfo : Text) : Text :=
  (if userInfo.isEmpty then [] else userInfo ++ ['@']) ++ u.place

def textWith (u : RequestUrl) (authority : Text) : Text :=
  Text.concat [
    if u.scheme.isEmpty then [] else u.scheme ++ [':'],
    if authority.isEmpty then [] else ['/', '/'] ++ authority,
    u.path,
    (u.query.map ('?' :: ·)).getD [],
    (u.fragment.map ('#' :: ·)).getD []]

def text (u : RequestUrl) : Text := u.textWith (u.authorityWith u.userInfo)

/-- The text of the URL with the password hidden, as messages show it. -/
def masked (u : RequestUrl) : Text :=
  let shown :=
    if u.userInfo.contains ':' then Text.before ':' u.userInfo ++ ":[secure]" else u.userInfo
  Text.concat ["URL(", Text.quoted (u.textWith (u.authorityWith shown)), ")"]

/-- The path and query, as a request line holds them. -/
def pathAndQuery (u : RequestUrl) : Text :=
  (if u.path.isEmpty then ['/'] else u.path) ++ (u.query.map ('?' :: ·)).getD []

/-! ## Changing a component -/

/-- Checks a component that is put into a URL. -/
def checkComponent (name : Text) (fits : Text → Bool) (value : Text) : Except Problem Unit :=
  if lengthLimit < value.length then .error (.componentTooLong name)
  else
    match firstControl? value with
    | some (c, position) => .error (.controlIn name c position)
    | none => if fits value then .ok () else .error (.badComponent name)

/-- Checks the components of a URL that are kept when another one is changed. -/
def checkKept (u : RequestUrl) : Except Problem Unit := do
  checkComponent "authority" (fun _ => true) (u.authorityWith u.userInfo)
  checkComponent "path" (fun _ => true) u.path
  checkComponent "query" (fun _ => true) (u.query.getD [])

/-- The written components of a URL in normal form. -/
def written (u : RequestUrl) : Written :=
  let (userInfo, host, port) := cutAuthority (u.authorityWith u.userInfo)
  ⟨u.scheme, userInfo, host, port, u.path, u.query, u.fragment⟩

def withHost (u : RequestUrl) (host : Text) : Except Problem RequestUrl := do
  let host := if host.contains ':' then '[' :: host ++ [']'] else host
  u.checkKept
  checkComponent "fragment" (fun _ => true) (u.fragment.getD [])
  checkComponent "host" (fun h => h.startsWith ['['] || !h.contains ':') host
  ofWritten { u.written with host }

def withFragment (u : RequestUrl) (fragment : Text) : Except Problem RequestUrl := do
  u.checkKept
  checkComponent "fragment" (fun _ => true) fragment
  ofWritten { u.written with fragment := some fragment }

end RequestUrl

end LinkHarvest.Http
