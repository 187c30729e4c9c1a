import LinkHarvest.Link.Decoder
import LinkHarvest.Link.Field
import LinkHarvest.Link.Uri
import LinkHarvest.Text.Base64
import LinkHarvest.Text.Percent
import LinkHarvest.Url.Query

/-!
# Shadowsocks links

Links of the form `ss://method:password@host:port`, where the part before the at sign may be in
base64, and the older form in which everything after `ss://` is one base64 text.
-/

namespace LinkHarvest.Link.Shadowsocks

def protocol : Text := "shadowsocks"

def identifiers : List Text := ["ss://"]

/-- The fields of the query. -/
def fields : List Field := [⟨"plugin", none, .text⟩]

/-- A link after its identifier: its main part, query and remark. -/
structure Body where
  main : Text
  query : Text
  remark : Text

/-- Cuts a link after its identifier. Slashes at the end of the main part are dropped. -/
def Body.ofText (t : Text) : Body :=
  let (rest, remark) := Text.cut '#' t
  let (main, query) := Text.cut '?' rest
  ⟨(main.reverse.dropWhile (· = '/')).reverse, query.getD [], remark.getD []⟩

/-- The text that a payload in base64 encodes. -/
def decoded (payload : Text) : Except Problem Text :=
  match Base64.decodeText? payload with
  | some t => .ok t
  | none => .error .notBase64

/-- The text with method and password, and the text with host and port. -/
def sides (main : Text) : Except Problem (Text × Text) :=
  match Text.cutLast '@' main with
  | some (userInfo, endpoint) =>
    let userInfo := Percent.unescape userInfo
    if userInfo.contains ':' then .ok (userInfo, endpoint)
    else (decoded userInfo).map fun userInfo => (userInfo, endpoint)
  | none => do
    match Text.cutLast '@' (← decoded main) with
    | some sides => return sides
    | none => throw .missingHost

def account (userInfo : Text) : Except Problem (Text × Text) :=
  match Text.cut ':' userInfo with
  | (c :: method, some password) => .ok (c :: method, password)
  | _ => .error (.missingCredential "method:password")

def parse (link : Text) : Except Problem Summary := do
  let body := Body.ofText (← stripIdentifier protocol identifiers link)
  let (userInfo, endpoint) ← sides body.main
  let (method, password) ← account userInfo
  let parts ← (Url.split ('/' :: '/' :: endpoint)).mapError .url
  let host := parts.host
  if host.isEmpty then throw .missingHost
  let port ← parts.port.mapError .url
  let credential : Details :=
    [("method", Detail.ofText method), ("password", Detail.ofText password)]
  return {
    protocol := protocol
    remark := .ofText (Percent.unescape body.remark)
    address := address (.ofText host) (port.map Int.ofNat)
    details := credential.update (readFields fields (Url.Query.parameters body.query)) }

def decoder : Decoder := ⟨protocol, identifiers, parse⟩

end LinkHarvest.Link.Shadowsocks
