import LinkHarvest.Link.Decoder
import LinkHarvest.Link.Field
import LinkHarvest.Text.Base64
import LinkHarvest.Text.Percent
import LinkHarvest.Url.Query

/-!
# URI-shaped links

Links of the form `scheme://credential@host:port?query#remark`. A grammar states the identifiers,
what the credential holds, and the fields of the query; the rest is the same for all of them.
-/

namespace LinkHarvest.Link

/-- What the credential of a URI-shaped link holds. -/
inductive CredentialForm
  /-- One secret under the given name. -/
  | secret (name : Text)
  /-- A user id and, after a colon, an optional password. -/
  | userId
  /-- An optional user name and password, possibly in base64. -/
  | account
  deriving DecidableEq, Repr

/-- The grammar of a URI-shaped link. -/
structure UriGrammar where
  protocol : Text
  identifiers : List Text
  credential : CredentialForm
  fields : List Field

def Detail.ofText (t : Text) : Detail := .text (.ofText t)

namespace CredentialForm

/-- The user name and password of an account. A text without a colon is read as base64 first, and
stands for the user name when it is not. -/
def accountDetails (userInfo : Text) : Details :=
  let pair (t : Text) : Details :=
    [("username", Detail.ofText (Text.before ':' t)), ("password", Detail.ofText (Text.after ':' t))]
  if userInfo.contains ':' then pair userInfo
  else
    match Base64.decodeText? userInfo with
    | some t => pair t
    | none => [("username", Detail.ofText userInfo)]

/-- The details of a user id with its optional password. -/
def userIdDetails (userInfo : Text) : Details :=
  let password := Text.after ':' userInfo
  ("uuid".toList, Detail.ofText (Text.before ':' userInfo)) ::
    if password.isEmpty then [] else [("password", Detail.ofText password)]

def details : CredentialForm → Text → Details
  | .secret name, userInfo => [(name, Detail.ofText userInfo)]
  | .userId, userInfo => userIdDetails userInfo
  | .account, userInfo => accountDetails userInfo

/-- The name of a credential that must not be missing. -/
def required? : CredentialForm → Option Text
  | .secret name => some name
  | .userId => some "uuid"
  | .account => none

end CredentialForm

namespace UriGrammar

/-- The details of the credential, which may be missing only where the grammar allows it. -/
def credentialDetails (g : UriGrammar) (userInfo : Text) : Except Problem Details :=
  if userInfo.isEmpty then
    match g.credential.required? with
    | some name => .error (.missingCredential name)
    | none => .ok []
  else .ok (g.credential.details (Percent.unescape userInfo))

def parse (g : UriGrammar) (link : Text) : Except Problem Summary := do
  if !startsWithAny g.identifiers link then throw (.unrecognised g.protocol link)
  let parts ← (Url.split link).mapError .url
  let host := parts.host
  if host.isEmpty then throw .missingHost
  let port ← parts.port.mapError .url
  let credential ← g.credentialDetails parts.userInfo
  return {
    protocol := g.protocol
    remark := .ofText (Percent.unescape parts.fragment)
    address := address (.ofText host) (port.map Int.ofNat)
    details := credential.update (readFields g.fields (Url.Query.parameters parts.query)) }

def decoder (g : UriGrammar) : Decoder := ⟨g.protocol, g.identifiers, g.parse⟩

end UriGrammar

/-! ## The grammars -/

def vless : UriGrammar where
  protocol := "vless"
  identifiers := ["vless://"]
  credential := .secret "id"
  fields := [⟨"type", some "network".toList, .text⟩, ⟨"security", none, .text⟩,
    ⟨"sni", none, .text⟩, ⟨"flow", none, .text⟩, ⟨"encryption", none, .text⟩,
    ⟨"path", none, .text⟩, ⟨"host", none, .text⟩, ⟨"fp", some "fingerprint".toList, .text⟩,
    ⟨"pbk", some "public_key".toList, .text⟩, ⟨"sid", some "short_id".toList, .text⟩,
    ⟨"alpn", none, .text⟩, ⟨"serviceName", some "service_name".toList, .text⟩]

def trojan : UriGrammar where
  protocol := "trojan"
  identifiers := ["trojan://"]
  credential := .secret "password"
  fields := [⟨"type", some "network".toList, .text⟩, ⟨"security", none, .text⟩,
    ⟨"sni", none, .text⟩, ⟨"path", none, .text⟩, ⟨"host", none, .text⟩, ⟨"alpn", none, .text⟩,
    ⟨"fp", some "fingerprint".toList, .text⟩]

def hysteria2 : UriGrammar where
  protocol := "hysteria2"
  identifiers := ["hysteria2://", "hy2://"]
  credential := .secret "password"
  fields := [⟨"sni", none, .text⟩, ⟨"obfs", none, .text⟩,
    ⟨"obfs-password", some "obfs_password".toList, .text⟩,
    ⟨"pinSHA256", some "pin_sha256".toList, .text⟩, ⟨"insecure", none, .integer⟩]

def tuic : UriGrammar where
  protocol := "tuic"
  identifiers := ["tuic://"]
  credential := .userId
  fields := [⟨"sni", none, .text⟩, ⟨"alpn", none, .text⟩, ⟨"congestion_control", none, .text⟩,
    ⟨"udp_relay_mode", none, .text⟩, ⟨"allow_insecure", none, .integer⟩]

def wireguard : UriGrammar where
  protocol := "wireguard"
  identifiers := ["wireguard://", "wg://"]
  credential := .secret "secret_key"
  fields := [⟨"publickey", some "public_key".toList, .text⟩,
    ⟨"address", some "local_address".toList, .text⟩, ⟨"reserved", none, .text⟩,
    ⟨"mtu", none, .integer⟩]

def socks : UriGrammar where
  protocol := "socks"
  identifiers := ["socks://", "socks5://"]
  credential := .account
  fields := []

end LinkHarvest.Link
