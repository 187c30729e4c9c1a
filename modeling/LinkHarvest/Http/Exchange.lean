import LinkHarvest.Http.RequestUrl
import LinkHarvest.Http.Status
import LinkHarvest.Url.Resolve

/-!
# HTTP exchanges

A request, the replies that the servers give, and the chain of requests that redirects make of it.
The servers are a table of routes: what is answered, or how sending fails, for the URL of a
request. A URL without a route is answered with status 404.
-/

namespace LinkHarvest.Http

/-- A reply of a server. -/
structure Reply where
  status : Int
  location : Option Text
  body : Bytes
  deriving DecidableEq, Repr

/-- How sending a request to a server can fail. -/
inductive Breakdown
  | transport
  | invalidUrl
  | rejected
  deriving DecidableEq, Repr

/-- What happens to a request for a URL. -/
inductive Route
  | reply (r : Reply)
  | breakdown (kind : Breakdown) (message : Text)
  deriving DecidableEq, Repr

/-- The routes under the texts of their URLs. -/
abbrev Routes := List (Text × Route)

namespace Routes

/-- The routes with one more, which takes the place of an earlier one for the same URL. -/
def set (routes : Routes) (url : Text) (route : Route) : Routes :=
  match routes with
  | [] => [(url, route)]
  | (u, r) :: rest => if u = url then (u, route) :: rest else (u, r) :: set rest url route

def answer (routes : Routes) (url : Text) : Route :=
  match routes.find? fun r => r.1 = url with
  | some (_, route) => route
  | none => .reply ⟨404, none, []⟩

end Routes

/-- A request; without an agent it names none of its own. -/
structure Request where
  method : Text
  url : RequestUrl
  agent : Option Text
  deriving DecidableEq, Repr

/-- A request as it went out. -/
structure Sent where
  method : Text
  url : Text
  agent : Option Text
  deriving DecidableEq, Repr

/-- The final reply to a request, and the URL that gave it. -/
structure Response where
  url : Text
  status : Int
  body : Bytes
  deriving DecidableEq, Repr

/-- Why a request has no response. -/
inductive Problem
  | url (p : RequestUrl.Problem)
  | location (p : RequestUrl.Problem)
  | reference (p : Url.Problem)
  | hostName (p : HostName.Problem)
  | agent (a : Text)
  | relative (url : Text)
  | proxyScheme (proxy : RequestUrl)
  | tooManyRedirects
  | breakdown (kind : Breakdown) (message : Text)
  deriving DecidableEq, Repr

def notAsciiMessage (t : Text) : Text :=
  let start := (t.takeWhile fun c => c.toNat < 128).length
  let run := (t.drop start).takeWhile fun c => 128 ≤ c.toNat
  let what :=
    match run with
    | [c] => Text.concat [" '", Text.numericEscape c.toNat, "' in position ", Text.ofNat start]
    | _ => Text.concat ["s in position ", Text.ofNat start, "-",
        Text.ofNat (start + run.length - 1)]
  Text.concat ["'ascii' codec can't encode character", what, ": ordinal not in range(128)"]

def Problem.message : Problem → Text
  | .url p => p.message
  | .location p => Text.concat ["Invalid URL in location header: ", p.message, "."]
  | .reference p => p.message
  | .hostName p => p.message
  | .agent a => notAsciiMessage a
  | .relative t => "unknown url type: " ++ Text.quoted t
  | .proxyScheme proxy => "Unknown scheme for proxy URL " ++ proxy.masked
  | .tooManyRedirects => "Exceeded maximum allowed redirects."
  | .breakdown _ message => message

/-- How a problem counts: as a fault of the URL, of the transport or of the request. -/
def Problem.kind : Problem → Breakdown
  | .url _ => .invalidUrl
  | .location _ => .transport
  | .tooManyRedirects => .transport
  | .breakdown kind _ => kind
  | _ => .rejected

/-! ## Redirects -/

def readableHost (u : RequestUrl) : Except Problem Text :=
  if u.host.startsWith "xn--" then (HostName.decode u.host).mapError .hostName else .ok u.host

/-- Reads the URL that a reply redirects to. -/
def readLocation (location : Text) : Except Problem RequestUrl :=
  (RequestUrl.read location).mapError .location

/-- A URL with the host of another one when it names a scheme but no host. -/
def withMissingHost (u other : RequestUrl) : Except Problem RequestUrl := do
  if u.scheme.isEmpty then return u
  if !(← readableHost u).isEmpty then return u
  let host ← readableHost other
  (u.withHost host).mapError .url

/-- A relative URL resolved against the one that redirects to it. -/
def resolved (base u : RequestUrl) : Except Problem RequestUrl := do
  if u.isAbsolute then return u
  let t ← (Url.resolve base.text u.text).mapError .reference
  (RequestUrl.read t).mapError .url

/-- The fragment of a URL with its escapes decoded. -/
def plainFragment (u : RequestUrl) : Text := Percent.decodeReplacing (u.fragment.getD [])

/-- A URL with the fragment of the one that redirects to it, unless it has its own. -/
def withInheritedFragment (base u : RequestUrl) : Except Problem RequestUrl :=
  if (plainFragment base).isEmpty || !(plainFragment u).isEmpty then .ok u
  else (u.withFragment (plainFragment base)).mapError .url

/-- Checks that the hosts of two URLs can be compared. Between different schemes the host of the
URL that redirects is read first. -/
def checkComparable (base u : RequestUrl) : Except Problem Unit :=
  (if u.scheme = base.scheme then [u, base] else [base, u]).forM fun v => do
    let _ ← readableHost v

/-- The request that a redirect to `location` asks for. -/
def Request.redirected (r : Request) (status : Int) (location : Text) :
    Except Problem Request := do
  let u ← readLocation location
  let u ← withMissingHost u r.url
  let u ← resolved r.url u
  let u ← withInheritedFragment r.url u
  checkComparable r.url u
  return ⟨redirectedMethod status r.method, u, r.agent⟩

/-! ## Sending -/

/-- What went out, and what came back. -/
structure Exchange where
  sent : List Sent
  result : Except Problem Response

def Request.sent (r : Request) : Sent := ⟨r.method, r.url.text, r.agent⟩

/-- Sends one request, without following redirects. -/
def Request.sendOnce (routes : Routes) (r : Request) : Except Problem Reply :=
  match routes.answer r.url.text with
  | .breakdown kind message => .error (.breakdown kind message)
  | .reply reply => if r.url.scheme.isEmpty then .error (.relative r.url.text) else .ok reply

/-- The request that follows a reply, if the reply is a redirect. -/
def Request.next? (r : Request) (reply : Reply) : Option (Except Problem Request) :=
  if isRedirect reply.status then reply.location.map (r.redirected reply.status) else none

/-- Sends a request and follows at most `redirects` redirects. -/
def Request.send (routes : Routes) (redirects : Nat) (r : Request) : Exchange :=
  match r.sendOnce routes with
  | .error p => ⟨[r.sent], .error p⟩
  | .ok reply =>
    match r.next? reply with
    | none => ⟨[r.sent], .ok ⟨r.url.text, reply.status, reply.body⟩⟩
    | some (.error p) => ⟨[r.sent], .error p⟩
    | some (.ok next) =>
      match redirects with
      | 0 => ⟨[r.sent], .error .tooManyRedirects⟩
      | left + 1 =>
        let rest := next.send routes left
        ⟨r.sent :: rest.sent, rest.result⟩

/-- The greatest number of redirects that are followed. -/
def redirectLimit : Nat := 20

/-! ## Building a request -/

/-- The URL of a request. One without a host is read as a path. -/
def targetUrl (url : Text) : Except RequestUrl.Problem RequestUrl := do
  let u ← RequestUrl.read url
  if u.isAbsolute then return u
  let raw : Text := '/' :: u.pathAndQuery.dropWhile (· = '/')
  match Text.cut '?' raw with
  | (path, query) =>
    RequestUrl.checkComponent "path" (fun _ => true) path
    RequestUrl.checkComponent "query" (fun _ => true) (query.getD [])
    RequestUrl.ofWritten ⟨[], [], [], [], path, query, none⟩

/-- Builds a request. The agent has to be ASCII. -/
def Request.build (method url : Text) (agent : Option Text) : Except Problem Request := do
  let u ← (targetUrl url).mapError .url
  match agent with
  | some a => if a.isAscii then return ⟨Text.upper method, u, agent⟩ else .error (.agent a)
  | none => return ⟨Text.upper method, u, none⟩

/-- The schemes of proxies that a client can use. -/
def proxySchemes : List Text := ["http", "https", "socks5", "socks5h"]

/-- Checks that a client can be built for a proxy. -/
def checkProxy (proxy : Text) : Except Problem Unit := do
  let u ← (RequestUrl.read proxy).mapError .url
  if proxySchemes.contains u.scheme then return () else .error (.proxyScheme u)

end LinkHarvest.Http
