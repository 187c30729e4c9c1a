import LinkHarvest.Http.Exchange
import LinkHarvest.Log.Event
import LinkHarvest.Retrieval.Body
import LinkHarvest.Retrieval.SourceUrl

/-!
# The fetcher

Retrieves subscriptions over HTTP. It keeps one client for every proxy, and one for no proxy, which
is built when it is first needed; a client that cannot be built is not kept. Every failure of a
retrieval is one of the problems of retrieval.
-/

namespace LinkHarvest.Retrieval

/-- The clients built so far, each named by its proxy, in the order in which they were built. -/
abbrev Clients := List (Option Text)

/-- A retrieval that is asked for. -/
structure FetchRequest where
  url : Text
  agent : Option Text
  proxy : Option Text
  method : Text
  deriving DecidableEq, Repr

/-- A subscription as it was retrieved. -/
structure Fetched where
  url : Text
  status : Int
  size : Nat
  body : Body
  deriving DecidableEq, Repr

/-- A retrieval: the clients afterwards, the requests that went out, what was logged and the
result. -/
structure Transfer where
  clients : Clients
  sent : List Http.Sent
  log : List Log.Event
  result : Except Problem Fetched

def nonEmpty? : Option Text → Option Text
  | some [] => none
  | t => t

/-- The clients with one for the given proxy. -/
def clientFor (clients : Clients) (proxy : Option Text) : Except Http.Problem Clients :=
  let proxy := nonEmpty? proxy
  if clients.contains proxy then .ok clients
  else
    match proxy with
    | none => .ok (clients ++ [none])
    | some p =>
      match Http.checkProxy p with
      | .ok () => .ok (clients ++ [some p])
      | .error problem => .error problem

/-- The problem of retrieval that a problem of HTTP amounts to. -/
def problemOf (url : Text) (p : Http.Problem) : Problem :=
  match p.kind with
  | .invalidUrl => .invalidUrl url (.refused p.message)
  | .transport => .transport url p.message
  | .rejected => .rejected url p.message

/-- What is logged about a problem of HTTP. -/
def problemEvents (url : Text) (p : Http.Problem) : List Log.Event :=
  match p.kind with
  | .invalidUrl => []
  | .transport => [.transportError url p.message]
  | .rejected => [.requestRejected url p.message]

/-- The result of a response for `url`, and what is logged about it. -/
def readResponse (url : Text) (r : Http.Response) : List Log.Event × Except Problem Fetched :=
  if Http.isSuccess r.status then
    let body := readBody r.body
    ((if body.encoded then [] else [.bodyNotBase64 url]) ++
      [.fetchComplete url body.links.length body.encoded],
      .ok ⟨r.url, r.status, r.body.length, body⟩)
  else ([], .error (.status url r.status))

/-- Sends a request for `url` and reads the response. -/
def exchange (routes : Http.Routes) (clients : Clients) (url : Text) (request : Http.Request) :
    Transfer :=
  let e := request.send routes Http.redirectLimit
  match e.result with
  | .error p => ⟨clients, e.sent, problemEvents url p, .error (problemOf url p)⟩
  | .ok response =>
    let (log, result) := readResponse url response
    ⟨clients, e.sent, log, result⟩

/-- Retrieves a subscription; `method` is used where the request names none. -/
def fetch (routes : Http.Routes) (method : Text) (clients : Clients) (request : FetchRequest) :
    Transfer :=
  match checkUrl request.url with
  | .error p => ⟨clients, [], [], .error p⟩
  | .ok url =>
    match clientFor clients request.proxy with
    | .error p => ⟨clients, [], problemEvents url p, .error (problemOf url p)⟩
    | .ok clients =>
      let method := if request.method.isEmpty then method else request.method
      match Http.Request.build method url (nonEmpty? request.agent) with
      | .error p => ⟨clients, [], problemEvents url p, .error (problemOf url p)⟩
      | .ok r => exchange routes clients url r

end LinkHarvest.Retrieval
