import LinkHarvest.Link.Registry
import LinkHarvest.Options.FetchOptions
import LinkHarvest.Retrieval.Dedup
import LinkHarvest.Retrieval.Fetcher
import LinkHarvest.Run.Outcome
import LinkHarvest.Store.Store

/-!
# Processing a source

A source is fetched, its links are decoded and stored, and the time is noted at its subscription.
Each of these steps is taken as a whole; between two steps of one source, steps of others may be
taken. A problem of the source ends up in its outcome. Only a value that no store can hold is no
problem of the source: then it has no outcome.
-/

namespace LinkHarvest.Run

/-- The surroundings of a run: what the network answers, the method of requests, the time, whether
dropped links are reported, and the known protocols. -/
structure Setting where
  routes : Http.Routes
  method : Text
  now : Instant
  verbose : Bool
  registry : Link.Registry

/-- What a run works on and leaves behind: the store, the clients, the requests that went out and
the log. -/
structure State where
  store : Store
  clients : Retrieval.Clients
  sent : List Http.Sent
  log : List Log.Event

namespace State

/-- A state in which no request has gone out and nothing is logged. -/
def start (store : Store) (clients : Retrieval.Clients) : State := ⟨store, clients, [], []⟩

def logged (s : State) (events : List Log.Event) : State := { s with log := s.log ++ events }

end State

/-- A source of a run, with its place among the sources. -/
structure Job where
  source : Source
  position : Text
  deriving DecidableEq, Repr

/-- How far a source has been processed. -/
inductive Phase
  | waiting
  | fetched (lines : List Text)
  | stored (rawCount : Nat) (configs : List Draft)
  | finished (result : Except StoreProblem Outcome)

namespace Job

def outcome (j : Job) (configs : List Draft) (rawCount : Nat) (problem : Option SourceProblem) :
    Outcome :=
  ⟨j.source.url, j.source.label, j.source.subscription, configs, rawCount, problem⟩

/-- Ends the processing of a source with a problem. -/
def fail (j : Job) (rawCount : Nat) (problem : SourceProblem) (s : State) : Phase × State :=
  (.finished (.ok (j.outcome [] rawCount (some problem))),
    s.logged [.sourceFailed j.position j.source.label j.source.url problem.message])

/-! ## Decoding -/

/-- A link as it is handed to the store. What cannot be decoded keeps no protocol. -/
def draft (setting : Setting) (owner : Option Int) (link : Text) : Draft :=
  let lastSeenAt := some setting.now.timestamp
  match setting.registry.decode link with
  | .ok summary =>
    { owner, link := some link, protocol := some summary.protocol
      remark := if summary.remark.isEmpty then none else some summary.remark
      addedAt := none, lastSeenAt }
  | .error _ =>
    { owner, link := some link, protocol := none, remark := none, addedAt := none, lastSeenAt }

def decodeEvents (registry : Link.Registry) (link : Text) : List Log.Event :=
  match registry.decode link with
  | .ok _ => []
  | .error failure => [.linkDecodeFailed failure.reason failure.hint]

/-- What is logged about the links of a source: what was reported about repeated ones, and then
about decoding those that are kept. -/
def linkEvents (setting : Setting) (kept : List Text × List Log.Event) : List Log.Event :=
  kept.2 ++ kept.1.flatMap (decodeEvents setting.registry)

/-! ## Steps

The call that notes a time is a parameter of the steps, and of everything that takes them. It is the
call of the store unless another one is given.
-/

/-- A call that notes the time at a subscription. -/
abbrev Noting := Store → Int → Option Timestamp → Except StoreProblem Unit × Store

/-- What is asked for: the options' user agent goes before that of the subscription. -/
def request (j : Job) (setting : Setting) (options : Options.FetchOptions) :
    Retrieval.FetchRequest where
  url := j.source.url
  agent := (Retrieval.nonEmpty? options.agent).orElse fun _ => j.source.agent
  proxy := options.proxy
  method := setting.method

def fetch (j : Job) (setting : Setting) (options : Options.FetchOptions) (s : State) :
    Phase × State :=
  let r := Retrieval.fetch setting.routes setting.method s.clients (j.request setting options)
  let s := { s with
    clients := r.clients
    sent := s.sent ++ r.sent
    log := s.log ++ [.sourceStarted j.position j.source.label j.source.url] ++ r.log }
  match r.result with
  | .error p => j.fail 0 (.retrieval p) s
  | .ok fetched => (.fetched fetched.body.links, s)

/-- Decodes and stores the links of a source. -/
def store (j : Job) (setting : Setting) (lines : List Text) (s : State) : Phase × State :=
  let kept := Retrieval.dedupe setting.verbose lines
  let drafts := kept.1.map (draft setting j.source.subscription)
  let s := s.logged (linkEvents setting kept)
  if drafts.isEmpty then (.stored lines.length [], s)
  else
    let (result, store) := s.store.upsert setting.now drafts
    match result with
    | .ok () => (.stored lines.length drafts, { s with store })
    | .error p =>
      if p.isReported then j.fail lines.length (.store p) { s with store }
      else (.finished (.error p), { s with store })

/-- Notes the time at the subscription of a source that served configs. -/
def mark (j : Job) (setting : Setting) (rawCount : Nat) (configs : List Draft) (s : State)
    (note : Noting := Store.mark) : Phase × State :=
  let outcome := j.outcome configs rawCount none
  let s := s.logged [.sourceFetched j.position j.source.label rawCount configs.length]
  match j.source.subscription with
  | none => (.finished (.ok outcome), s)
  | some id =>
    if configs.isEmpty then (.finished (.ok outcome), s)
    else
      let (result, store) := note s.store id (some setting.now.timestamp)
      let s := { s with store }
      match result with
      | .ok () => (.finished (.ok outcome), s)
      | .error p =>
        if p.isReported then
          (.finished (.ok outcome), s.logged [.timestampNotUpdated id p.message])
        else (.finished (.error p), s)

def advance (j : Job) (setting : Setting) (options : Options.FetchOptions) (phase : Phase)
    (s : State) (note : Noting := Store.mark) : Phase × State :=
  match phase with
  | .waiting => j.fetch setting options s
  | .fetched lines => j.store setting lines s
  | .stored rawCount configs => j.mark setting rawCount configs s note
  | .finished result => (.finished result, s)

def advanceBy (j : Job) (setting : Setting) (options : Options.FetchOptions) (n : Nat)
    (phase : Phase) (s : State) (note : Noting := Store.mark) : Phase × State :=
  match n with
  | 0 => (phase, s)
  | n + 1 =>
    let (phase, s) := j.advance setting options phase s note
    j.advanceBy setting options n phase s note

/-- Processes a source: three steps lead to its end. -/
def process (j : Job) (setting : Setting) (options : Options.FetchOptions) (s : State)
    (note : Noting := Store.mark) : Except StoreProblem Outcome × State :=
  match j.advanceBy setting options 3 .waiting s note with
  | (.finished result, s) => (result, s)
  | (_, s) => (.ok (j.outcome [] 0 none), s)

end Job

end LinkHarvest.Run
