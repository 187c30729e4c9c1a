import LinkHarvest.Http.Exchange
import LinkHarvest.Json.Reader

/-!
# Route tables

The routes as a document: a mapping from URLs to replies. A reply names a status, which is 200
unless it is given, a location and a body; or it tells with a message how sending fails.
-/

namespace LinkHarvest.Http

/-- The text that a reply gives under a name. -/
def replyText? (entries : List (Value × Value)) (name : Text) : Option Text :=
  match Value.find? entries name with
  | some (.text t) => some t.toText
  | _ => none

/-- The ways in which sending fails, by their names. -/
def breakdownNames : List (Text × Breakdown) :=
  [("transport", .transport), ("url", .invalidUrl), ("request", .rejected)]

def Route.ofEntries (entries : List (Value × Value)) : Route :=
  let reply : Route :=
    .reply {
      status := ((Value.find? entries "status").bind Value.asInt?).getD 200
      location := replyText? entries "location"
      body := Utf8.encode ((replyText? entries "body").getD []) }
  match (replyText? entries "fails").bind fun name => breakdownNames.lookup name with
  | some kind => .breakdown kind ((replyText? entries "message").getD [])
  | none => reply

/-- Reads a table of routes. What is no mapping holds no route. -/
def Routes.ofValue : Value → Routes
  | .map entries =>
    entries.foldl
      (fun routes entry =>
        match entry with
        | (.text url, .map reply) => routes.set url.toText (Route.ofEntries reply)
        | _ => routes) []
  | _ => []

/-- Reads a table of routes from the content of a file. -/
def Routes.ofContent (content : Bytes) : Routes :=
  match (Utf8.decode? content).bind fun t => (Json.read t).toOption with
  | some v => Routes.ofValue v
  | none => []

end LinkHarvest.Http
