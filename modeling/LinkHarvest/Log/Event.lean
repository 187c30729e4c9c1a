import LinkHarvest.Data.Value

/-!
# Log events

What the library reports while it works. Every event has a level, a name and named fields, from
which a log line is made.
-/

namespace LinkHarvest.Log

/-- How much an event matters. -/
inductive Level
  | debug
  | info
  | warning
  | error
  deriving DecidableEq, Repr

def Level.name : Level → Text
  | .debug => "debug"
  | .info => "info"
  | .warning => "warning"
  | .error => "error"

/-- Something worth reporting. A source is named by its label and by its position in the run. -/
inductive Event
  | bodyNotBase64 (url : Text)
  | fetchComplete (url : Text) (links : Nat) (base64 : Bool)
  | transportError (url error : Text)
  | requestRejected (url error : Text)
  | duplicatesRemoved (removed kept : Nat)
  | linkDecodeFailed (reason : Text) (hint : Option Text)
  | sourceStarted (position label url : Text)
  | sourceFetched (position label : Text) (links configs : Nat)
  | sourceFailed (position label url error : Text)
  | timestampNotUpdated (subscription : Int) (error : Text)
  | noEnabledSubscriptions
  | urlFileLoaded (path : Text) (urls : Nat)
  | batchStarted (sources workers : Nat)
  | batchFinished (mode : Text) (sources links configs failed : Nat)
  | linksExported (path : Text) (count : Nat)
  deriving DecidableEq, Repr

namespace Event

def level : Event → Level
  | .bodyNotBase64 .. => .debug
  | .fetchComplete .. => .debug
  | .linkDecodeFailed .. => .debug
  | .transportError .. => .warning
  | .requestRejected .. => .warning
  | .timestampNotUpdated .. => .warning
  | .sourceFailed .. => .error
  | _ => .info

def name : Event → Text
  | .bodyNotBase64 .. => "body_not_base64"
  | .fetchComplete .. => "fetch_complete"
  | .transportError .. => "fetch_transport_error"
  | .requestRejected .. => "fetch_request_rejected"
  | .duplicatesRemoved .. => "duplicates_removed"
  | .linkDecodeFailed .. => "link_decode_failed"
  | .sourceStarted .. => "source_fetch_started"
  | .sourceFetched .. => "source_fetched"
  | .sourceFailed .. => "source_fetch_failed"
  | .timestampNotUpdated .. => "fetch_timestamp_not_updated"
  | .noEnabledSubscriptions => "no_enabled_subscriptions"
  | .urlFileLoaded .. => "url_file_loaded"
  | .batchStarted .. => "batch_started"
  | .batchFinished .. => "batch_finished"
  | .linksExported .. => "links_exported"

def count (name : Text) (n : Nat) : Text × Value := (name, .int n)

def text (name t : Text) : Text × Value := (name, .ofText t)

def fields : Event → List (Text × Value)
  | .bodyNotBase64 url => [text "url" url]
  | .fetchComplete url links base64 =>
    [text "url" url, count "links" links, ("base64".toList, .bool base64)]
  | .transportError url error => [text "url" url, text "error" error]
  | .requestRejected url error => [text "url" url, text "error" error]
  | .duplicatesRemoved removed kept => [count "removed" removed, count "kept" kept]
  | .linkDecodeFailed reason hint =>
    [text "reason" reason, ("protocol_hint".toList, (hint.map Value.ofText).getD .null)]
  | .sourceStarted position label url =>
    [text "position" position, text "label" label, text "url" url]
  | .sourceFetched position label links configs =>
    [text "position" position, text "label" label, count "links" links, count "configs" configs]
  | .sourceFailed position label url error =>
    [text "position" position, text "label" label, text "url" url, text "error" error]
  | .timestampNotUpdated subscription error =>
    [("subscription_id".toList, .int subscription), text "error" error]
  | .noEnabledSubscriptions => []
  | .urlFileLoaded path urls => [text "path" path, count "urls" urls]
  | .batchStarted sources workers => [count "sources" sources, count "workers" workers]
  | .batchFinished mode sources links configs failed =>
    [text "mode" mode, count "sources" sources, count "links" links, count "configs" configs,
      count "failed" failed]
  | .linksExported path count => [text "path" path, Event.count "count" count]

end Event

end LinkHarvest.Log
