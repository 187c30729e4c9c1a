import LinkHarvest.Options.Conversion

/-!
# Options of a run

A run fetches from exactly one kind of source: a stored subscription, a URL, all enabled
subscriptions, or the URLs in a file. The other options say how.
-/

namespace LinkHarvest.Options

/-- Where a run fetches from. -/
inductive Mode
  | byId
  | byUrl
  | allEnabled
  | byFile
  deriving DecidableEq, Repr

def Mode.name : Mode → Text
  | .byId => "by_id"
  | .byUrl => "by_url"
  | .allEnabled => "all_enabled"
  | .byFile => "by_file"

/-- The options of one run. -/
structure FetchOptions where
  subscription : Option Int
  url : Option Text
  fetchAll : Bool
  file : Option FilePath
  agent : Option Text
  proxy : Option Text
  workers : Int
  output : Option FilePath
  deriving DecidableEq, Repr

namespace FetchOptions

/-- The number of workers of a run that asks for none. -/
def defaultWorkers : Int := 3

/-- Which sources are selected. -/
def selected (o : FetchOptions) : List Bool :=
  [o.subscription.isSome, o.url.isSome, o.fetchAll, o.file.isSome]

def mode (o : FetchOptions) : Mode :=
  if o.subscription.isSome then .byId
  else if o.url.isSome then .byUrl
  else if o.fetchAll then .allEnabled
  else .byFile

/-! ## Reading -/

/-- Whether a value is a zero that stands for no subscription. -/
def isNoId (v : Value) : Bool := v.asInt? == some 0 || v.sameKey (.ofText "0")

def readId (v : Value) : Except Fault (Option Int) :=
  if isNoId v then .ok none
  else
    match v with
    | .null => .ok none
    | _ => (toInteger v).map some

def readText (v : Value) : Except Fault (Option Text) := toOptionalText (blankAsNull v)

def readProxy (v : Value) : Except Fault (Option Text) :=
  match readText v with
  | .ok (some proxy) => (checkProxy proxy).map some
  | .ok none => .ok none
  | .error fault => .error fault

def readWorkers (v : Value) : Except Fault Int :=
  match toInteger v with
  | .ok n => checkWorkers n
  | .error fault => .error fault

/-- Checks that exactly one source is selected. -/
def checkSelection (o : FetchOptions) : Except Rejection FetchOptions :=
  match o.selected.count true with
  | 0 => .error (.problems [⟨none, .noSource⟩])
  | 1 => .ok o
  | _ => .error (.problems [⟨none, .severalSources⟩])

/-- Reads the options of a run. Names that mean nothing are passed over. -/
def ofEntries (values : List (Value × Value)) : Except Rejection FetchOptions := do
  let subscription := fieldOr values "subscription_id" none readId
  let url := fieldOr values "url" none readText
  let fetchAll := fieldOr values "fetch_all" false toBoolean
  let file ← fieldOr values "file_input" none toOptionalPath
  let agent := fieldOr values "user_agent" none readText
  let proxy := fieldOr values "proxy" none readProxy
  let workers := fieldOr values "workers" defaultWorkers readWorkers
  let output ← fieldOr values "output_path" none toOptionalPath
  match subscription, url, fetchAll, agent, proxy, workers with
  | .ok subscription, .ok url, .ok fetchAll, .ok agent, .ok proxy, .ok workers =>
    checkSelection { subscription, url, fetchAll, file, agent, proxy, workers, output }
  | _, _, _, _, _, _ =>
    .error (.problems (problemOf "subscription_id" subscription ++ problemOf "url" url ++
      problemOf "fetch_all" fetchAll ++ problemOf "user_agent" agent ++ problemOf "proxy" proxy ++
      problemOf "workers" workers))

end FetchOptions

end LinkHarvest.Options
