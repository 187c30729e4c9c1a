import LinkHarvest.Command.Invocation
import LinkHarvest.Command.Printed
import LinkHarvest.Log.Tail
import LinkHarvest.Project.Configuration
import LinkHarvest.Run.Harvest

/-!
# The command line

One call of the program: its arguments select a command, the project in the working directory is
opened, and the command works on the project's database. The call ends well, with a failure that is
printed, or with a complaint about its arguments; a problem that no command expects ends it too.
-/

namespace LinkHarvest.Command

/-- The surroundings of a call: the files, what the network answers, the time, what makes the
store refuse calls, and the lines that are typed in. -/
structure Environment where
  files : Files
  routes : Http.Routes
  now : Instant
  refusal : StoreCall → Option Text
  typed : List Text

/-- A problem that no command expects. -/
inductive Unexpected
  | file (problem : FileProblem)
  | config (problem : Project.ConfigProblem)
  | store (problem : StoreProblem)
  | options (kind : Text)
  | run (problem : Run.Problem)
  deriving DecidableEq, Repr

def Unexpected.message : Unexpected → Text
  | .file p => p.message
  | .config p => p.message
  | .store p => p.message
  | .options kind => Options.notAPathMessage kind
  | .run p => p.message

/-- How a call ends. -/
inductive Ending
  | ok
  | failed
  | usage
  | unexpected (problem : Unexpected)
  deriving DecidableEq, Repr

def Ending.exitCode : Ending → Nat
  | .ok => 0
  | .failed => 1
  | .usage => 2
  | .unexpected _ => 1

/-- What a call leaves behind: its end, what it printed, the requests that went out, the dialogue
with the user, and the files. -/
structure Report where
  ending : Ending
  printed : List Printed
  sent : List Http.Sent
  dialogue : Text
  files : Files

/-- A project that is open: its configuration and its database. -/
structure Desk where
  project : Project
  config : Options.GlobalConfig
  place : FilePath
  store : Store
  files : Files
  verbose : Bool

/-! ## Ends -/

/-- A call that ends without touching anything but the files. -/
def Report.bare (ending : Ending) (printed : List Printed) (files : Files) : Report :=
  ⟨ending, printed, [], [], files⟩

def failureLine (message : Text) : Printed := .line (escapeMarkup message) (some .red)

namespace Desk

/-- The files with the database as it is now. A database that has been written over stays so. -/
def filed (d : Desk) (store : Store) (files : Files) : Files :=
  match files.locate d.place with
  | .error _ => files
  | .ok place =>
    match files.at? place with
    | some (.database _) => files.put place (.database store.database)
    | _ => files

def finish (d : Desk) (ending : Ending) (printed : List Printed) : Report :=
  .bare ending printed (d.filed d.store d.files)

def done (d : Desk) (printed : List Printed) : Report := d.finish .ok printed

def fail (d : Desk) (message : Text) : Report := d.finish .failed [failureLine message]

/-- Ends a call with a problem of the store. -/
def storeFail (d : Desk) (p : StoreProblem) : Report :=
  if p.isReported then d.fail p.message else d.finish (.unexpected (.store p)) []

def withStore (d : Desk) (store : Store) : Desk := { d with store }

/-! ## Tables -/

def subscriptionRow (verbose : Bool) (s : Subscription) : List Text :=
  [Text.ofInt s.id, escapeMarkup (if verbose then s.url else shortened urlWidth s.url),
    escapeMarkup (s.remark.getD []), if s.enabled then "yes" else "no",
    shownTime (s.lastFetchedAt.map Instant.timestamp)] ++
    if verbose then [escapeMarkup (s.agent.getD [])] else []

def subscriptionTable (verbose : Bool) (subscriptions : List Subscription) : Printed :=
  let heads : List Text := ["ID", "URL", "REMARK", "ENABLED", "LAST FETCHED"]
  .table "Subscriptions" (heads ++ if verbose then ["USER AGENT".toList] else [])
    (subscriptions.map (subscriptionRow verbose))

/-- A text, or another one in place of none or an empty one. -/
def orElse (t : Option Text) (other : Text) : Text :=
  match t with
  | some (c :: rest) => c :: rest
  | _ => other

def configRow (c : Config) : List Text :=
  [Text.ofInt c.id, (c.owner.map Text.ofInt).getD "N/A", orElse c.protocol "unknown",
    escapeMarkup (orElse c.remark "N/A"), shownTime (some c.lastSeenAt.timestamp)]

def configTable (configs : List Config) : Printed :=
  .table "Configs" ["ID", "SUB ID", "PROTOCOL", "REMARK", "LAST SEEN"] (configs.map configRow)

def outcomeRow (o : Run.Outcome) : List Text :=
  [escapeMarkup (shortened urlWidth o.label), Text.ofNat o.rawCount, Text.ofNat o.configs.length,
    match o.problem with
    | none => "ok"
    | some p => escapeMarkup p.message]

def totalRow (r : Run.BatchResult) : List Text :=
  ["Total", Text.ofNat r.totalLinks, Text.ofNat r.totalConfigs,
    Text.ofNat r.failedSources ++ " failed"]

def resultTable (r : Run.BatchResult) : Printed :=
  .table "Fetch results" ["SOURCE", "LINKS", "CONFIGS", "STATUS"]
    (r.outcomes.map outcomeRow ++ [totalRow r])

/-! ## Fetching -/

/-- The options of a fetch: what its arguments leave out comes from the configuration. -/
def fetchValues (config : Options.GlobalConfig) (a : FetchArguments) : List (Value × Value) :=
  let text (t : Option Text) : Value := (t.map Value.ofText).getD .null
  let int (n : Option Int) : Value := (n.map Value.int).getD .null
  let path (p : FilePath) : Text := p.text
  [(.ofText "subscription_id", int a.subscription),
    (.ofText "url", text a.url),
    (.ofText "fetch_all", .bool a.fetchAll),
    (.ofText "file_input", text (a.file.map fun t => path (.ofText t))),
    (.ofText "user_agent", text (a.agent.orElse fun _ => config.agent)),
    (.ofText "proxy", text (a.proxy.orElse fun _ => config.proxy)),
    (.ofText "workers", .int (a.workers.getD config.defaultWorkers)),
    (.ofText "output_path", text (a.output.orElse fun _ => config.defaultOutput.map path))]

def resultLines (r : Run.BatchResult) : List Printed :=
  if r.totalSources = 0 then [.line "No enabled subscriptions found." (some .yellow)]
  else
    [resultTable r,
      .line (Text.concat ["All done: ", Text.ofNat r.totalLinks, " links fetched, ",
        Text.ofNat r.totalConfigs, " configs saved, ", Text.ofNat r.failedSources, " failed"])
        none] ++
    (match r.output with
      | some path => [.line ("Saved links written to " ++ escapeMarkup path) (some .green)]
      | none => []) ++
    (if r.ok then []
      else [failureLine (Text.concat [Text.ofNat r.failedSources, " out of ",
        Text.ofNat r.totalSources, " subscriptions failed to fetch"])])

def fetchEnding (result : Except Run.Problem Run.BatchResult) : Ending :=
  match result with
  | .ok r => if r.ok then .ok else .failed
  | .error p => if p.isReported then .failed else .unexpected (.run p)

def fetchLines (result : Except Run.Problem Run.BatchResult) : List Printed :=
  match result with
  | .ok r => resultLines r
  | .error p => if p.isReported then [failureLine p.message] else []

def setting (d : Desk) (env : Environment) : Run.Setting :=
  ⟨env.routes, d.config.method, env.now, d.verbose, .default⟩

def fetch (d : Desk) (env : Environment) (a : FetchArguments) : Report :=
  match Options.FetchOptions.ofEntries (fetchValues d.config a) with
  | .error (.notAPath kind) => d.finish (.unexpected (.options kind)) []
  | .error (.problems ps) => d.fail ("Invalid options: " ++ Options.messages ps)
  | .ok options =>
    let r := Run.run (d.setting env) options d.files (.start d.store [])
    ⟨fetchEnding r.result, fetchLines r.result, r.state.sent, [],
      d.filed r.state.store r.files⟩

/-! ## Other commands -/

def add (d : Desk) (env : Environment) (url : Text) (remark agent : Option Text) : Report :=
  let (result, store) := d.store.add env.now url remark agent
  let d := d.withStore store
  match result with
  | .error p => d.storeFail p
  | .ok s => d.done [.line ("Subscription added with ID " ++ Text.ofInt s.id) (some .green)]

def showSubscriptions (d : Desk) (verbose : Bool) : Report :=
  match d.store.list with
  | .error p => d.storeFail p
  | .ok [] =>
    d.done [.line "No subscriptions found. Use `subharvest subs add` to create one."
      (some .yellow)]
  | .ok subscriptions => d.done [subscriptionTable verbose subscriptions]

/-- The question that is asked before a subscription is removed. -/
def question (s : Subscription) (configs : Nat) : Text :=
  Text.concat ["Delete subscription ", s.label, " and its ", Text.ofNat configs,
    " configs? [y/N]: "]

/-- Asks a question until it is answered. The answer is missing when the typed lines end. -/
def ask (question : Text) : List Text → Text × Option Bool
  | [] => (question, none)
  | line :: rest =>
    let shown := question ++ line ++ ['\n']
    let word := String.ofList (Text.trim (Text.lower line))
    if word = "y" ∨ word = "yes" then (shown, some true)
    else if word = "n" ∨ word = "no" ∨ word = "" then (shown, some false)
    else
      let (more, answer) := ask question rest
      (shown ++ "Error: invalid input\n" ++ more, answer)

/-- Removes a subscription after all questions. -/
def removeNow (d : Desk) (id : Int) : Report :=
  let (result, store) := d.store.delete id
  let d := d.withStore store
  match result with
  | .error p => d.storeFail p
  | .ok () =>
    d.done [.line (Text.concat ["Subscription ", Text.ofInt id, " deleted."]) (some .green)]

/-- The subscription that is to be removed, and the number of its configs. -/
def removalOf (d : Desk) (id : Int) : Except StoreProblem (Subscription × Nat) := do
  let s ← d.store.get id
  return (s, ← d.store.count (some id))

/-- Removes a subscription, after a question unless it is answered already. -/
def remove (d : Desk) (env : Environment) (id : Int) (confirmed : Bool) : Report :=
  match d.removalOf id with
  | .error p => d.storeFail p
  | .ok (s, configs) =>
    if confirmed then d.removeNow id
    else
      let (dialogue, answer) := ask (question s configs) env.typed
      let report :=
        match answer with
        | some true => d.removeNow id
        | some false => d.done [.line "Deletion cancelled." (some .yellow)]
        | none => d.finish .failed []
      { report with dialogue }

def update (d : Desk) (id : Int) (changes : Changes) : Report :=
  if changes.isEmpty then
    d.fail "At least one of --url, --remark, --user-agent or --enabled must be given."
  else
    let (result, store) := d.store.update id changes
    let d := d.withStore store
    match result with
    | .error p => d.storeFail p
    | .ok s =>
      d.done [.line (Text.concat ["Subscription ", Text.ofInt s.id, " updated."]) (some .green)]

def listConfigs (d : Desk) (owner : Option Int) (protocol : Option Text) (limit : Int) :
    Report :=
  match d.store.configs owner protocol (some limit) with
  | .error p => d.storeFail p
  | .ok [] => d.done [.line "No configs found." (some .yellow)]
  | .ok configs => d.done [configTable configs]

/-- The content of the log, if there is one. -/
def log? (d : Desk) : Option Bytes := (d.files.read d.project.logPath).toOption

def showLog (d : Desk) (count : Int) : Report :=
  let lines := Log.tail d.log? count
  if lines.isEmpty then d.done [.line "No log entries yet." (some .dim)]
  else
    d.done [.line (Text.concat ["Application log, last ", Text.ofNat lines.length, " lines"])
      (some .cyan), .line (Text.concat lines) none]

def carryOut (d : Desk) (env : Environment) : Invocation → Report
  | .fetch a => d.fetch env a
  | .add url remark agent => d.add env url remark agent
  | .showSubscriptions verbose => d.showSubscriptions verbose
  | .remove id confirmed => d.remove env id confirmed
  | .update id url remark agent enabled => d.update id ⟨url, remark, agent, enabled⟩
  | .listConfigs owner protocol limit => d.listConfigs owner protocol limit
  | .showLog count => d.showLog count

end Desk

/-! ## Opening -/

/-- Makes the log files of a project, which are empty at first. -/
def prepareLogs (files : Files) (p : Project) : Except FileProblem Files × Files :=
  match files.ensureDirectories p.logsPath with
  | .error problem => (.error problem, files)
  | .ok files =>
    match files.touch p.logPath with
    | .error problem => (.error problem, files)
    | .ok files =>
      match files.touch p.errorLogPath with
      | .error problem => (.error problem, files)
      | .ok files => (.ok files, files)

/-- Ends a call because of a problem of the configuration. -/
def configFail (p : Project.ConfigProblem) (files : Files) : Report :=
  if p.isInvalid then .bare .failed [failureLine p.message] files
  else .bare (.unexpected (.config p)) [] files

/-- Opens the database of a project that has its configuration. -/
def openDatabase (env : Environment) (verbose : Bool) (config : Options.GlobalConfig)
    (p : Project) (files : Files) : Except Report Desk :=
  let place := config.databaseAt p.root
  match Store.openAt files place with
  | (.error problem, files) => .error (.bare .failed [failureLine problem.message] files)
  | (.ok store, files) =>
    .ok ⟨p, config, place, { store with refusal := env.refusal }, files, verbose⟩

/-- Opens the project in the working directory. -/
def openDesk (env : Environment) (verbose : Bool) : Except Report Desk :=
  let directory := FilePath.ofText []
  let unexpected (problem : FileProblem) (files : Files) : Except Report Desk :=
    .error (.bare (.unexpected (.file problem)) [] files)
  match prepareLogs env.files ⟨directory.resolved env.files.home, none⟩ with
  | (.error problem, files) => unexpected problem files
  | (.ok files, _) =>
    match Project.openAt files directory with
    | (.error problem, files) => unexpected problem files
    | (.ok p, files) =>
      match p.load files with
      | .error problem => .error (configFail problem files)
      | .ok (config, p, files) => openDatabase env verbose config p files

/-- The end of a call whose arguments ask for no command. -/
def Stop.ending : Stop → Ending
  | .usage => .usage
  | .help => .ok

def call (env : Environment) (args : List Text) : Report :=
  match Selection.read args with
  | .error stop => .bare stop.ending [] env.files
  | .ok selection =>
    match openDesk env selection.verbose with
    | .error report => report
    | .ok d =>
      match Invocation.read selection.group selection.rest with
      | .error stop => d.finish stop.ending []
      | .ok invocation => d.carryOut env invocation

end LinkHarvest.Command
