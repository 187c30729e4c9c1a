import LinkHarvest.Retrieval.Workers
import LinkHarvest.Run.Export
import LinkHarvest.Run.Process
import LinkHarvest.Text.Lines

/-!
# Runs

A run fetches from the sources that its options select and sums up what became of them. A run of a
single source fails when the source does; a run of several does not. The links of a run that found
any are written to a file when the options name one.
-/

namespace LinkHarvest.Run

/-- Why a run gave no result. -/
inductive Problem
  | source (problem : SourceProblem)
  | urlFile (path : FilePath) (problem : FileProblem)
  | urlFileEncoding (problem : Utf8.Problem)
  | noUrls (path : FilePath)
  | workers (problem : Retrieval.WorkersOutOfRange)
  | export (problem : ExportProblem)
  deriving DecidableEq, Repr

def Problem.message : Problem → Text
  | .source p => p.message
  | .urlFile path p =>
    if p.fault = .nullCharacter then p.message
    else Text.concat ["cannot read URL file ", path.text, ": ", p.message]
  | .urlFileEncoding p => p.message
  | .noUrls path => "no URLs found in file " ++ path.text
  | .workers p => p.message
  | .export p => p.message

/-- Whether a problem is one of runs, and not of a value that no run can work with. -/
def Problem.isReported : Problem → Bool
  | .source (.retrieval _) => true
  | .source (.store p) => p.isReported
  | .urlFile _ p => p.fault != .nullCharacter
  | .urlFileEncoding _ => false
  | .noUrls _ => true
  | .workers _ => true
  | .export p => p.problem.fault != .nullCharacter

/-- A part of a run gives a result or ends the run. -/
abbrev Part (α : Type) := Except Problem α × State

/-! ## Sources one by one -/

/-- Fetches from a single source, whose problem ends the run. -/
def single (setting : Setting) (options : Options.FetchOptions) (source : Source) (s : State)
    (note : Job.Noting := Store.mark) : Part BatchResult :=
  match (Job.mk source "1/1").process setting options s note with
  | (.error p, s) => (.error (.source (.store p)), s)
  | (.ok outcome, s) =>
    match outcome.problem with
    | some p => (.error (.source p), s)
    | none => (.ok ((Accumulator.start 1).add 0 outcome).result, s)

/-- The place of a source among several. -/
def positionOf (index total : Nat) : Text := Text.ofNat (index + 1) ++ '/' :: Text.ofNat total

def jobs (sources : List Source) : List Job :=
  sources.mapIdx fun i source => ⟨source, positionOf i sources.length⟩

/-- The outcomes that have arrived, the first value that no store could hold, and the state. -/
structure Progress where
  accumulator : Accumulator
  escaped : Option StoreProblem
  state : State

def Progress.next (setting : Setting) (options : Options.FetchOptions) (p : Progress)
    (job : Job × Nat) (note : Job.Noting := Store.mark) : Progress :=
  match job.1.process setting options p.state note with
  | (.ok outcome, state) => { p with accumulator := p.accumulator.add job.2 outcome, state }
  | (.error problem, state) => { p with escaped := p.escaped.orElse fun _ => some problem, state }

def fanOut (setting : Setting) (options : Options.FetchOptions) (sources : List Source)
    (s : State) (note : Job.Noting := Store.mark) : Part BatchResult :=
  match Retrieval.workersFor options.workers sources.length with
  | .error p => (.error (.workers p), s)
  | .ok workers =>
    let s := s.logged [.batchStarted sources.length workers.toNat]
    let start : Progress := ⟨.start sources.length, none, s⟩
    let p := (jobs sources).zipIdx.foldl (fun p job => p.next setting options job note) start
    match p.escaped with
    | some problem => (.error (.source (.store problem)), p.state)
    | none => (.ok p.accumulator.result, p.state)

/-! ## Modes -/

def byId (setting : Setting) (options : Options.FetchOptions) (id : Int) (s : State)
    (note : Job.Noting := Store.mark) : Part BatchResult :=
  match s.store.get id with
  | .error p => (.error (.source (.store p)), s)
  | .ok subscription => single setting options (.ofSubscription subscription) s note

def allEnabled (setting : Setting) (options : Options.FetchOptions) (s : State)
    (note : Job.Noting := Store.mark) : Part BatchResult :=
  match s.store.list with
  | .error p => (.error (.source (.store p)), s)
  | .ok subscriptions =>
    let enabled := subscriptions.filter (·.enabled)
    if enabled.isEmpty then (.ok .empty, s.logged [.noEnabledSubscriptions])
    else fanOut setting options (enabled.map Source.ofSubscription) s note

def urlsIn (files : Files) (path : FilePath) : Except Problem (List Text) := do
  let content ← (files.read path).mapError (.urlFile path)
  let t ← (Utf8.decode content).mapError .urlFileEncoding
  let urls := Text.nonBlankLines (Text.withLineFeeds t)
  if urls.isEmpty then throw (.noUrls path) else return urls

def byFile (setting : Setting) (options : Options.FetchOptions) (files : Files) (path : FilePath)
    (s : State) (note : Job.Noting := Store.mark) : Part BatchResult :=
  match urlsIn files path with
  | .error p => (.error p, s)
  | .ok urls =>
    fanOut setting options (urls.map Source.ofUrl)
      (s.logged [.urlFileLoaded path.text urls.length]) note

def collect (setting : Setting) (options : Options.FetchOptions) (files : Files) (s : State)
    (note : Job.Noting := Store.mark) : Part BatchResult :=
  match options.mode with
  | .byId => byId setting options (options.subscription.getD 0) s note
  | .byUrl => single setting options (.ofUrl (options.url.getD [])) s note
  | .allEnabled => allEnabled setting options s note
  | .byFile => byFile setting options files (options.file.getD (.ofText [])) s note

/-! ## Runs -/

/-- A run: its result or problem, the files and the state after it. -/
structure Finished where
  result : Except Problem BatchResult
  files : Files
  state : State

def summaryEvent (mode : Options.Mode) (r : BatchResult) : Log.Event :=
  .batchFinished mode.name r.totalSources r.totalLinks r.totalConfigs r.failedSources

def BatchResult.links (r : BatchResult) : List Text := r.configs.filterMap Draft.link

def exportResult (r : BatchResult) (files : Files) (path : FilePath) (s : State) : Finished :=
  match exportLinks files path r.links with
  | .error p => ⟨.error (.export p), files, s⟩
  | .ok files =>
    ⟨.ok { r with output := some path.text }, files,
      s.logged [.linksExported path.text r.links.length]⟩

def run (setting : Setting) (options : Options.FetchOptions) (files : Files) (s : State)
    (note : Job.Noting := Store.mark) : Finished :=
  match collect setting options files s note with
  | (.error p, s) => ⟨.error p, files, s⟩
  | (.ok r, s) =>
    let s := s.logged [summaryEvent options.mode r]
    match options.output with
    | some path => if 0 < r.totalConfigs then exportResult r files path s else ⟨.ok r, files, s⟩
    | none => ⟨.ok r, files, s⟩

end LinkHarvest.Run
