import LinkHarvest.Options.GlobalConfig
import LinkHarvest.Project.Document

/-!
# The configuration of a project

A project lives in a directory with one directory for data and one for logs. Its configuration is
read from a file among the data once; where there is no such file, the defaults are written there.
-/

namespace LinkHarvest

open Options

/-- A project: its directory, and its configuration once it has been read. -/
structure Project where
  root : FilePath
  config : Option GlobalConfig
  deriving Repr

namespace Project

def dataPath (p : Project) : FilePath := { p.root with names := p.root.names ++ ["data".toList] }

def logsPath (p : Project) : FilePath := { p.root with names := p.root.names ++ ["logs".toList] }

/-- The file of a project's configuration. -/
def configPath (p : Project) : FilePath :=
  { p.dataPath with names := p.dataPath.names ++ ["global_config.yaml".toList] }

def logPath (p : Project) : FilePath :=
  { p.logsPath with names := p.logsPath.names ++ ["subharvest.log".toList] }

def errorLogPath (p : Project) : FilePath :=
  { p.logsPath with names := p.logsPath.names ++ ["error.log".toList] }

/-- Opens the project in a directory. The directories for data and logs are made, as far as that
is possible. -/
def openAt (files : Files) (directory : FilePath) : Except FileProblem Project × Files :=
  let p : Project := ⟨directory.resolved files.home, none⟩
  match files.ensureDirectories p.dataPath with
  | .error problem => (.error problem, files)
  | .ok files =>
    match files.ensureDirectories p.logsPath with
    | .error problem => (.error problem, files)
    | .ok files => (.ok p, files)

/-! ## Reading and writing -/

/-- Why a project has no configuration. -/
inductive ConfigProblem
  | document (path : FilePath) (problem : DocumentProblem)
  | options (path : FilePath) (rejection : Rejection)
  | file (problem : FileProblem)
  deriving DecidableEq, Repr

/-- Whether the file of the configuration is reported as invalid. -/
def ConfigProblem.isInvalid : ConfigProblem → Bool
  | .document _ p => p.isContent
  | .options _ (.problems _) => true
  | .options _ (.notAPath _) => false
  | .file _ => false

/-- The first line of the report on an invalid configuration. -/
def reportTitle (problems : List Options.Problem) : Text :=
  Text.concat [Text.ofNat problems.length, " validation error",
    if problems.length = 1 then "" else "s", " for GlobalConfig"]

def ConfigProblem.message : ConfigProblem → Text
  | .document path p =>
    if p.isContent then Text.concat ["invalid global config ", path.text, ": ", p.message]
    else p.message
  | .options path (.problems ps) =>
    Text.concat ["invalid global config ", path.text, ": ", reportTitle ps]
  | .options _ (.notAPath kind) => notAPathMessage kind
  | .file p => p.message

/-- Writes a configuration, which is then the project's. -/
def save (p : Project) (files : Files) (config : GlobalConfig) :
    Except FileProblem (Project × Files) := do
  return ({ p with config := some config }, ← writeDocument files p.configPath config.entries)

def readConfig (files : Files) (path : FilePath) : Except ConfigProblem GlobalConfig := do
  let entries ← (readDocument files path).mapError (.document path)
  (GlobalConfig.ofEntries entries).mapError (.options path)

/-- The configuration of a project, which is read or set up when it is first needed. -/
def load (p : Project) (files : Files) : Except ConfigProblem (GlobalConfig × Project × Files) :=
  match p.config with
  | some config => .ok (config, p, files)
  | none =>
    match files.exists? p.configPath with
    | .error problem => .error (.file problem)
    | .ok true => (readConfig files p.configPath).map fun config =>
        (config, { p with config := some config }, files)
    | .ok false => ((p.save files GlobalConfig.default).mapError .file).map fun (p, files) =>
        (GlobalConfig.default, p, files)

def databasePath (p : Project) (files : Files) :
    Except ConfigProblem (FilePath × Project × Files) :=
  (p.load files).map fun (config, p, files) => (config.databaseAt p.root, p, files)

end Project

end LinkHarvest
