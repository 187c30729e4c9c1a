import LinkHarvest.Options.Conversion

/-!
# The global configuration

The settings that every run shares: where the database is, and what a run takes where its own
options say nothing.
-/

namespace LinkHarvest.Options

/-- The global configuration. -/
structure GlobalConfig where
  databasePath : FilePath
  defaultWorkers : Int
  agent : Option Text
  proxy : Option Text
  timeout : Binary64
  method : Text
  defaultOutput : Option FilePath
  deriving DecidableEq, Repr

namespace GlobalConfig

/-- The configuration that holds when nothing is set. -/
def default : GlobalConfig where
  databasePath := .ofText "data/subharvest.db"
  defaultWorkers := 3
  agent := none
  proxy := none
  timeout := .ofInt 30
  method := "GET"
  defaultOutput := some (.ofText "configs.txt")

/-! ## Reading -/

def readWorkers (v : Value) : Except Fault Int :=
  match toInteger v with
  | .ok n => checkWorkers n
  | .error fault => .error fault

/-- Reads the proxy; a value of any other kind is taken as its text. -/
def readProxy (v : Value) : Except Fault (Option Text) :=
  match blankAsNull v with
  | .null => .ok none
  | v =>
    if v.holdsTooLong then .error .numeralTooLong else (checkProxy v.display.toText).map some

def readTimeout (v : Value) : Except Fault Binary64 :=
  match toNumber v with
  | .ok x => if x.isNonPositive then .error .timeoutNotPositive else .ok x
  | .error fault => .error fault

/-- Reads the method; a value of any kind is taken as its text, and nothing as the usual one. -/
def readMethod (v : Value) : Except Fault Text :=
  if v.holdsTooLong then .error .numeralTooLong
  else
    let t := if v.isTruthy then Text.upper (Text.trim v.display.toText) else []
    .ok (if t.isEmpty then default.method else t)

/-- Reads a configuration. Names that mean nothing are passed over. -/
def ofEntries (values : List (Value × Value)) : Except Rejection GlobalConfig := do
  let databasePath ← fieldOr values "database_path" default.databasePath toPath
  let workers := fieldOr values "default_workers" default.defaultWorkers readWorkers
  let agent := fieldOr values "user_agent" default.agent toOptionalText
  let proxy := fieldOr values "proxy" default.proxy readProxy
  let timeout := fieldOr values "request_timeout" default.timeout readTimeout
  let method := fieldOr values "request_method" default.method readMethod
  let defaultOutput ← fieldOr values "default_output" default.defaultOutput toOptionalPath
  match workers, agent, proxy, timeout, method with
  | .ok defaultWorkers, .ok agent, .ok proxy, .ok timeout, .ok method =>
    return { databasePath, defaultWorkers, agent, proxy, timeout, method, defaultOutput }
  | _, _, _, _, _ =>
    .error (.problems (problemOf "default_workers" workers ++ problemOf "user_agent" agent ++
      problemOf "proxy" proxy ++ problemOf "request_timeout" timeout ++
      problemOf "request_method" method))

/-! ## Writing -/

def optionalText (t : Option Text) : Value := (t.map Value.ofText).getD .null

def entries (c : GlobalConfig) : List (Value × Value) :=
  [(.ofText "database_path", .ofText c.databasePath.text),
   (.ofText "default_workers", .int c.defaultWorkers),
   (.ofText "user_agent", optionalText c.agent),
   (.ofText "proxy", optionalText c.proxy),
   (.ofText "request_timeout", .float c.timeout),
   (.ofText "request_method", .ofText c.method),
   (.ofText "default_output", optionalText (c.defaultOutput.map FilePath.text))]

/-- The place of the database for a project at `base`; an absolute path stays as it is. -/
def databaseAt (c : GlobalConfig) (base : FilePath) : FilePath :=
  if c.databasePath.isAbsolute then c.databasePath
  else (FilePath.below base c.databasePath).resolved []

end GlobalConfig

end LinkHarvest.Options
