import LinkHarvest.Command.Grammar
import LinkHarvest.Command.Shown
import LinkHarvest.Number.Integer

/-!
# Invocations

What the arguments of the command line ask for. The first argument names a group of commands, the
second a command of the group. The program is set up after the first of these has been read, so
arguments are read in two stages.
-/

namespace LinkHarvest.Command

/-- Why arguments ask for no command: they are wrong, or they ask how to use it. -/
inductive Stop
  | usage
  | help
  deriving DecidableEq, Repr

/-- The groups of commands. -/
inductive Group
  | subscriptions
  | log
  deriving DecidableEq, Repr

/-- The first stage: whether more is to be logged, a group, and what is left to read. -/
structure Selection where
  verbose : Bool
  group : Group
  rest : List Text
  deriving DecidableEq, Repr

/-- What a fetch is asked for with. -/
structure FetchArguments where
  subscription : Option Int
  url : Option Text
  fetchAll : Bool
  file : Option Text
  agent : Option Text
  proxy : Option Text
  workers : Option Int
  output : Option Text
  deriving DecidableEq, Repr

/-- A command with its arguments. -/
inductive Invocation
  | fetch (arguments : FetchArguments)
  | add (url : Text) (remark agent : Option Text)
  | showSubscriptions (verbose : Bool)
  | remove (id : Int) (confirmed : Bool)
  | update (id : Int) (url remark agent : Option Text) (enabled : Option Bool)
  | listConfigs (owner : Option Int) (protocol : Option Text) (limit : Int)
  | showLog (count : Int)
  deriving DecidableEq, Repr

/-! ## Options -/

def switch (spellings : List Text) : OptionForm := ⟨spellings, false⟩

def setting (spellings : List Text) : OptionForm := ⟨spellings, true⟩

/-- The option that asks how to use a command. -/
def helpSwitch : OptionForm := switch ["--help"]

/-- Reads arguments for the given options. -/
def arguments (forms : List OptionForm) (mixed : Bool) (args : List Text) :
    Except Stop Arguments :=
  match readArguments (helpSwitch :: forms) mixed args with
  | none => .error .usage
  | some a => if a.has "--help" then .error .help else .ok a

def integer (t : Text) : Except Stop Int :=
  match Integer.read? t with
  | some n => .ok n
  | none => .error .usage

/-- Reads an integer that may be left out. -/
def integer? (t : Option Text) : Except Stop (Option Int) :=
  match t with
  | none => .ok none
  | some t => (integer t).map some

/-- The value of an option that has to be given. -/
def required (t : Option Text) : Except Stop Text :=
  match t with
  | some t => .ok t
  | none => .error .usage

def noOperands (a : Arguments) : Except Stop Unit :=
  if a.operands.isEmpty then .ok () else .error .usage

/-! ## Commands -/

def readFetch (args : List Text) : Except Stop Invocation := do
  let a ← arguments [setting ["--id"], setting ["--url"], switch ["--all"], setting ["--file"],
    setting ["--useragent", "-a"], setting ["--proxy", "-p"], setting ["--workers", "-w"],
    setting ["--out", "-o"]] true args
  noOperands a
  let subscription ← integer? (a.value? "--id")
  let workers ← integer? (a.value? "--workers")
  return .fetch {
    subscription, workers
    url := a.value? "--url"
    fetchAll := a.has "--all"
    file := a.value? "--file"
    agent := a.value? "--useragent"
    proxy := a.value? "--proxy"
    output := a.value? "--out" }

def readAdd (args : List Text) : Except Stop Invocation := do
  let a ← arguments [setting ["--url"], setting ["--remark"], setting ["--user-agent"]] true args
  noOperands a
  return .add (← required (a.value? "--url")) (a.value? "--remark") (a.value? "--user-agent")

/-- Reads a request to show the subscriptions. -/
def readShow (args : List Text) : Except Stop Invocation := do
  let a ← arguments [switch ["--verbose", "-v"]] true args
  noOperands a
  return .showSubscriptions (a.has "--verbose")

def readRemove (args : List Text) : Except Stop Invocation := do
  let a ← arguments [switch ["--yes", "-y"]] true args
  match a.operands with
  | [id] => return .remove (← integer id) (a.has "--yes")
  | _ => throw .usage

def enabled? (t : Option Text) : Except Stop (Option Bool) :=
  match t with
  | none => .ok none
  | some t =>
    match readSwitch t with
    | some b => .ok (some b)
    | none => .error .usage

def readUpdate (args : List Text) : Except Stop Invocation := do
  let a ← arguments [setting ["--id"], setting ["--url"], setting ["--remark"],
    setting ["--user-agent"], setting ["--enabled"]] true args
  noOperands a
  let id ← integer (← required (a.value? "--id"))
  return .update id (a.value? "--url") (a.value? "--remark") (a.value? "--user-agent")
    (← enabled? (a.value? "--enabled"))

def readListConfigs (args : List Text) : Except Stop Invocation := do
  let a ← arguments [setting ["--id"], setting ["--protocol"], setting ["--limit"]] true args
  noOperands a
  let owner ← integer? (a.value? "--id")
  let limit ← integer? (a.value? "--limit")
  return .listConfigs owner (a.value? "--protocol") (limit.getD 50)

def readShowLog (args : List Text) : Except Stop Invocation := do
  let a ← arguments [setting ["--tail"]] true args
  noOperands a
  return .showLog ((← integer? (a.value? "--tail")).getD 100)

def commands : Group → List (Text × (List Text → Except Stop Invocation))
  | .subscriptions =>
    [("fetch", readFetch), ("add", readAdd), ("show", readShow), ("rm", readRemove),
      ("update", readUpdate), ("list-configs", readListConfigs)]
  | .log => [("show", readShowLog)]

/-! ## Stages -/

def groups : List (Text × Group) := [("subs", .subscriptions), ("log", .log)]

def named (table : List (Text × α)) (name : Text) : Except Stop α :=
  match table.find? fun entry => entry.1 = name with
  | some (_, found) => .ok found
  | none => .error .usage

def Selection.read (args : List Text) : Except Stop Selection := do
  let a ← arguments [switch ["--verbose"]] false args
  match a.operands with
  | [] => throw .usage
  | name :: rest => return ⟨a.has "--verbose", ← named groups name, rest⟩

def Invocation.read (group : Group) (args : List Text) : Except Stop Invocation := do
  let a ← arguments [] false args
  match a.operands with
  | [] => throw .usage
  | name :: rest => (← named (commands group) name) rest

end LinkHarvest.Command
