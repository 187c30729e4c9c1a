import LinkHarvest.Store.Record

/-!
# The database

Two tables and their counters. Every row gets a number that its table has never used before. The
URLs of subscriptions are distinct, and so are the links of configs. The owner of a config is a
subscription, and deleting the subscription deletes its configs.
-/

namespace LinkHarvest

/-- The tables, each with the greatest number that it has used. -/
structure Database where
  subscriptions : List Subscription
  lastSubscription : Int
  configs : List Config
  lastConfig : Int
  deriving DecidableEq, Repr

/-- A rule of the tables. -/
inductive Constraint
  | numberLeft
  | uniqueUrl
  | linkGiven
  | ownerExists
  deriving DecidableEq, Repr

def Constraint.message : Constraint → Text
  | .numberLeft => "database or disk is full"
  | .uniqueUrl => "UNIQUE constraint failed: subscriptions.url"
  | .linkGiven => "NOT NULL constraint failed: subscription_configs.config_link"
  | .ownerExists => "FOREIGN KEY constraint failed"

/-- The fields of a subscription that an update names; empty text clears an optional field. -/
structure Changes where
  url : Option Text
  remark : Option Text
  agent : Option Text
  enabled : Option Bool
  deriving DecidableEq, Repr

def Changes.isEmpty (c : Changes) : Bool :=
  c.url.isNone && c.remark.isNone && c.agent.isNone && c.enabled.isNone

/-- The values of a row of the config table, without its number. -/
structure ConfigValues where
  owner : Option Int
  link : Text
  protocol : Option Text
  remark : Option Text
  addedAt : Instant
  lastSeenAt : Instant
  deriving DecidableEq, Repr

/-- An optional text; empty text counts as none. -/
def clearing (t : Text) : Option Text := if t.isEmpty then none else some t

namespace Database

/-- The greatest number that a row can have. -/
def greatestNumber : Int := 9223372036854775807

/-- A database without rows. -/
def empty : Database := ⟨[], 0, [], 0⟩

/-! ## Subscriptions -/

def subscription? (db : Database) (id : Int) : Option Subscription :=
  db.subscriptions.find? fun s => s.id = id

/-- Whether some subscription other than the one with the given number has a URL. -/
def urlTaken (db : Database) (id : Int) (url : Text) : Bool :=
  db.subscriptions.any fun s => s.url = url && s.id ≠ id

/-- Adds a subscription, if a number is left for it. -/
def insert (db : Database) (url : Text) (remark agent : Option Text) (now : Instant) :
    Except Constraint Database :=
  let id := db.lastSubscription + 1
  if greatestNumber < id then .error .numberLeft
  else if db.subscriptions.any fun s => s.url = url then .error .uniqueUrl
  else
    .ok { db with
      subscriptions := db.subscriptions ++ [⟨id, url, remark, agent, true, now, none⟩]
      lastSubscription := id }

/-- A column that an update can assign. -/
inductive Column
  | url
  | remark
  | agent
  | enabled
  deriving DecidableEq, Repr

/-- A value that is bound to a column. -/
inductive Cell
  | null
  | text (t : Text)
  | flag (b : Bool)
  deriving DecidableEq, Repr

/-- The value of an optional text; empty text counts as none. -/
def Cell.ofText (t : Text) : Cell := ((clearing t).map Cell.text).getD .null

/-- The assignments of a statement and, in a list of their own, the values to bind. The first value
goes to the first column, and so on. -/
structure Assignments where
  columns : List Column
  cells : List Cell
  deriving DecidableEq, Repr

namespace Assignments

def empty : Assignments := ⟨[], []⟩

/-- One more assignment, if there is a value for it. -/
def and (a : Assignments) (column : Column) (cell : Option Cell) : Assignments :=
  match cell with
  | none => a
  | some cell => ⟨a.columns ++ [column], a.cells ++ [cell]⟩

/-- The assignments of the fields that an update names. -/
def ofChanges (c : Changes) : Assignments :=
  empty
    |>.and .url (c.url.map Cell.text)
    |>.and .remark (c.remark.map Cell.ofText)
    |>.and .agent (c.agent.map Cell.ofText)
    |>.and .enabled (c.enabled.map Cell.flag)

end Assignments

/-- A subscription with a value in one of its columns. A value that the column cannot hold leaves
it alone. -/
def assign (s : Subscription) (column : Column) (cell : Cell) : Subscription :=
  match column, cell with
  | .url, .text t => { s with url := t }
  | .remark, .text t => { s with remark := some t }
  | .remark, .null => { s with remark := none }
  | .agent, .text t => { s with agent := some t }
  | .agent, .null => { s with agent := none }
  | .enabled, .flag b => { s with enabled := b }
  | _, _ => s

/-- A subscription after the assignments, one after the other. -/
def Assignments.apply (a : Assignments) (s : Subscription) : Subscription :=
  (a.columns.zip a.cells).foldl (fun s e => assign s e.1 e.2) s

/-- A subscription with the named fields changed. -/
def changed (s : Subscription) (c : Changes) : Subscription := (Assignments.ofChanges c).apply s

/-- Changes fields of the subscription with a number. -/
def update (db : Database) (id : Int) (c : Changes) : Except Constraint Database :=
  if (c.url.map (db.urlTaken id)).getD false then .error .uniqueUrl
  else
    .ok { db with
      subscriptions := db.subscriptions.map fun s => if s.id = id then changed s c else s }

/-- Sets the time at which the subscription with a number was last fetched. -/
def setFetched (db : Database) (id : Int) (at? : Option Instant) : Database :=
  { db with
    subscriptions := db.subscriptions.map fun s =>
      if s.id = id then { s with lastFetchedAt := at? } else s }

/-- Deletes the subscription with a number and the configs that it owns. -/
def delete (db : Database) (id : Int) : Database :=
  { db with
    subscriptions := db.subscriptions.filter fun s => s.id ≠ id
    configs := db.configs.filter fun c => c.owner ≠ some id }

/-! ## Configs -/

def config? (db : Database) (link : Text) : Option Config :=
  db.configs.find? fun c => c.link = link

/-- A config refreshed by new values for its link: what the values leave out stays as it was. -/
def refreshed (c : Config) (v : ConfigValues) : Config :=
  { c with
    owner := v.owner.orElse fun _ => c.owner
    protocol := v.protocol.orElse fun _ => c.protocol
    remark := v.remark.orElse fun _ => c.remark
    lastSeenAt := v.lastSeenAt }

/-- Adds a config, or refreshes the one that has its link. A number is used up in both cases, so one
must be left. Values that lack a link are `none`. -/
def upsert (db : Database) (values : Option ConfigValues) : Except Constraint Database :=
  let id := db.lastConfig + 1
  if greatestNumber < id then .error .numberLeft
  else
    match values with
    | none => .error .linkGiven
    | some v =>
      if (v.owner.map fun o => (db.subscription? o).isNone).getD false then .error .ownerExists
      else
        .ok { db with
          configs :=
            if (db.config? v.link).isSome then
              db.configs.map fun c => if c.link = v.link then refreshed c v else c
            else
              db.configs ++
                [⟨id, v.owner, v.link, v.protocol, v.remark, v.addedAt, v.lastSeenAt⟩]
          lastConfig := id }

/-- Whether one config is listed before another: the one seen later, by the text of the time, and
of two seen at one time the one with the greater number. -/
def listedBefore (a b : Config) : Bool :=
  let s := a.lastSeenAt.text
  let t := b.lastSeenAt.text
  t < s || (s == t && b.id ≤ a.id)

/-- The configs of an owner and a protocol, where these are given, the newest first. -/
def listConfigs (db : Database) (owner : Option Int) (protocol : Option Text) : List Config :=
  (db.configs.filter fun c =>
    (owner.isNone || c.owner == owner) && (protocol.isNone || c.protocol == protocol)).mergeSort
    listedBefore

/-- The number of configs of an owner, or of all configs. -/
def countConfigs (db : Database) (owner : Option Int) : Nat :=
  match owner with
  | none => db.configs.length
  | some id => (db.configs.filter fun c => c.owner = some id).length

end Database

end LinkHarvest
