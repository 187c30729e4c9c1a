import LinkHarvest.Files.Tree
import LinkHarvest.Retrieval.SourceUrl
import LinkHarvest.Store.Problem

/-!
# The store

A connection to a database. A call either answers, or fails and leaves the tables as they were.
The surroundings of a store, such as a full disk, can make it refuse calls. They do so before the
call has written anything: that a call writes and then cannot commit what it wrote does not happen
here.
-/

namespace LinkHarvest

/-- A call to the store, as far as its surroundings tell calls apart. -/
inductive StoreCall
  | list
  | get
  | add
  | update
  | delete
  | mark
  | upsert (owners : List (Option Int))
  | configs
  | config
  | count
  deriving DecidableEq, Repr

/-- A connection to a database, open or closed, and the message with which its surroundings refuse
a call. -/
structure Store where
  database : Database
  isOpen : Bool
  refusal : StoreCall → Option Text

namespace Store

def ofDatabase (db : Database) : Store := ⟨db, true, fun _ => none⟩

def close (s : Store) : Store := { s with isOpen := false }

/-! ## Checks -/

/-- Fails when the surroundings refuse a call. -/
def checkRefusal (s : Store) (call : StoreCall) : Except StoreProblem Unit :=
  match s.refusal call with
  | some message => .error (.refused message)
  | none => .ok ()

def checkOpen (s : Store) (during : StoreActivity) : Except StoreProblem Unit :=
  if s.isOpen then .ok () else .error (.closed during)

/-- Whether an integer fits into a column: it has at most 64 bits. -/
def fitsColumn (n : Int) : Bool := -9223372036854775808 ≤ n && n < 9223372036854775808

/-- Fails when an integer does not fit into a column. -/
def checkInteger (n : Int) : Except StoreProblem Unit :=
  if fitsColumn n then .ok () else .error .integerTooLarge

/-! ## Reading -/

/-- All subscriptions in the order of their numbers. -/
def list (s : Store) : Except StoreProblem (List Subscription) := do
  s.checkRefusal .list
  s.checkOpen .reading
  return s.database.subscriptions

def get (s : Store) (id : Int) : Except StoreProblem Subscription := do
  s.checkRefusal .get
  s.checkOpen .reading
  checkInteger id
  match s.database.subscription? id with
  | some found => return found
  | none => .error (.noSubscription id)

def config (s : Store) (link : Text) : Except StoreProblem Config := do
  s.checkRefusal .config
  s.checkOpen .reading
  match s.database.config? link with
  | some found => return found
  | none => .error (.noConfig link)

/-- The configs of a subscription and a protocol, the newest first, at most `limit` of them. The
number zero, an empty protocol and a limit below one count as not given. -/
def configs (s : Store) (owner : Option Int) (protocol : Option Text) (limit : Option Int) :
    Except StoreProblem (List Config) := do
  s.checkRefusal .configs
  s.checkOpen .reading
  let owner := owner.filter (· ≠ 0)
  let protocol := protocol.filter (!·.isEmpty)
  let limit := limit.filter (0 < ·)
  (owner.map checkInteger).getD (.ok ())
  (limit.map checkInteger).getD (.ok ())
  let found := s.database.listConfigs owner protocol
  return (limit.map fun n => found.take n.toNat).getD found

/-- The number of configs of a subscription, or of all. -/
def count (s : Store) (owner : Option Int) : Except StoreProblem Nat := do
  s.checkRefusal .count
  s.checkOpen .reading
  (owner.map checkInteger).getD (.ok ())
  return s.database.countConfigs owner

/-! ## Writing

A call that writes answers together with the store after it. -/

/-- Adds a subscription with the trimmed URL; empty texts count as none. -/
def add (s : Store) (now : Instant) (url : Text) (remark agent : Option Text) :
    Except StoreProblem Subscription × Store :=
  let prepared : Except StoreProblem Database := do
    s.checkRefusal .add
    let url ← (Retrieval.checkUrl url).mapError .invalidUrl
    s.checkOpen .adding
    (s.database.insert url (remark.bind clearing) (agent.bind clearing) now).mapError fun
      | .uniqueUrl => .duplicateUrl url
      | c => .constraint .adding c
  match prepared with
  | .error p => (.error p, s)
  | .ok db =>
    let s := { s with database := db }
    (s.get db.lastSubscription, s)

/-- Changes the named fields of a subscription. -/
def update (s : Store) (id : Int) (c : Changes) : Except StoreProblem Subscription × Store :=
  let prepared : Except StoreProblem Database := do
    s.checkRefusal .update
    let url ←
      match c.url with
      | none => pure none
      | some u => ((Retrieval.checkUrl u).map some).mapError .invalidUrl
    if c.isEmpty then throw .nothingToUpdate
    let _ ← s.get id
    (s.database.update id { c with url }).mapError (.constraint .changing)
  match prepared with
  | .error p => (.error p, s)
  | .ok db =>
    let s := { s with database := db }
    (s.get id, s)

/-- Deletes a subscription and the configs that it owns. -/
def delete (s : Store) (id : Int) : Except StoreProblem Unit × Store :=
  let prepared : Except StoreProblem Database := do
    s.checkRefusal .delete
    let _ ← s.get id
    return s.database.delete id
  match prepared with
  | .error p => (.error p, s)
  | .ok db => (.ok (), { s with database := db })

/-- The instant of a timestamp that is to be stored. -/
def instant (t : Timestamp) : Except StoreProblem Instant :=
  match Instant.ofTimestamp? t with
  | some i => .ok i
  | none => .error .timeOutOfRange

/-- Sets the time at which a subscription was last fetched. -/
def mark (s : Store) (id : Int) (fetchedAt : Option Timestamp) :
    Except StoreProblem Unit × Store :=
  let prepared : Except StoreProblem Database := do
    s.checkRefusal .mark
    let at? ←
      match fetchedAt with
      | none => pure none
      | some t => (instant t).map some
    s.checkOpen .changing
    checkInteger id
    if (s.database.subscription? id).isNone then throw (.noSubscription id)
    return s.database.setFetched id at?
  match prepared with
  | .error p => (.error p, s)
  | .ok db => (.ok (), { s with database := db })

/-- A draft with its times. -/
structure Dated where
  draft : Draft
  addedAt : Instant
  lastSeenAt : Instant

/-- A draft with its times, the present where it has none. -/
def dated (now : Instant) (d : Draft) : Except StoreProblem Dated := do
  let addedAt ← instant (d.addedAt.getD now.timestamp)
  let lastSeenAt ← instant (d.lastSeenAt.getD now.timestamp)
  return ⟨d, addedAt, lastSeenAt⟩

/-- A text as a column holds it. -/
def columnText (t : LooseText) : Except StoreProblem Text :=
  match t.toText? with
  | some t => .ok t
  | none => .error (.unpairedHalf t)

/-- Adds or refreshes the config of a draft. -/
def upsertOne (db : Database) (d : Dated) : Except StoreProblem Database := do
  (d.draft.owner.map checkInteger).getD (.ok ())
  let remark ←
    match d.draft.remark with
    | none => pure none
    | some t => (columnText t).map some
  (db.upsert (d.draft.link.map fun link =>
    ⟨d.draft.owner, link, d.draft.protocol, remark, d.addedAt, d.lastSeenAt⟩)).mapError
      (.constraint .saving)

/-- Adds or refreshes the configs of all drafts, in order, or none of them. -/
def upsert (s : Store) (now : Instant) (drafts : List Draft) : Except StoreProblem Unit × Store :=
  let prepared : Except StoreProblem Database := do
    s.checkRefusal (.upsert (drafts.map Draft.owner))
    let all ← drafts.mapM (dated now)
    if all.isEmpty then return s.database
    s.checkOpen .saving
    all.foldlM upsertOne s.database
  match prepared with
  | .error p => (.error p, s)
  | .ok db => (.ok (), { s with database := db })

/-! ## Opening -/

/-- The path that stands for a database in memory. -/
def inMemory : FilePath := ⟨[], [":memory:"]⟩

/-- The database in a file: a new one where there is none, or an empty file. -/
def databaseAt (files : Files) (p : FilePath) : Except Text (Database × Files) :=
  match files.placeForFile p with
  | .error _ => .error "unable to open database file"
  | .ok place =>
    match files.at? place with
    | some (.database db) => .ok (db, files)
    | some (.file content) =>
      if content.length ≤ 1 then .ok (.empty, files.put place (.database .empty))
      else .error "file is not a database"
    | _ => .ok (.empty, files.put place (.database .empty))

/-- Opens a store; the directory of its file is made. -/
def openAt (files : Files) (p : FilePath) : Except StoreProblem Store × Files :=
  match files.ensureDirectories p.parent with
  | .error problem => (.error (.cannotOpen p.text problem.message), files)
  | .ok files =>
    if p = inMemory then (.ok (ofDatabase .empty), files)
    else
      match databaseAt files p with
      | .error reason => (.error (.cannotOpen p.text reason), files)
      | .ok (db, files) => (.ok (ofDatabase db), files)

end Store

end LinkHarvest
