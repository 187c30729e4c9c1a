import LinkHarvest.Proofs.Store.Reachable

/-!
# Calls as transactions

A call to the store runs statements on a connection. A statement that writes opens a transaction
where none is open, and what it writes stays pending until it is committed (`Connection`). Adding a
subscription commits on its own, and leaves the transaction open when its statement fails; every
other call commits or rolls back as a whole.

Request by request, a connection gives the answers of the store that it serves (`Serves.perform`),
although it may be left with an open transaction. So a store, whose calls take effect in one piece,
stands for every connection that serves it.
-/

namespace LinkHarvest

open Fallible Database

/-! ## Requests -/

inductive Request
  | add (now : Instant) (url : Text) (remark agent : Option Text)
  | update (id : Int) (c : Changes)
  | delete (id : Int)
  | mark (id : Int) (fetchedAt : Option Timestamp)
  | upsert (now : Instant) (drafts : List Draft)
  | list
  | get (id : Int)
  | configs (owner : Option Int) (protocol : Option Text) (limit : Option Int)
  | config (link : Text)
  | count (owner : Option Int)
  | close

inductive Reply
  | done
  | subscription (s : Subscription)
  | subscriptions (l : List Subscription)
  | configs (l : List Config)
  | config (c : Config)
  | count (n : Nat)
  deriving DecidableEq

abbrev Answer := Except StoreProblem Reply

/-- The answer of a call that writes, together with what it leaves. -/
def replying {α σ : Type} (f : α → Reply) (x : Except StoreProblem α × σ) : Answer × σ :=
  (x.1.map f, x.2)

namespace Store

def perform (s : Store) (r : Request) : Answer × Store :=
  match r with
  | .add now url remark agent => replying .subscription (s.add now url remark agent)
  | .update id c => replying .subscription (s.update id c)
  | .delete id => replying (fun _ => .done) (s.delete id)
  | .mark id fetchedAt => replying (fun _ => .done) (s.mark id fetchedAt)
  | .upsert now drafts => replying (fun _ => .done) (s.upsert now drafts)
  | .list => (s.list.map .subscriptions, s)
  | .get id => ((s.get id).map .subscription, s)
  | .configs owner protocol limit => ((s.configs owner protocol limit).map .configs, s)
  | .config link => ((s.config link).map .config, s)
  | .count owner => ((s.count owner).map .count, s)
  | .close => (.ok .done, s.close)

def answers (s : Store) : List Request → List Answer
  | [] => []
  | r :: rest => (s.perform r).1 :: (s.perform r).2.answers rest

end Store

/-! ## Connections -/

/-- A connection: the tables that are committed, and those of the open transaction, if one is. -/
structure Connection where
  committed : Database
  pending : Option Database
  isOpen : Bool
  refusal : StoreCall → Option Text

/-- What a statement does to the tables. It fails without any effect on them. -/
abbrev Statement (α : Type) := Database → Except StoreProblem (α × Database)

/-- The statements one after the other, as a single one. -/
def Statement.sequence (statements : List (Statement Unit)) : Statement Unit := fun db =>
  (statements.foldlM (fun db (statement : Statement Unit) => (statement db).map Prod.snd) db).map
    fun db => ((), db)

namespace Connection

def tables (c : Connection) : Database := c.pending.getD c.committed

/-- The store that the connection shows to its reader. -/
def shown (c : Connection) : Store := ⟨c.tables, c.isOpen, c.refusal⟩

/-- Runs a statement that writes. A transaction is open afterwards, even if the statement failed. -/
def execute {α : Type} (during : StoreActivity) (statement : Statement α) (c : Connection) :
    Except StoreProblem α × Connection :=
  if c.isOpen then
    match statement c.tables with
    | .ok (a, db) => (.ok a, { c with pending := some db })
    | .error p => (.error p, { c with pending := some c.tables })
  else (.error (.closed during), c)

/-- Runs statements one after the other up to the first one that fails. -/
def executeAll (during : StoreActivity) (statements : List (Statement Unit)) (c : Connection) :
    Except StoreProblem Unit × Connection :=
  match statements with
  | [] => (.ok (), c)
  | statement :: rest =>
    match c.execute during statement with
    | (.ok _, c) => c.executeAll during rest
    | (.error p, c) => (.error p, c)

/-- Commits what is pending. The surroundings refuse a call before its first statement, and never its
commit. -/
def commit (c : Connection) : Connection := { c with committed := c.tables, pending := none }

def rollback (c : Connection) : Connection := { c with pending := none }

/-- Commits what the body has written, or rolls it back when the body fails. -/
def transaction {α : Type} (c : Connection)
    (body : Connection → Except StoreProblem α × Connection) : Except StoreProblem α × Connection :=
  match body c with
  | (.ok a, c) => (.ok a, c.commit)
  | (.error p, c) => (.error p, c.rollback)

/-! ### Statements -/

def insertRow (now : Instant) (url : Text) (remark agent : Option Text) : Statement Int := fun db =>
  match db.insert url (remark.bind clearing) (agent.bind clearing) now with
  | .ok db => .ok (db.lastSubscription, db)
  | .error .uniqueUrl => .error (.duplicateUrl url)
  | .error c => .error (.constraint .adding c)

def updateRow (id : Int) (c : Changes) : Statement Unit := fun db =>
  ((db.update id c).mapError (.constraint .changing)).map fun db => ((), db)

def deleteRow (id : Int) : Statement Unit := fun db => .ok ((), db.delete id)

/-- Sets a time, and tells how many rows it was set in. -/
def markRow (id : Int) (at? : Option Instant) : Statement Nat := fun db =>
  (Store.checkInteger id).map fun _ =>
    ((db.subscriptions.filter fun s => s.id = id).length, db.setFetched id at?)

def upsertRow (d : Store.Dated) : Statement Unit := fun db =>
  (Store.upsertOne db d).map fun db => ((), db)

/-! ### Calls -/

/-- Adds a subscription. Nothing rolls back a statement that fails. -/
def add (c : Connection) (now : Instant) (url : Text) (remark agent : Option Text) :
    Except StoreProblem Subscription × Connection :=
  let prepared : Except StoreProblem Text := do
    c.shown.checkRefusal .add
    (Retrieval.checkUrl url).mapError .invalidUrl
  match prepared with
  | .error p => (.error p, c)
  | .ok url =>
    match c.execute .adding (insertRow now url remark agent) with
    | (.error p, c) => (.error p, c)
    | (.ok id, c) => (c.commit.shown.get id, c.commit)

def update (c : Connection) (id : Int) (changes : Changes) :
    Except StoreProblem Subscription × Connection :=
  let prepared : Except StoreProblem (Option Text) := do
    c.shown.checkRefusal .update
    let url ← Store.checkedUrl changes
    if changes.isEmpty then .error .nothingToUpdate
    else
      let _ ← c.shown.get id
      return url
  match prepared with
  | .error p => (.error p, c)
  | .ok url =>
    match c.transaction (execute .changing (updateRow id { changes with url })) with
    | (.error p, c) => (.error p, c)
    | (.ok _, c) => (c.shown.get id, c)

def delete (c : Connection) (id : Int) : Except StoreProblem Unit × Connection :=
  let prepared : Except StoreProblem Subscription := do
    c.shown.checkRefusal .delete
    c.shown.get id
  match prepared with
  | .error p => (.error p, c)
  | .ok _ => c.transaction (execute .changing (deleteRow id))

/-- Sets the time at which a subscription was last fetched. That there is no such subscription shows
only once the statement is committed. -/
def mark (c : Connection) (id : Int) (fetchedAt : Option Timestamp) :
    Except StoreProblem Unit × Connection :=
  let prepared : Except StoreProblem (Option Instant) := do
    c.shown.checkRefusal .mark
    (fetchedAt.map fun t => (Store.instant t).map some).getD (.ok none)
  match prepared with
  | .error p => (.error p, c)
  | .ok at? =>
    match c.transaction (execute .changing (markRow id at?)) with
    | (.error p, c) => (.error p, c)
    | (.ok changed, c) => (if changed = 0 then .error (.noSubscription id) else .ok (), c)

def upsert (c : Connection) (now : Instant) (drafts : List Draft) :
    Except StoreProblem Unit × Connection :=
  let prepared : Except StoreProblem (List Store.Dated) := do
    c.shown.checkRefusal (.upsert (drafts.map Draft.owner))
    drafts.mapM (Store.dated now)
  match prepared with
  | .error p => (.error p, c)
  | .ok all =>
    if all.isEmpty then (.ok (), c)
    else c.transaction (executeAll .saving (all.map upsertRow))

/-- Closes the connection; what is pending is lost. -/
def close (c : Connection) : Connection := { c with pending := none, isOpen := false }

def perform (c : Connection) (r : Request) : Answer × Connection :=
  match r with
  | .add now url remark agent => replying .subscription (c.add now url remark agent)
  | .update id changes => replying .subscription (c.update id changes)
  | .delete id => replying (fun _ => .done) (c.delete id)
  | .mark id fetchedAt => replying (fun _ => .done) (c.mark id fetchedAt)
  | .upsert now drafts => replying (fun _ => .done) (c.upsert now drafts)
  | .close => (.ok .done, c.close)
  | r => ((c.shown.perform r).1, c)

def answers (c : Connection) : List Request → List Answer
  | [] => []
  | r :: rest => (c.perform r).1 :: (c.perform r).2.answers rest

end Connection

/-! ## Connections that serve a store -/

/-- The connection shows the store, and nothing in it waits to be committed. -/
structure Connection.Serves (c : Connection) (s : Store) : Prop where
  shown : c.shown = s
  committed : c.committed = s.database

namespace Store

/-- The connection of a store without an open transaction. -/
def connection (s : Store) : Connection := ⟨s.database, none, s.isOpen, s.refusal⟩

theorem serves_connection (s : Store) : s.connection.Serves s := ⟨rfl, rfl⟩

end Store

namespace Database

variable {db : Database} {id : Int}

theorem setFetched_of_not_knows (h : ∀ t ∈ db.subscriptions, t.id ≠ id) (at? : Option Instant) :
    db.setFetched id at? = db := by
  have hsame : ∀ t ∈ db.subscriptions,
      (if t.id = id then { t with lastFetchedAt := at? } else t) = t :=
    fun t ht => if_neg (h t ht)
  unfold setFetched
  rw [List.map_congr_left hsame, List.map_id'']
  exact fun _ => rfl

theorem numbered_eq_zero :
    (db.subscriptions.filter fun t => t.id = id).length = 0 ↔ db.knows (some id) = false := by
  simp [knows, subscription?]

theorem ids_amended (db : Database) (id : Int) (c : Changes) :
    (db.amended id c).subscriptions.map Subscription.id = db.subscriptions.map Subscription.id := by
  unfold amended
  rw [List.map_map]
  refine List.map_congr_left fun t _ => ?_
  simp only [Function.comp]
  split <;> simp

end Database

namespace Connection

variable {c : Connection} {s : Store} {α : Type}

theorem Serves.rollback (h : c.Serves s) : c.rollback = s.connection := by
  obtain ⟨rfl, hcommitted⟩ := h
  unfold Connection.rollback Store.connection
  rw [hcommitted]
  rfl

theorem checkOpen_shown (during : StoreActivity) :
    c.shown.checkOpen during = if c.isOpen then .ok () else .error (.closed during) := rfl

/-! ### Transactions -/

theorem rollback_execute (during : StoreActivity) (statement : Statement α) :
    (c.execute during statement).2.rollback = c.rollback := by
  unfold execute
  split
  · cases statement c.tables <;> rfl
  · rfl

theorem rollback_executeAll (during : StoreActivity) (statements : List (Statement Unit)) :
    (c.executeAll during statements).2.rollback = c.rollback := by
  induction statements generalizing c with
  | nil => rfl
  | cons statement rest ih =>
    have hfirst : (c.execute during statement).2.rollback = c.rollback :=
      rollback_execute during statement
    rw [executeAll]
    split
    · rename_i heq
      rw [heq] at hfirst
      exact ih.trans hfirst
    · rename_i heq
      rw [heq] at hfirst
      exact hfirst

theorem executeAll_of_isOpen (hopen : c.isOpen = true) (during : StoreActivity)
    (statements : List (Statement Unit)) :
    match Statement.sequence statements c.tables with
    | .ok (_, db) => ∃ c', c.executeAll during statements = (.ok (), c') ∧
        c'.commit = ⟨db, none, c.isOpen, c.refusal⟩
    | .error p => (c.executeAll during statements).1 = .error p := by
  induction statements generalizing c with
  | nil => exact ⟨c, rfl, rfl⟩
  | cons statement rest ih =>
    unfold Statement.sequence executeAll execute
    rw [List.foldlM_cons, if_pos hopen]
    cases statement c.tables with
    | error p => rfl
    | ok result => exact ih (c := { c with pending := some result.2 }) hopen

/-- In a transaction, several statements are as good as one. -/
theorem transaction_executeAll (during : StoreActivity) {statements : List (Statement Unit)}
    (hne : statements ≠ []) :
    c.transaction (executeAll during statements) =
      c.transaction (execute during (.sequence statements)) := by
  obtain ⟨statement, rest, rfl⟩ := List.exists_cons_of_ne_nil hne
  cases hopen : c.isOpen with
  | false => simp [transaction, executeAll, execute, hopen]
  | true =>
    have hall := executeAll_of_isOpen hopen during (statement :: rest)
    have hundone : (c.executeAll during (statement :: rest)).2.rollback = c.rollback :=
      rollback_executeAll during (statement :: rest)
    unfold transaction execute
    rw [if_pos hopen]
    rcases hrun : c.executeAll during (statement :: rest) with ⟨answer, c'⟩
    rw [hrun] at hall hundone
    cases hdecided : Statement.sequence (statement :: rest) c.tables with
    | ok result =>
      rw [hdecided] at hall
      obtain ⟨_, hsame, hcommit⟩ := hall
      cases hsame
      exact congrArg (Prod.mk _) hcommit
    | error p =>
      rw [hdecided] at hall
      dsimp only at hall hundone
      rw [hall]
      exact congrArg (Prod.mk _) hundone

/-- A transaction on a connection that serves a store takes effect as a whole or not at all. -/
theorem transaction_execute (h : c.Serves s) (during : StoreActivity) (statement : Statement α) :
    c.transaction (execute during statement) =
      match (do s.checkOpen during; statement s.database : Except StoreProblem (α × Database)) with
      | .ok (a, db) => (.ok a, { s with database := db }.connection)
      | .error p => (.error p, s.connection) := by
  have hundone : (c.execute during statement).2.rollback = s.connection :=
    (rollback_execute during statement).trans h.rollback
  obtain ⟨rfl, -⟩ := h
  have htables : c.shown.database = c.tables := rfl
  unfold transaction
  rw [checkOpen_shown, htables]
  unfold execute at hundone ⊢
  by_cases hopen : c.isOpen = true
  · rw [if_pos hopen] at hundone ⊢
    rw [if_pos hopen, ok_bind]
    cases hdecided : statement c.tables with
    | error p =>
      rw [hdecided] at hundone
      exact congrArg (Prod.mk _) hundone
    | ok result => rfl
  · rw [if_neg hopen] at hundone ⊢
    rw [if_neg hopen]
    exact congrArg (Prod.mk _) hundone

theorem sequence_upsertRow (all : List Store.Dated) (db : Database) :
    Statement.sequence (all.map upsertRow) db =
      (all.foldlM Store.upsertOne db).map fun db => ((), db) := by
  have hrow : (fun db d => (upsertRow d db).map Prod.snd) = Store.upsertOne := by
    funext db d
    unfold upsertRow
    cases Store.upsertOne db d <;> rfl
  unfold Statement.sequence
  rw [List.foldlM_map, hrow]

/-! ### The same answers -/

/-- A call on the connection answers as the call on the store, and serves what it leaves. -/
structure Agree (x : Except StoreProblem α × Connection) (y : Except StoreProblem α × Store) :
    Prop where
  answer : x.1 = y.1
  serves : x.2.Serves y.2

theorem Agree.replying {x : Except StoreProblem α × Connection} {y : Except StoreProblem α × Store}
    (h : Agree x y) (f : α → Reply) : Agree (replying f x) (replying f y) :=
  ⟨congrArg (Except.map f) h.answer, h.serves⟩

namespace Serves

theorem add (h : c.Serves s) (now : Instant) (url : Text) (remark agent : Option Text) :
    Agree (c.add now url remark agent) (s.add now url remark agent) := by
  have hserves := h
  obtain ⟨rfl, hcommitted⟩ := h
  unfold Connection.add Store.add
  cases c.shown.checkRefusal .add with
  | error p => exact ⟨rfl, hserves⟩
  | ok _ =>
    cases (Retrieval.checkUrl url).mapError StoreProblem.invalidUrl with
    | error p => exact ⟨rfl, hserves⟩
    | ok url =>
      have htables : c.shown.database = c.tables := rfl
      unfold execute insertRow
      rw [ok_bind, ok_bind, ok_bind, checkOpen_shown, htables]
      dsimp only
      by_cases hopen : c.isOpen = true
      · rw [if_pos hopen, if_pos hopen, ok_bind]
        cases c.tables.insert url (remark.bind clearing) (agent.bind clearing) now with
        | ok db => exact ⟨rfl, rfl, rfl⟩
        | error rule => cases rule <;> exact ⟨rfl, rfl, hcommitted⟩
      · rw [if_neg hopen, if_neg hopen]
        exact ⟨rfl, hserves⟩

theorem update (h : c.Serves s) (id : Int) (changes : Changes) :
    Agree (c.update id changes) (s.update id changes) := by
  rw [Store.update_eq]
  unfold Connection.update Store.updatedFor
  rw [h.shown]
  cases s.checkRefusal .update with
  | error p => exact ⟨rfl, h⟩
  | ok _ =>
    cases Store.checkedUrl changes with
    | error p => exact ⟨rfl, h⟩
    | ok url =>
      cases changes.isEmpty with
      | true => exact ⟨rfl, h⟩
      | false =>
        cases hget : s.get id with
        | error p => exact ⟨rfl, h⟩
        | ok found =>
          have hopen : s.checkOpen .changing = .ok () := if_pos (Store.get_eq_ok.mp hget).2.1
          simp only [ok_bind]
          rw [if_neg Bool.false_ne_true, if_neg Bool.false_ne_true]
          show Agree
            (match c.transaction (execute .changing (updateRow id { changes with url })) with
              | (.error p, c) => (.error p, c)
              | (.ok _, c) => (c.shown.get id, c)) _
          rw [transaction_execute h, hopen, ok_bind]
          unfold updateRow
          cases s.database.update id { changes with url } with
          | error rule => exact ⟨rfl, Store.serves_connection s⟩
          | ok db => exact ⟨rfl, Store.serves_connection _⟩

theorem delete (h : c.Serves s) (id : Int) : Agree (c.delete id) (s.delete id) := by
  unfold Connection.delete Store.delete
  rw [h.shown]
  cases s.checkRefusal .delete with
  | error p => exact ⟨rfl, h⟩
  | ok _ =>
    cases hget : s.get id with
    | error p => exact ⟨rfl, h⟩
    | ok found =>
      have hopen : s.checkOpen .changing = .ok () := if_pos (Store.get_eq_ok.mp hget).2.1
      rw [ok_bind, ok_bind, ok_bind]
      dsimp only
      rw [transaction_execute h, hopen]
      exact ⟨rfl, Store.serves_connection _⟩

theorem mark (h : c.Serves s) (id : Int) (fetchedAt : Option Timestamp) :
    Agree (c.mark id fetchedAt) (s.mark id fetchedAt) := by
  rw [Store.mark_eq]
  unfold Connection.mark Store.stampFor
  rw [h.shown]
  cases s.checkRefusal .mark with
  | error p => exact ⟨rfl, h⟩
  | ok _ =>
    cases (fetchedAt.map fun t => (Store.instant t).map some).getD (.ok none) with
    | error p => exact ⟨rfl, h⟩
    | ok at? =>
      simp only [ok_bind]
      rw [transaction_execute h]
      unfold markRow
      cases s.checkOpen .changing with
      | error p => exact ⟨rfl, Store.serves_connection s⟩
      | ok _ =>
        cases Store.checkInteger id with
        | error p => exact ⟨rfl, Store.serves_connection s⟩
        | ok _ =>
          rw [ok_bind, map_ok]
          dsimp only
          by_cases hnone : (s.database.subscriptions.filter fun t => t.id = id).length = 0
          · have hunmarked : s.database.setFetched id at? = s.database :=
              setFetched_of_not_knows (by simpa using hnone) at?
            rw [if_pos hnone, numbered_eq_zero.mp hnone, hunmarked]
            exact ⟨rfl, Store.serves_connection s⟩
          · have hknows : s.database.knows (some id) = true :=
              eq_true_of_ne_false (mt numbered_eq_zero.mpr hnone)
            rw [if_neg hnone, hknows]
            exact ⟨rfl, Store.serves_connection _⟩

theorem upsert (h : c.Serves s) (now : Instant) (drafts : List Draft) :
    Agree (c.upsert now drafts) (s.upsert now drafts) := by
  unfold Connection.upsert Store.upsert
  rw [h.shown]
  cases s.checkRefusal (.upsert (drafts.map Draft.owner)) with
  | error p => exact ⟨rfl, h⟩
  | ok _ =>
    cases drafts.mapM (Store.dated now) with
    | error p => exact ⟨rfl, h⟩
    | ok all =>
      cases all with
      | nil => exact ⟨rfl, h⟩
      | cons d all =>
        have hne : (d :: all).map upsertRow ≠ [] := by simp
        simp only [ok_bind, List.isEmpty_cons]
        rw [transaction_executeAll _ hne, transaction_execute h, sequence_upsertRow]
        cases s.checkOpen .saving with
        | error p => exact ⟨rfl, Store.serves_connection s⟩
        | ok _ =>
          cases (d :: all).foldlM Store.upsertOne s.database with
          | error p => exact ⟨rfl, Store.serves_connection s⟩
          | ok db => exact ⟨rfl, Store.serves_connection _⟩

theorem close (h : c.Serves s) : c.close.Serves s.close := by
  obtain ⟨rfl, hcommitted⟩ := h
  exact ⟨congrArg (Store.mk · false c.refusal) hcommitted, hcommitted⟩

/-- **Whatever is requested, a connection answers as the store that it serves**, and serves what is
left of it. -/
theorem perform (h : c.Serves s) (r : Request) : Agree (c.perform r) (s.perform r) := by
  have hread : ∀ a : Answer, Agree (a, c) (a, s) := fun a => ⟨rfl, h⟩
  have hshown := h.shown
  unfold Connection.perform
  cases r with
  | add now url remark agent => exact (h.add now url remark agent).replying _
  | update id changes => exact (h.update id changes).replying _
  | delete id => exact (h.delete id).replying _
  | mark id fetchedAt => exact (h.mark id fetchedAt).replying _
  | upsert now drafts => exact (h.upsert now drafts).replying _
  | close => exact ⟨rfl, h.close⟩
  | list | get | configs | config | count =>
    rw [hshown]
    exact hread _

theorem answers (h : c.Serves s) (requests : List Request) :
    c.answers requests = s.answers requests := by
  induction requests generalizing c s with
  | nil => rfl
  | cons r rest ih =>
    obtain ⟨hanswer, hserves⟩ := h.perform r
    unfold Connection.answers Store.answers
    rw [hanswer, ih hserves]

end Serves

end Connection

end LinkHarvest
