import LinkHarvest.Json.Reader
import LinkHarvest.Json.Writer
import LinkHarvest.Store.Database
import LinkHarvest.Text.Utf8

/-!
# Archives

A database as the content of a file: a document with the rows of both tables and the numbers that
they have used.
-/

namespace LinkHarvest

/-! ## Writing -/

def Value.ofFields (fields : List (Text × Value)) : Value :=
  .map (fields.map fun (name, v) => (.ofText name, v))

def Value.ofOption (write : α → Value) (a : Option α) : Value := (a.map write).getD .null

def Instant.toValue (i : Instant) : Value := .ofText i.text

def Subscription.toValue (s : Subscription) : Value :=
  .ofFields [
    ("id", .int s.id),
    ("url", .ofText s.url),
    ("remark", .ofOption .ofText s.remark),
    ("agent", .ofOption .ofText s.agent),
    ("enabled", .bool s.enabled),
    ("created", s.createdAt.toValue),
    ("fetched", .ofOption Instant.toValue s.lastFetchedAt)]

def Config.toValue (c : Config) : Value :=
  .ofFields [
    ("id", .int c.id),
    ("owner", .ofOption .int c.owner),
    ("link", .ofText c.link),
    ("protocol", .ofOption .ofText c.protocol),
    ("remark", .ofOption .ofText c.remark),
    ("added", c.addedAt.toValue),
    ("seen", c.lastSeenAt.toValue)]

def Database.toValue (db : Database) : Value :=
  .ofFields [
    ("subscriptions", .list (db.subscriptions.map Subscription.toValue)),
    ("lastSubscription", .int db.lastSubscription),
    ("configs", .list (db.configs.map Config.toValue)),
    ("lastConfig", .int db.lastConfig)]

def Database.archived (db : Database) : Bytes := Utf8.encode (Json.write db.toValue)

/-! ## Reading -/

def Value.field? (v : Value) (name : Text) : Option Value :=
  match v with
  | .map entries => Value.find? entries name
  | _ => none

def Value.asText? : Value → Option Text
  | .text t => t.toText?
  | _ => none

/-- The truth value of a document that is one. -/
def Value.asBool? : Value → Option Bool
  | .bool b => some b
  | _ => none

/-- The items of a document that is a list. -/
def Value.asList? : Value → Option (List Value)
  | .list items => some items
  | _ => none

def Value.asOption? (read : Value → Option α) (v : Value) : Option (Option α) :=
  match v with
  | .null => some none
  | v => (read v).map some

def Instant.ofValue? (v : Value) : Option Instant := v.asText?.bind Instant.read?

def Subscription.ofValue? (v : Value) : Option Subscription := do
  return {
    id := ← (← v.field? "id").asInt?
    url := ← (← v.field? "url").asText?
    remark := ← (← v.field? "remark").asOption? Value.asText?
    agent := ← (← v.field? "agent").asOption? Value.asText?
    enabled := ← (← v.field? "enabled").asBool?
    createdAt := ← Instant.ofValue? (← v.field? "created")
    lastFetchedAt := ← (← v.field? "fetched").asOption? Instant.ofValue? }

def Config.ofValue? (v : Value) : Option Config := do
  return {
    id := ← (← v.field? "id").asInt?
    owner := ← (← v.field? "owner").asOption? Value.asInt?
    link := ← (← v.field? "link").asText?
    protocol := ← (← v.field? "protocol").asOption? Value.asText?
    remark := ← (← v.field? "remark").asOption? Value.asText?
    addedAt := ← Instant.ofValue? (← v.field? "added")
    lastSeenAt := ← Instant.ofValue? (← v.field? "seen") }

def Database.ofValue? (v : Value) : Option Database := do
  return {
    subscriptions := ← (← (← v.field? "subscriptions").asList?).mapM Subscription.ofValue?
    lastSubscription := ← (← v.field? "lastSubscription").asInt?
    configs := ← (← (← v.field? "configs").asList?).mapM Config.ofValue?
    lastConfig := ← (← v.field? "lastConfig").asInt? }

/-- Reads a database from the content of a file. -/
def Database.ofArchive? (content : Bytes) : Option Database := do
  Database.ofValue? (← (Json.read (← Utf8.decode? content)).toOption)

end LinkHarvest
