import LinkHarvest.Proofs.Retrieval.SourceUrl
import LinkHarvest.Proofs.Store.Calls
import Mathlib.Logic.Relation

/-!
# What calls change

Every call to the store makes some of five changes to the tables, each under the conditions that
the call has checked: a new subscription with a URL that no other one has, new fields of a
subscription, a deletion, a new time of fetching, and a row of a link whose owner is a subscription.
`Database.Change` lists them, and the lemmas `add_changes` to `upsert_changes` say that no call does
anything else. So what the five changes keep, every call keeps.
-/

namespace LinkHarvest

open Fallible

/-! ## Cleared texts -/

theorem clearing_ne (t : Text) : clearing t ≠ some [] := by
  unfold clearing
  split
  · simp
  · rename_i ht
    intro h
    cases h
    exact ht rfl

namespace Database

/-! ## Assignments -/

namespace Assignments

/-- There is a value to bind for every column. -/
def InStep (a : Assignments) : Prop := a.columns.length = a.cells.length

theorem inStep_empty : empty.InStep := rfl

theorem InStep.and {a : Assignments} (h : a.InStep) (column : Column) (cell : Option Cell) :
    (a.and column cell).InStep := by
  cases cell with
  | none => exact h
  | some cell =>
    unfold InStep at h ⊢
    simp [Assignments.and, h]

theorem InStep.apply_and {a : Assignments} (h : a.InStep) (column : Column) (cell : Option Cell)
    (s : Subscription) :
    (a.and column cell).apply s =
      (cell.map (assign (a.apply s) column)).getD (a.apply s) := by
  cases cell with
  | none => rfl
  | some cell =>
    unfold InStep at h
    simp [Assignments.and, apply, List.zip_append h]

theorem apply_empty (s : Subscription) : empty.apply s = s := rfl

end Assignments

variable (s : Subscription)

theorem assign_url (url : Option Text) :
    ((url.map Cell.text).map (assign s .url)).getD s = { s with url := url.getD s.url } := by
  cases url <;> rfl

theorem assign_remark (remark : Option Text) :
    ((remark.map Cell.ofText).map (assign s .remark)).getD s =
      { s with remark := (remark.map clearing).getD s.remark } := by
  cases remark with
  | none => rfl
  | some t =>
    unfold Cell.ofText
    cases hclear : clearing t <;> simp [hclear, assign]

theorem assign_agent (agent : Option Text) :
    ((agent.map Cell.ofText).map (assign s .agent)).getD s =
      { s with agent := (agent.map clearing).getD s.agent } := by
  cases agent with
  | none => rfl
  | some t =>
    unfold Cell.ofText
    cases hclear : clearing t <;> simp [hclear, assign]

theorem assign_enabled (enabled : Option Bool) :
    ((enabled.map Cell.flag).map (assign s .enabled)).getD s =
      { s with enabled := enabled.getD s.enabled } := by
  cases enabled <;> rfl

/-- **Every named field gets its own value**, whichever fields are named. -/
theorem changed_eq (c : Changes) :
    changed s c =
      { s with
        url := c.url.getD s.url
        remark := (c.remark.map clearing).getD s.remark
        agent := (c.agent.map clearing).getD s.agent
        enabled := c.enabled.getD s.enabled } := by
  have hempty := Assignments.inStep_empty
  have hurl := hempty.and .url (c.url.map Cell.text)
  have hremark := hurl.and .remark (c.remark.map Cell.ofText)
  have hagent := hremark.and .agent (c.agent.map Cell.ofText)
  rw [changed, Assignments.ofChanges, hagent.apply_and, hremark.apply_and, hurl.apply_and,
    hempty.apply_and, Assignments.apply_empty, assign_url, assign_remark, assign_agent,
    assign_enabled]

@[simp] theorem changed_id (c : Changes) : (changed s c).id = s.id := by
  rw [changed_eq]

@[simp] theorem changed_createdAt (c : Changes) : (changed s c).createdAt = s.createdAt := by
  rw [changed_eq]

/-! ## Changes -/

def inserted (db : Database) (url : Text) (remark agent : Option Text) (now : Instant) :
    Database :=
  { db with
    subscriptions :=
      db.subscriptions ++ [⟨db.lastSubscription + 1, url, remark, agent, true, now, none⟩]
    lastSubscription := db.lastSubscription + 1 }

/-- The tables with fields of the subscription with a number changed. -/
def amended (db : Database) (id : Int) (c : Changes) : Database :=
  { db with subscriptions := db.subscriptions.map fun s => if s.id = id then changed s c else s }

/-- A change that a call makes to the tables, with what the call has checked. -/
inductive Change : Database → Database → Prop
  | inserted {db : Database} {url : Text} {remark agent : Option Text} (now : Instant)
      (hchecked : Retrieval.checkUrl url = .ok url) (hnew : ∀ s ∈ db.subscriptions, s.url ≠ url)
      (hremark : remark ≠ some []) (hagent : agent ≠ some []) :
      Change db (db.inserted url remark agent now)
  | amended {db : Database} {id : Int} {c : Changes}
      (hchecked : ∀ url, c.url = some url → Retrieval.checkUrl url = .ok url)
      (hnew : ∀ url, c.url = some url → ∀ s ∈ db.subscriptions, s.url = url → s.id = id) :
      Change db (db.amended id c)
  | deleted (db : Database) (id : Int) : Change db (db.delete id)
  | fetched (db : Database) (id : Int) (at? : Option Instant) : Change db (db.setFetched id at?)
  | put {db : Database} {v : ConfigValues} (howner : db.knows v.owner = true) : Change db (db.put v)

abbrev LeadsTo : Database → Database → Prop := Relation.ReflTransGen Change

theorem insert_eq_ok {db db' : Database} {url : Text} {remark agent : Option Text} {now : Instant} :
    db.insert url remark agent now = .ok db' ↔
      db.lastSubscription < greatestNumber ∧ (∀ s ∈ db.subscriptions, s.url ≠ url) ∧
        db' = db.inserted url remark agent now := by
  unfold insert
  dsimp only
  constructor
  · intro h
    split at h
    · cases h
    · rename_i hleft
      split at h
      · cases h
      · rename_i hnew
        cases h
        exact ⟨by omega, by simpa using hnew, rfl⟩
  · rintro ⟨hleft, hnew, rfl⟩
    have hroom : ¬ greatestNumber < db.lastSubscription + 1 := by omega
    have hfree : ¬ (db.subscriptions.any fun s => s.url = url) = true := by simpa using hnew
    rw [if_neg hroom, if_neg hfree]
    rfl

theorem update_eq_ok {db db' : Database} {id : Int} {c : Changes} :
    db.update id c = .ok db' ↔
      (∀ url, c.url = some url → ∀ s ∈ db.subscriptions, s.url = url → s.id = id) ∧
        db' = db.amended id c := by
  unfold update
  constructor
  · intro h
    split at h
    · cases h
    · rename_i hfree
      cases h
      refine ⟨fun url hurl => ?_, rfl⟩
      rw [hurl, Option.map_some, Option.getD_some] at hfree
      simpa [urlTaken] using hfree
  · rintro ⟨hnew, rfl⟩
    have hfree : ¬ (c.url.map (db.urlTaken id)).getD false = true := by
      cases hurl : c.url with
      | none => simp
      | some url => simpa [urlTaken] using hnew url hurl
    exact if_neg hfree

theorem leadsTo_putAll {db : Database} {vs : List ConfigValues}
    (h : ∀ v ∈ vs, db.knows v.owner = true) : LeadsTo db (db.putAll vs) := by
  induction vs generalizing db with
  | nil => exact .refl
  | cons v vs ih =>
    obtain ⟨hv, hrest⟩ := List.forall_mem_cons.mp h
    have hput : (db.put v).LeadsTo ((db.put v).putAll vs) := ih hrest
    exact .head (.put hv) hput

end Database

namespace Store

open Database

variable (s : Store)

/-! ## Calls -/

theorem add_cases (now : Instant) (url : Text) (remark agent : Option Text) :
    (∃ p, s.add now url remark agent = (.error p, s)) ∨
      ∃ checked db, Retrieval.checkUrl url = .ok checked ∧ s.isOpen = true ∧
        s.database.lastSubscription < greatestNumber ∧
        (∀ t ∈ s.database.subscriptions, t.url ≠ checked) ∧
        db = s.database.inserted checked (remark.bind clearing) (agent.bind clearing) now ∧
        s.add now url remark agent =
          ({ s with database := db }.get db.lastSubscription, { s with database := db }) := by
  unfold add
  dsimp only
  split
  · exact .inl ⟨_, rfl⟩
  · rename_i db hprepared
    obtain ⟨_, -, hprepared⟩ := bind_eq_ok.mp hprepared
    obtain ⟨checked, hchecked, hprepared⟩ := bind_eq_ok.mp hprepared
    obtain ⟨_, hopen, hprepared⟩ := bind_eq_ok.mp hprepared
    obtain ⟨hleft, hnew, hdb⟩ := insert_eq_ok.mp (mapError_eq_ok.mp hprepared)
    have hchecked := mapError_eq_ok.mp hchecked
    have hopen : s.isOpen = true := by
      by_contra hclosed
      rw [checkOpen, if_neg hclosed] at hopen
      cases hopen
    exact .inr ⟨checked, db, hchecked, hopen, hleft, hnew, hdb, rfl⟩

theorem add_changes (now : Instant) (url : Text) (remark agent : Option Text) :
    (s.add now url remark agent).2 = s ∨
      ∃ db, Change s.database db ∧ db.configs = s.database.configs ∧
        (s.add now url remark agent).2 = { s with database := db } := by
  rcases s.add_cases now url remark agent with ⟨p, h⟩ | ⟨checked, db, hchecked, -, -, hnew, rfl, h⟩
  · rw [h]
    exact .inl rfl
  · have hclear : ∀ t : Option Text, t.bind clearing ≠ some [] := by
      intro t ht
      obtain ⟨t, -, ht⟩ := Option.bind_eq_some_iff.mp ht
      exact clearing_ne t ht
    have hchecked := Retrieval.checkUrl_of_eq_ok hchecked
    rw [h]
    exact .inr ⟨_, .inserted now hchecked hnew (hclear remark) (hclear agent), rfl, rfl⟩

/-- The URL that an update names, checked. -/
def checkedUrl (c : Changes) : Except StoreProblem (Option Text) :=
  (c.url.map fun u => ((Retrieval.checkUrl u).map some).mapError .invalidUrl).getD (.ok none)

theorem checkedUrl_eq_ok {c : Changes} {url : Option Text} :
    checkedUrl c = .ok url ↔
      (∀ u, c.url = some u → Retrieval.IsAbsolute (Text.trim u)) ∧ url = c.url.map Text.trim := by
  unfold checkedUrl
  cases c.url with
  | none => simp [eq_comm]
  | some u =>
    rw [Option.map_some, Option.getD_some, mapError_eq_ok, map_eq_ok]
    simp only [Retrieval.checkUrl_eq_ok, Option.some.injEq, Option.map_some, forall_eq']
    constructor
    · rintro ⟨_, ⟨habsolute, rfl⟩, rfl⟩
      exact ⟨habsolute, rfl⟩
    · rintro ⟨habsolute, rfl⟩
      exact ⟨_, ⟨habsolute, rfl⟩, rfl⟩

/-- The tables that an update leads to, or why it fails. -/
def updatedFor (id : Int) (c : Changes) : Except StoreProblem Database := do
  s.checkRefusal .update
  let url ← checkedUrl c
  if c.isEmpty then .error .nothingToUpdate
  else
    let _ ← s.get id
    (s.database.update id { c with url }).mapError (.constraint .changing)

theorem update_eq (id : Int) (c : Changes) :
    s.update id c =
      match s.updatedFor id c with
      | .error p => (.error p, s)
      | .ok db => ({ s with database := db }.get id, { s with database := db }) := by
  unfold update updatedFor checkedUrl
  cases s.checkRefusal .update with
  | error p => rfl
  | ok _ =>
    cases c.url with
    | none =>
      simp only [ok_bind, Option.map_none, Option.getD_none, pure_bind]
      cases c.isEmpty with
      | true => rfl
      | false => cases s.get id <;> rfl
    | some u =>
      simp only [ok_bind, Option.map_some, Option.getD_some]
      cases ((Retrieval.checkUrl u).map some).mapError StoreProblem.invalidUrl with
      | error p => rfl
      | ok url =>
        rw [ok_bind, ok_bind]
        cases c.isEmpty with
        | true => rfl
        | false => cases s.get id <;> rfl

theorem update_cases (id : Int) (c : Changes) :
    (∃ p, s.update id c = (.error p, s)) ∨
      ∃ url db, checkedUrl c = .ok url ∧ c.isEmpty = false ∧
        (∃ found, s.get id = .ok found) ∧ s.database.update id { c with url } = .ok db ∧
        s.update id c = ({ s with database := db }.get id, { s with database := db }) := by
  rw [update_eq]
  cases hupdated : s.updatedFor id c with
  | error p => exact .inl ⟨p, rfl⟩
  | ok db =>
    obtain ⟨_, -, hupdated⟩ := bind_eq_ok.mp hupdated
    obtain ⟨url, hurl, hupdated⟩ := bind_eq_ok.mp hupdated
    split at hupdated
    · cases hupdated
    · rename_i hnamed
      obtain ⟨found, hfound, hupdated⟩ := bind_eq_ok.mp hupdated
      exact .inr ⟨url, db, hurl, by simpa using hnamed, ⟨found, hfound⟩,
        mapError_eq_ok.mp hupdated, rfl⟩

theorem update_changes (id : Int) (c : Changes) :
    (s.update id c).2 = s ∨
      ∃ db, Change s.database db ∧ db.configs = s.database.configs ∧
        (s.update id c).2 = { s with database := db } := by
  rcases s.update_cases id c with ⟨p, h⟩ | ⟨url, db, hurl, -, -, hdb, h⟩
  · rw [h]
    exact .inl rfl
  · obtain ⟨hnew, rfl⟩ := update_eq_ok.mp hdb
    obtain ⟨habsolute, rfl⟩ := checkedUrl_eq_ok.mp hurl
    have hchecked : ∀ u, c.url.map Text.trim = some u → Retrieval.checkUrl u = .ok u := by
      intro u hu
      obtain ⟨named, hnamed, rfl⟩ := Option.map_eq_some_iff.mp hu
      exact Retrieval.checkUrl_of_eq_ok
        (Retrieval.checkUrl_eq_ok.mpr ⟨habsolute named hnamed, rfl⟩)
    rw [h]
    exact .inr ⟨_, .amended hchecked hnew, rfl, rfl⟩

theorem delete_changes (id : Int) :
    (s.delete id).2 = s ∨ (s.delete id).2 = { s with database := s.database.delete id } := by
  unfold delete
  dsimp only
  split
  · exact .inl rfl
  · rename_i db hprepared
    obtain ⟨_, -, hprepared⟩ := bind_eq_ok.mp hprepared
    obtain ⟨found, -, hprepared⟩ := bind_eq_ok.mp hprepared
    cases hprepared
    exact .inr rfl

theorem mark_changes (id : Int) (fetchedAt : Option Timestamp) :
    (s.mark id fetchedAt).2 = s ∨
      ∃ at?, (s.mark id fetchedAt).2 = { s with database := s.database.setFetched id at? } := by
  rw [mark_eq]
  split
  · exact .inr ⟨_, rfl⟩
  · exact .inl rfl

theorem upsert_changes (now : Instant) (drafts : List Draft) :
    (s.upsert now drafts).2 = s ∨
      ∃ rows : List ConfigValues, (∀ v ∈ rows, s.database.knows v.owner = true) ∧
        (∀ v ∈ rows, ∃ d ∈ drafts, d.owner = v.owner) ∧
        (s.upsert now drafts).2 = { s with database := s.database.putAll rows } := by
  rw [upsert_eq]
  cases hrows : s.rowsFor now drafts with
  | error p => exact .inl rfl
  | ok rows =>
    obtain ⟨rfl, -, hstored⟩ := rowsFor_eq_ok hrows
    refine .inr ⟨_, ?_, ?_, rfl⟩
    · intro v hv
      obtain ⟨d, hd, rfl⟩ := List.mem_map.mp hv
      exact (hstored d hd).knows
    · intro v hv
      obtain ⟨d, hd, rfl⟩ := List.mem_map.mp hv
      exact ⟨d, hd, rfl⟩

end Store

end LinkHarvest
