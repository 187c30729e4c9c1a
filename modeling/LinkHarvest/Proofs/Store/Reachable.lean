import LinkHarvest.Proofs.Store.Changes

/-!
# Stores that calls can lead to

A store is reached from an empty database by calls, in any order and whether they answer or fail,
while its surroundings change as they like: they close it, open it again, and refuse calls or no
longer refuse them. What calls do to the tables are changes (`Reachable.leadsTo`), and the links of
such a store are distinct (`Reachable.linksDistinct`).
-/

namespace LinkHarvest.Store

open Database

/-- The stores that calls lead to. -/
inductive Reachable : Store → Prop
  | new : Reachable (ofDatabase .empty)
  | surroundings {s : Store} (h : Reachable s) (isOpen : Bool)
      (refusal : StoreCall → Option Text) : Reachable ⟨s.database, isOpen, refusal⟩
  | add {s : Store} (h : Reachable s) (now : Instant) (url : Text) (remark agent : Option Text) :
      Reachable (s.add now url remark agent).2
  | update {s : Store} (h : Reachable s) (id : Int) (c : Changes) : Reachable (s.update id c).2
  | delete {s : Store} (h : Reachable s) (id : Int) : Reachable (s.delete id).2
  | mark {s : Store} (h : Reachable s) (id : Int) (fetchedAt : Option Timestamp) :
      Reachable (s.mark id fetchedAt).2
  | upsert {s : Store} (h : Reachable s) (now : Instant) (drafts : List Draft) :
      Reachable (s.upsert now drafts).2

variable {s : Store}

/-! ## Changes -/

theorem leadsTo_add (now : Instant) (url : Text) (remark agent : Option Text) :
    LeadsTo s.database (s.add now url remark agent).2.database := by
  rcases s.add_changes now url remark agent with h | ⟨db, hchange, -, h⟩
  · rw [h]
  · rw [h]
    exact .single hchange

theorem leadsTo_update (id : Int) (c : Changes) :
    LeadsTo s.database (s.update id c).2.database := by
  rcases s.update_changes id c with h | ⟨db, hchange, -, h⟩
  · rw [h]
  · rw [h]
    exact .single hchange

theorem leadsTo_delete (id : Int) : LeadsTo s.database (s.delete id).2.database := by
  rcases s.delete_changes id with h | h
  · rw [h]
  · rw [h]
    exact .single (.deleted _ id)

theorem leadsTo_upsert (now : Instant) (drafts : List Draft) :
    LeadsTo s.database (s.upsert now drafts).2.database := by
  rcases s.upsert_changes now drafts with h | ⟨rows, howners, -, h⟩
  · rw [h]
  · rw [h]
    exact leadsTo_putAll howners

theorem leadsTo_mark (id : Int) (fetchedAt : Option Timestamp) :
    LeadsTo s.database (s.mark id fetchedAt).2.database := by
  rcases s.mark_changes id fetchedAt with h | ⟨at?, h⟩
  · rw [h]
  · rw [h]
    exact .single (.fetched _ id at?)

theorem Reachable.leadsTo (h : s.Reachable) : LeadsTo .empty s.database := by
  induction h with
  | new => exact .refl
  | surroundings _ _ _ ih => exact ih
  | add _ now url remark agent ih => exact ih.trans (leadsTo_add now url remark agent)
  | update _ id c ih => exact ih.trans (leadsTo_update id c)
  | delete _ id ih => exact ih.trans (leadsTo_delete id)
  | mark _ id fetchedAt ih => exact ih.trans (leadsTo_mark id fetchedAt)
  | upsert _ now drafts ih => exact ih.trans (leadsTo_upsert now drafts)

/-! ## Links -/

theorem add_configs (now : Instant) (url : Text) (remark agent : Option Text) :
    (s.add now url remark agent).2.database.configs = s.database.configs := by
  rcases s.add_changes now url remark agent with h | ⟨db, -, hconfigs, h⟩
  · rw [h]
  · rw [h]
    exact hconfigs

theorem update_configs (id : Int) (c : Changes) :
    (s.update id c).2.database.configs = s.database.configs := by
  rcases s.update_changes id c with h | ⟨db, -, hconfigs, h⟩
  · rw [h]
  · rw [h]
    exact hconfigs

theorem delete_configs (id : Int) :
    (s.delete id).2.database.configs.Sublist s.database.configs := by
  rcases s.delete_changes id with h | h
  · rw [h]
  · rw [h]
    exact List.filter_sublist

theorem mark_configs (id : Int) (fetchedAt : Option Timestamp) :
    (s.mark id fetchedAt).2.database.configs = s.database.configs := by
  rcases s.mark_changes id fetchedAt with h | ⟨at?, h⟩
  · rw [h]
  · rw [h]
    rfl

theorem Reachable.linksDistinct (h : s.Reachable) : s.database.LinksDistinct := by
  induction h with
  | new => exact List.nodup_nil
  | surroundings _ _ _ ih => exact ih
  | add _ now url remark agent ih =>
    unfold Database.LinksDistinct at ih ⊢
    rwa [add_configs]
  | update _ id c ih =>
    unfold Database.LinksDistinct at ih ⊢
    rwa [update_configs]
  | delete _ id ih => exact ih.sublist ((delete_configs id).map Config.link)
  | mark _ id fetchedAt ih =>
    unfold Database.LinksDistinct at ih ⊢
    rwa [mark_configs]
  | @upsert s _ now drafts ih =>
    rw [upsert_eq]
    cases s.rowsFor now drafts with
    | ok rows => exact ih.putAll rows
    | error p => exact ih

end LinkHarvest.Store
