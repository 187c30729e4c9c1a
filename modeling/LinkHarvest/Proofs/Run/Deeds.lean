import LinkHarvest.Proofs.Run.Calls
import LinkHarvest.Proofs.Store.Sound

/-!
# The life of a store

A store lives through deeds: calls that write, runs, single steps of sources whose runs take turns
with each other and with calls, and changes of its surroundings, which close it, open it again and
refuse calls. A deed may fail; then it is a deed all the same, and a run may be taken apart into its
calls (`after_run`). Whatever the deeds since the empty database, the tables are sound, and no
number is used twice (`tablesAfter_sound`).
-/

namespace LinkHarvest

open Database

/-- Something that happens to a store. -/
inductive Deed
  | add (now : Instant) (url : Text) (remark agent : Option Text)
  | update (id : Int) (c : Changes)
  | delete (id : Int)
  | mark (id : Int) (fetchedAt : Option Timestamp)
  | upsert (now : Instant) (drafts : List Draft)
  | run (setting : Run.Setting) (options : Options.FetchOptions) (files : Files)
      (clients : Retrieval.Clients)
  | step (setting : Run.Setting) (options : Options.FetchOptions) (job : Run.Job)
      (phase : Run.Phase) (clients : Retrieval.Clients)
  | surroundings (isOpen : Bool) (refusal : StoreCall → Option Text)

/-- The deed is a run of sources that are no subscriptions, or a step of such a source. -/
def Deed.Unowned : Deed → Prop
  | .run _ options _ _ => Run.Unowned options
  | .step _ _ job _ _ => job.source.subscription = none
  | _ => False

/-- The deed is a call of the kinds that a run makes. -/
def Deed.IsCall : Deed → Prop
  | .mark _ _ => True
  | .upsert _ _ => True
  | _ => False

namespace Store

def after (s : Store) : Deed → Store
  | .add now url remark agent => (s.add now url remark agent).2
  | .update id c => (s.update id c).2
  | .delete id => (s.delete id).2
  | .mark id fetchedAt => (s.mark id fetchedAt).2
  | .upsert now drafts => (s.upsert now drafts).2
  | .run setting options files clients =>
    (Run.run setting options files (.start s clients)).state.store
  | .step setting options job phase clients =>
    (job.advance setting options phase (.start s clients)).2.store
  | .surroundings isOpen refusal => ⟨s.database, isOpen, refusal⟩

/-- The store after several deeds, one after the other. -/
def afterAll (s : Store) (deeds : List Deed) : Store := deeds.foldl after s

variable {s : Store}

@[simp] theorem afterAll_nil : s.afterAll [] = s := rfl

theorem afterAll_concat (deeds : List Deed) (d : Deed) :
    s.afterAll (deeds ++ [d]) = (s.afterAll deeds).after d := by
  simp [afterAll]

theorem Reachable.after (h : s.Reachable) (d : Deed) : (s.after d).Reachable := by
  cases d with
  | add now url remark agent => exact h.add now url remark agent
  | update id c => exact h.update id c
  | delete id => exact h.delete id
  | mark id fetchedAt => exact h.mark id fetchedAt
  | upsert now drafts => exact h.upsert now drafts
  | run setting options files clients => exact Run.run_reachable (s := .start s clients) h files
  | step setting options job phase clients =>
    exact (Run.reachable_callInvariant setting.now).advance (s := .start s clients) trivial h phase
  | surroundings isOpen refusal => exact h.surroundings isOpen refusal

theorem Reachable.afterAll (h : s.Reachable) (deeds : List Deed) :
    (s.afterAll deeds).Reachable := by
  induction deeds using List.reverseRecOn with
  | nil => exact h
  | append_singleton deeds d ih =>
    rw [afterAll_concat]
    exact ih.after d

/-! ## Runs as calls -/

theorem calls_callInvariant (s : Store) (now : Instant) :
    Run.CallInvariant now (fun _ => True) fun t =>
      ∃ calls : List Deed, (∀ d ∈ calls, d.IsCall) ∧ t = s.afterAll calls := by
  have hconcat : ∀ {calls : List Deed} {d : Deed}, (∀ d ∈ calls, d.IsCall) → d.IsCall →
      ∀ e ∈ calls ++ [d], e.IsCall := by
    intro calls d hcalls hd e he
    rcases List.mem_append.mp he with he | he
    · exact hcalls e he
    · rw [List.mem_singleton.mp he]
      exact hd
  constructor
  · rintro _ drafts _ ⟨calls, hcalls, rfl⟩
    exact ⟨calls ++ [Deed.upsert now drafts], hconcat hcalls trivial,
      (afterAll_concat calls (.upsert now drafts)).symm⟩
  · rintro _ id _ ⟨calls, hcalls, rfl⟩
    exact ⟨calls ++ [Deed.mark id (some now.timestamp)], hconcat hcalls trivial,
      (afterAll_concat calls (.mark id (some now.timestamp))).symm⟩

/-- **A run does what a series of calls does**, so that the times between its calls are times of a
history as well. -/
theorem after_run (s : Store) (setting : Run.Setting) (options : Options.FetchOptions)
    (files : Files) (clients : Retrieval.Clients) :
    ∃ calls : List Deed, (∀ d ∈ calls, d.IsCall) ∧
      s.after (.run setting options files clients) = s.afterAll calls :=
  (s.calls_callInvariant setting.now).run (s := .start s clients) trivial (.inr fun _ => trivial)
    ⟨[], List.forall_mem_nil _, rfl⟩ files

/-! ## What a deed does to the tables -/

theorem leadsTo_callInvariant (db : Database) (now : Instant) :
    Run.CallInvariant now (fun _ => True) fun t => LeadsTo db t.database :=
  ⟨fun drafts _ h => h.trans (leadsTo_upsert now drafts), fun id _ h => h.trans (leadsTo_mark id _)⟩

theorem leadsTo_after (d : Deed) : LeadsTo s.database (s.after d).database := by
  cases d with
  | add now url remark agent => exact leadsTo_add now url remark agent
  | update id c => exact leadsTo_update id c
  | delete id => exact leadsTo_delete id
  | mark id fetchedAt => exact leadsTo_mark id fetchedAt
  | upsert now drafts => exact leadsTo_upsert now drafts
  | run setting options files clients =>
    exact (leadsTo_callInvariant s.database setting.now).run (s := .start s clients) trivial
      (.inr fun _ => trivial) .refl files
  | step setting options job phase clients =>
    exact (leadsTo_callInvariant s.database setting.now).advance (s := .start s clients) trivial
      .refl phase
  | surroundings isOpen refusal => exact .refl

theorem leadsTo_afterAll (deeds : List Deed) :
    LeadsTo s.database (s.afterAll deeds).database := by
  induction deeds using List.reverseRecOn with
  | nil => exact .refl
  | append_singleton deeds d ih =>
    rw [afterAll_concat]
    exact ih.trans (leadsTo_after d)

def ids (s : Store) : List Int := s.database.subscriptions.map Subscription.id

theorem ids_upsert (now : Instant) (drafts : List Draft) : (s.upsert now drafts).2.ids = s.ids := by
  rcases s.upsert_changes now drafts with h | ⟨rows, -, -, h⟩
  · rw [h]
  · rw [h, ids, putAll_subscriptions]
    rfl

theorem ids_mark (id : Int) (fetchedAt : Option Timestamp) :
    (s.mark id fetchedAt).2.ids = s.ids := by
  rcases s.mark_changes id fetchedAt with h | ⟨at?, h⟩
  · rw [h]
  · rw [h, ids, setFetched, List.map_map]
    refine List.map_congr_left fun t _ => ?_
    simp only [Function.comp]
    split <;> rfl

theorem ids_callInvariant (now : Instant) (l : List Int) :
    Run.CallInvariant now (fun _ => True) fun t => t.ids = l :=
  ⟨fun drafts _ h => (ids_upsert now drafts).trans h, fun id _ h => (ids_mark id _).trans h⟩

theorem configs_subset_or_ids (d : Deed) :
    (s.after d).database.configs ⊆ s.database.configs ∨ (s.after d).ids = s.ids := by
  cases d with
  | add now url remark agent =>
    left
    rw [after, add_configs]
    exact List.Subset.refl _
  | update id c =>
    left
    rw [after, update_configs]
    exact List.Subset.refl _
  | delete id => exact .inl (delete_configs id).subset
  | mark id fetchedAt => exact .inr (ids_mark id fetchedAt)
  | upsert now drafts => exact .inr (ids_upsert now drafts)
  | run setting options files clients =>
    exact .inr ((ids_callInvariant setting.now s.ids).run (s := .start s clients) trivial
      (.inr fun _ => trivial) rfl files)
  | step setting options job phase clients =>
    exact .inr ((ids_callInvariant setting.now s.ids).advance (s := .start s clients) trivial rfl
      phase)
  | surroundings isOpen refusal => exact .inr rfl

end Store

/-! ## Histories -/

/-- The tables after deeds that start from the empty database. -/
def tablesAfter (deeds : List Deed) : Database :=
  ((Store.ofDatabase .empty).afterAll deeds).database

/-- What is new in the tables `next`, which follow directly on `now`, is new in comparison with the
tables of any earlier time: its number is beyond all that were there, and nothing was or is owned
under the number of a new subscription. -/
structure Unprecedented (earlier now next : Database) : Prop where
  subscriptions : ∀ s ∈ next.subscriptions,
    (∃ e ∈ now.subscriptions, e.id = s.id ∧ e.createdAt = s.createdAt) ∨
      ∀ e ∈ earlier.subscriptions, e.id < s.id
  configs : ∀ c ∈ next.configs,
    (∃ e ∈ now.configs, e.id = c.id ∧ e.link = c.link ∧ e.addedAt = c.addedAt) ∨
      ∀ e ∈ earlier.configs, e.id < c.id
  unowned : ∀ s ∈ next.subscriptions, (∀ e ∈ now.subscriptions, e.id ≠ s.id) →
    ∀ c, c ∈ earlier.configs ∨ c ∈ next.configs → c.owner ≠ some s.id

theorem tablesAfter_append (deeds more : List Deed) :
    tablesAfter (deeds ++ more) =
      (((Store.ofDatabase .empty).afterAll deeds).afterAll more).database := by
  simp [tablesAfter, Store.afterAll]

theorem sound_tablesAfter (deeds : List Deed) : (tablesAfter deeds).Sound :=
  sound_empty.leadsTo (Store.leadsTo_afterAll (s := .ofDatabase .empty) deeds)

theorem tablesAfter_take_grows (deeds : List Deed) (n : Nat) :
    (tablesAfter (deeds.take n)).Grows (tablesAfter deeds) := by
  conv => rhs; rw [← List.take_append_drop n deeds, tablesAfter_append]
  exact (Store.leadsTo_afterAll (deeds.drop n)).grows

theorem owner_ne_of_new {s : Store} {earlier : Database} {d : Deed} (hearlier : earlier.Sound)
    (hnow : s.database.Sound) (hgrows : earlier.Grows s.database) {t : Subscription}
    (ht : t ∈ (s.after d).database.subscriptions)
    (hnew : ∀ e ∈ s.database.subscriptions, e.id ≠ t.id) {c : Config}
    (hc : c ∈ earlier.configs ∨ c ∈ (s.after d).database.configs) : c.owner ≠ some t.id := by
  intro howner
  have hbeyond : s.database.lastSubscription < t.id := by
    rcases (Store.leadsTo_after d).grows.subscriptions t ht with ⟨e, he, hid, -⟩ | hbeyond
    · exact absurd hid (hnew e he)
    · exact hbeyond
  have hfresh : t.id ∉ s.ids := by
    intro hmem
    obtain ⟨e, he, hid⟩ := List.mem_map.mp hmem
    exact hnew e he hid
  rcases hc with hc | hc
  · obtain ⟨e, he, hid⟩ := hearlier.owners c hc _ howner
    have hbound := hearlier.subscriptionBound e he
    have hlast := hgrows.lastSubscription
    omega
  · rcases s.configs_subset_or_ids d with hsubset | hids
    · obtain ⟨e, he, hid⟩ := hnow.owners c (hsubset hc) _ howner
      exact hnew e he hid
    · exact hfresh (hids ▸ List.mem_map_of_mem ht)

/-- **The tables are sound at all times, and no number is used twice.** -/
theorem tablesAfter_sound (deeds : List Deed) (d : Deed) :
    (tablesAfter deeds).Sound ∧
      ∀ n, Unprecedented (tablesAfter (deeds.take n)) (tablesAfter deeds)
        (tablesAfter (deeds ++ [d])) := by
  have hnow := sound_tablesAfter deeds
  refine ⟨hnow, fun n => ?_⟩
  have hearlier := sound_tablesAfter (deeds.take n)
  have hgrows := tablesAfter_take_grows deeds n
  have hnext : tablesAfter (deeds ++ [d]) =
      (((Store.ofDatabase .empty).afterAll deeds).after d).database := tablesAfter_append deeds [d]
  rw [hnext]
  have hstep := (Store.leadsTo_after (s := (Store.ofDatabase .empty).afterAll deeds) d).grows
  refine ⟨fun s hs => ?_, fun c hc => ?_, fun s hs hnew c hc =>
    owner_ne_of_new hearlier hnow hgrows hs hnew hc⟩
  · refine (hstep.subscriptions s hs).imp_right fun hbeyond e he => ?_
    have hbound := hearlier.subscriptionBound e he
    exact Int.lt_of_le_of_lt (Int.le_trans hbound hgrows.lastSubscription) hbeyond
  · refine (hstep.configs c hc).imp_right fun hbeyond e he => ?_
    have hbound := hearlier.configBound e he
    exact Int.lt_of_le_of_lt (Int.le_trans hbound hgrows.lastConfig) hbeyond

end LinkHarvest
