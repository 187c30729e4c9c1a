import LinkHarvest.Proofs.Store.Changes

/-!
# What the tables always hold

Six conditions depend on each other and survive every change to the tables (`Sound.leadsTo`): links
and URLs are distinct, owners exist, stored URLs pass their check, no optional text is empty, and
rows are numbered upwards to the counter of their table. Counters only grow, and a row that was not
there before is numbered beyond the counter that its table had (`LeadsTo.grows`), so that no number
is ever used twice.
-/

namespace LinkHarvest.Database

variable {db db' : Database}

/-- What the tables always hold. -/
structure Sound (db : Database) : Prop where
  links : (db.configs.map Config.link).Nodup
  urls : (db.subscriptions.map Subscription.url).Nodup
  owners : ∀ c ∈ db.configs, ∀ id, c.owner = some id → ∃ s ∈ db.subscriptions, s.id = id
  checked : ∀ s ∈ db.subscriptions, Retrieval.checkUrl s.url = .ok s.url
  texts : ∀ s ∈ db.subscriptions, s.remark ≠ some [] ∧ s.agent ≠ some []
  subscriptionNumbers : (db.subscriptions.map Subscription.id).Pairwise (· < ·)
  configNumbers : (db.configs.map Config.id).Pairwise (· < ·)
  subscriptionBound : ∀ s ∈ db.subscriptions, s.id ≤ db.lastSubscription
  configBound : ∀ c ∈ db.configs, c.id ≤ db.lastConfig

theorem sound_empty : empty.Sound :=
  ⟨List.nodup_nil, List.nodup_nil, by simp [empty], by simp [empty], by simp [empty],
    List.Pairwise.nil, List.Pairwise.nil, by simp [empty], by simp [empty]⟩

theorem pairwise_lt_concat {l : List Int} {n : Int} (h : l.Pairwise (· < ·))
    (hn : ∀ m ∈ l, m < n) : (l ++ [n]).Pairwise (· < ·) := by
  rw [List.pairwise_append]
  refine ⟨h, List.pairwise_singleton _ _, fun m hm k hk => ?_⟩
  rw [List.mem_singleton.mp hk]
  exact hn m hm

theorem knows_eq_true {owner : Option Int} :
    db.knows owner = true ↔ ∀ id, owner = some id → ∃ s ∈ db.subscriptions, s.id = id := by
  cases owner with
  | none => simp [knows]
  | some id => simp [knows, subscription?]

theorem mem_put {v : ConfigValues} {c : Config} (h : c ∈ (db.put v).configs) :
    (∃ e ∈ db.configs, c = e ∨ c = refreshed e v) ∨ c = created (db.lastConfig + 1) v := by
  unfold put at h
  split at h
  · obtain ⟨e, he, rfl⟩ := List.mem_map.mp h
    refine .inl ⟨e, he, ?_⟩
    split
    · exact .inr rfl
    · exact .inl rfl
  · rcases List.mem_append.mp h with h | h
    · exact .inl ⟨c, h, .inl rfl⟩
    · exact .inr (List.mem_singleton.mp h)

namespace Sound

theorem subscriptions_nodup (h : db.Sound) : (db.subscriptions.map Subscription.id).Nodup :=
  h.subscriptionNumbers.imp Int.ne_of_lt

theorem eq_of_id (h : db.Sound) {s t : Subscription} (hs : s ∈ db.subscriptions)
    (ht : t ∈ db.subscriptions) (heq : s.id = t.id) : s = t :=
  List.inj_on_of_nodup_map h.subscriptions_nodup hs ht heq

/-! ## Changes of subscriptions -/

theorem inserted (h : db.Sound) {url : Text} {remark agent : Option Text} (now : Instant)
    (hchecked : Retrieval.checkUrl url = .ok url) (hnew : ∀ s ∈ db.subscriptions, s.url ≠ url)
    (hremark : remark ≠ some []) (hagent : agent ≠ some []) :
    (db.inserted url remark agent now).Sound := by
  refine ⟨h.links, ?_, ?_, ?_, ?_, ?_, h.configNumbers, ?_, h.configBound⟩
  · unfold Database.inserted
    rw [List.map_append, List.nodup_append]
    refine ⟨h.urls, List.nodup_singleton _, fun u hu v hv => ?_⟩
    obtain ⟨s, hs, rfl⟩ := List.mem_map.mp hu
    rw [List.mem_singleton.mp hv]
    exact hnew s hs
  · intro c hc id hid
    obtain ⟨s, hs, heq⟩ := h.owners c hc id hid
    exact ⟨s, List.mem_append_left _ hs, heq⟩
  · intro s hs
    rcases List.mem_append.mp hs with hs | hs
    · exact h.checked s hs
    · rw [List.mem_singleton.mp hs]
      exact hchecked
  · intro s hs
    rcases List.mem_append.mp hs with hs | hs
    · exact h.texts s hs
    · rw [List.mem_singleton.mp hs]
      exact ⟨hremark, hagent⟩
  · unfold Database.inserted
    rw [List.map_append]
    refine pairwise_lt_concat h.subscriptionNumbers fun m hm => ?_
    obtain ⟨s, hs, rfl⟩ := List.mem_map.mp hm
    exact Int.lt_add_one_of_le (h.subscriptionBound s hs)
  · intro s hs
    unfold Database.inserted
    rcases List.mem_append.mp hs with hs | hs
    · have hbound := h.subscriptionBound s hs
      dsimp only
      omega
    · cases List.mem_singleton.mp hs
      exact Int.le_refl _

theorem mapped (h : db.Sound) {f : Subscription → Subscription} (hid : ∀ s, (f s).id = s.id)
    (hurls : (db.subscriptions.map fun s => (f s).url).Nodup)
    (hchecked : ∀ s ∈ db.subscriptions, Retrieval.checkUrl (f s).url = .ok (f s).url)
    (htexts : ∀ s ∈ db.subscriptions, (f s).remark ≠ some [] ∧ (f s).agent ≠ some []) :
    Sound { db with subscriptions := db.subscriptions.map f } := by
  have hids : (db.subscriptions.map f).map Subscription.id =
      db.subscriptions.map Subscription.id := by
    rw [List.map_map]
    exact List.map_congr_left fun s _ => hid s
  refine ⟨h.links, ?_, ?_, ?_, ?_, ?_, h.configNumbers, ?_, h.configBound⟩
  · rw [List.map_map]
    exact hurls
  · intro c hc id hid'
    obtain ⟨s, hs, heq⟩ := h.owners c hc id hid'
    exact ⟨f s, List.mem_map_of_mem hs, (hid s).trans heq⟩
  · exact List.forall_mem_map.mpr hchecked
  · exact List.forall_mem_map.mpr htexts
  · rw [hids]
    exact h.subscriptionNumbers
  · refine List.forall_mem_map.mpr fun s hs => ?_
    rw [hid s]
    exact h.subscriptionBound s hs

theorem amended_urls (h : db.Sound) {id : Int} {c : Changes}
    (hnew : ∀ url, c.url = some url → ∀ s ∈ db.subscriptions, s.url = url → s.id = id) :
    (db.subscriptions.map fun s => (if s.id = id then changed s c else s).url).Nodup := by
  have hclash : ∀ s ∈ db.subscriptions, ∀ t ∈ db.subscriptions, s.id = id → t.id ≠ id →
      (changed s c).url = t.url → s = t := by
    intro s hs t ht hsid htid heq
    cases hurl : c.url with
    | none =>
      have heq : s.url = t.url := by simpa [changed_eq, hurl] using heq
      exact List.inj_on_of_nodup_map h.urls hs ht heq
    | some url =>
      have heq : url = t.url := by simpa [changed_eq, hurl] using heq
      exact absurd (hnew url hurl t ht heq.symm) htid
  refine List.Nodup.map_on (fun s hs t ht heq => ?_) (List.Nodup.of_map _ h.subscriptions_nodup)
  by_cases hsid : s.id = id <;> by_cases htid : t.id = id
  · exact h.eq_of_id hs ht (hsid.trans htid.symm)
  · rw [if_pos hsid, if_neg htid] at heq
    exact hclash s hs t ht hsid htid heq
  · rw [if_neg hsid, if_pos htid] at heq
    exact (hclash t ht s hs htid hsid heq.symm).symm
  · rw [if_neg hsid, if_neg htid] at heq
    exact List.inj_on_of_nodup_map h.urls hs ht heq

theorem amended (h : db.Sound) {id : Int} {c : Changes}
    (hchecked : ∀ url, c.url = some url → Retrieval.checkUrl url = .ok url)
    (hnew : ∀ url, c.url = some url → ∀ s ∈ db.subscriptions, s.url = url → s.id = id) :
    (db.amended id c).Sound := by
  refine h.mapped (fun s => ?_) (h.amended_urls hnew) (fun s hs => ?_) (fun s hs => ?_)
  · split <;> simp
  · split
    · cases hurl : c.url with
      | none => simpa [changed_eq, hurl] using h.checked s hs
      | some url => simpa [changed_eq, hurl] using hchecked url hurl
    · exact h.checked s hs
  · obtain ⟨hremark, hagent⟩ := h.texts s hs
    split
    · constructor
      · cases hc : c.remark with
        | none => simpa [changed_eq, hc] using hremark
        | some t => simpa [changed_eq, hc] using clearing_ne t
      · cases hc : c.agent with
        | none => simpa [changed_eq, hc] using hagent
        | some t => simpa [changed_eq, hc] using clearing_ne t
    · exact ⟨hremark, hagent⟩

theorem setFetched (h : db.Sound) (id : Int) (at? : Option Instant) :
    (db.setFetched id at?).Sound := by
  have hkeep : ∀ s : Subscription,
      (if s.id = id then { s with lastFetchedAt := at? } else s).url = s.url := by
    intro s
    split <;> rfl
  refine h.mapped (fun s => ?_) ?_ (fun s hs => ?_) (fun s hs => ?_)
  · split <;> rfl
  · simp only [hkeep]
    exact h.urls
  · rw [hkeep]
    exact h.checked s hs
  · split <;> exact h.texts s hs

theorem delete (h : db.Sound) (id : Int) : (db.delete id).Sound := by
  have hsubs : (db.delete id).subscriptions.Sublist db.subscriptions := List.filter_sublist
  have hconfigs : (db.delete id).configs.Sublist db.configs := List.filter_sublist
  refine ⟨h.links.sublist (hconfigs.map _), h.urls.sublist (hsubs.map _), ?_,
    fun s hs => h.checked s (hsubs.subset hs), fun s hs => h.texts s (hsubs.subset hs),
    h.subscriptionNumbers.sublist (hsubs.map _), h.configNumbers.sublist (hconfigs.map _),
    fun s hs => h.subscriptionBound s (hsubs.subset hs),
    fun c hc => h.configBound c (hconfigs.subset hc)⟩
  intro c hc owner howner
  obtain ⟨hc, hkept⟩ := List.mem_filter.mp hc
  obtain ⟨s, hs, rfl⟩ := h.owners c hc owner howner
  refine ⟨s, List.mem_filter.mpr ⟨hs, ?_⟩, rfl⟩
  simpa [howner] using hkept

/-! ## Changes of configs -/

theorem put_owners (h : db.Sound) {v : ConfigValues} (howner : db.knows v.owner = true) :
    ∀ c ∈ (db.put v).configs, db.knows c.owner = true := by
  have hold : ∀ e ∈ db.configs, db.knows e.owner = true :=
    fun e he => knows_eq_true.mpr (h.owners e he)
  intro c hc
  rcases mem_put hc with ⟨e, he, rfl | rfl⟩ | rfl
  · exact hold _ he
  · unfold refreshed
    cases hv : v.owner with
    | none => exact hold e he
    | some id =>
      rw [hv] at howner
      exact howner
  · exact howner

theorem put_numbers (h : db.Sound) (v : ConfigValues) :
    ((db.put v).configs.map Config.id).Pairwise (· < ·) := by
  unfold Database.put
  dsimp only
  split
  · have hids : (db.configs.map fun c => if c.link = v.link then refreshed c v else c).map
        Config.id = db.configs.map Config.id := by
      rw [List.map_map]
      refine List.map_congr_left fun c _ => ?_
      simp only [Function.comp]
      split <;> rfl
    rw [hids]
    exact h.configNumbers
  · rw [List.map_append]
    refine pairwise_lt_concat h.configNumbers fun m hm => ?_
    obtain ⟨c, hc, rfl⟩ := List.mem_map.mp hm
    exact Int.lt_add_one_of_le (h.configBound c hc)

theorem put (h : db.Sound) {v : ConfigValues} (howner : db.knows v.owner = true) :
    (db.put v).Sound := by
  refine ⟨LinksDistinct.put h.links v, h.urls, ?_, h.checked, h.texts, h.subscriptionNumbers,
    h.put_numbers v, h.subscriptionBound, ?_⟩
  · intro c hc
    exact knows_eq_true.mp (h.put_owners howner c hc)
  · intro c hc
    rw [put_lastConfig]
    rcases mem_put hc with ⟨e, he, rfl | rfl⟩ | rfl
    · exact Int.le_add_one (h.configBound _ he)
    · exact Int.le_add_one (h.configBound e he)
    · exact Int.le_refl _

/-! ## All changes -/

theorem change (h : db.Sound) (hc : Change db db') : db'.Sound := by
  cases hc with
  | inserted now hchecked hnew hremark hagent => exact h.inserted now hchecked hnew hremark hagent
  | amended hchecked hnew => exact h.amended hchecked hnew
  | deleted id => exact h.delete id
  | fetched id at? => exact h.setFetched id at?
  | put howner => exact h.put howner

/-- **What the tables hold, they hold after every change.** -/
theorem leadsTo (h : db.Sound) (hc : LeadsTo db db') : db'.Sound := by
  induction hc with
  | refl => exact h
  | tail _ hstep ih => exact ih.change hstep

end Sound

/-! ## Numbers -/

/-- Counters grow, and a row that is new has a number beyond the counter that its table had. -/
structure Grows (db db' : Database) : Prop where
  lastSubscription : db.lastSubscription ≤ db'.lastSubscription
  lastConfig : db.lastConfig ≤ db'.lastConfig
  subscriptions : ∀ s ∈ db'.subscriptions,
    (∃ e ∈ db.subscriptions, e.id = s.id ∧ e.createdAt = s.createdAt) ∨ db.lastSubscription < s.id
  configs : ∀ c ∈ db'.configs,
    (∃ e ∈ db.configs, e.id = c.id ∧ e.link = c.link ∧ e.addedAt = c.addedAt) ∨
      db.lastConfig < c.id

namespace Grows

theorem refl (db : Database) : db.Grows db :=
  ⟨Int.le_refl _, Int.le_refl _, fun s hs => .inl ⟨s, hs, rfl, rfl⟩,
    fun c hc => .inl ⟨c, hc, rfl, rfl, rfl⟩⟩

theorem trans {db'' : Database} (h : db.Grows db') (h' : db'.Grows db'') : db.Grows db'' := by
  refine ⟨Int.le_trans h.lastSubscription h'.lastSubscription,
    Int.le_trans h.lastConfig h'.lastConfig, fun s hs => ?_, fun c hc => ?_⟩
  · rcases h'.subscriptions s hs with ⟨e, he, hid, hcreated⟩ | hnew
    · rw [← hid, ← hcreated]
      exact h.subscriptions e he
    · exact .inr (Int.lt_of_le_of_lt h.lastSubscription hnew)
  · rcases h'.configs c hc with ⟨e, he, hid, hlink, hadded⟩ | hnew
    · rw [← hid, ← hlink, ← hadded]
      exact h.configs e he
    · exact .inr (Int.lt_of_le_of_lt h.lastConfig hnew)

theorem mapped (db : Database) {f : Subscription → Subscription}
    (hf : ∀ s, (f s).id = s.id ∧ (f s).createdAt = s.createdAt) :
    db.Grows { db with subscriptions := db.subscriptions.map f } := by
  refine ⟨Int.le_refl _, Int.le_refl _, ?_, fun c hc => .inl ⟨c, hc, rfl, rfl, rfl⟩⟩
  refine List.forall_mem_map.mpr fun s hs => .inl ⟨s, hs, ?_, ?_⟩
  · exact (hf s).1.symm
  · exact (hf s).2.symm

theorem inserted (db : Database) (url : Text) (remark agent : Option Text) (now : Instant) :
    db.Grows (db.inserted url remark agent now) := by
  refine ⟨Int.le_add_one (Int.le_refl _), Int.le_refl _, fun s hs => ?_,
    fun c hc => .inl ⟨c, hc, rfl, rfl, rfl⟩⟩
  rcases List.mem_append.mp hs with hs | hs
  · exact .inl ⟨s, hs, rfl, rfl⟩
  · rw [List.mem_singleton.mp hs]
    exact .inr (Int.lt_succ _)

theorem delete (db : Database) (id : Int) : db.Grows (db.delete id) :=
  ⟨Int.le_refl _, Int.le_refl _, fun s hs => .inl ⟨s, List.mem_of_mem_filter hs, rfl, rfl⟩,
    fun c hc => .inl ⟨c, List.mem_of_mem_filter hc, rfl, rfl, rfl⟩⟩

theorem put (db : Database) (v : ConfigValues) : db.Grows (db.put v) := by
  refine ⟨Int.le_refl _, Int.le_add_one (Int.le_refl _), fun s hs => .inl ⟨s, hs, rfl, rfl⟩,
    fun c hc => ?_⟩
  rcases mem_put hc with ⟨e, he, rfl | rfl⟩ | rfl
  · exact .inl ⟨_, he, rfl, rfl, rfl⟩
  · exact .inl ⟨e, he, rfl, rfl, rfl⟩
  · exact .inr (Int.lt_succ _)

end Grows

theorem Change.grows (h : Change db db') : db.Grows db' := by
  cases h with
  | inserted now hchecked hnew hremark hagent => exact .inserted ..
  | amended hchecked hnew =>
    refine .mapped db fun s => ?_
    split <;> simp
  | deleted id => exact .delete db id
  | fetched id at? =>
    refine .mapped db fun s => ?_
    split <;> exact ⟨rfl, rfl⟩
  | put howner => exact .put db _

/-- **Rows that are new are numbered beyond all that came before.** -/
theorem LeadsTo.grows (h : LeadsTo db db') : db.Grows db' := by
  induction h with
  | refl => exact .refl db
  | tail _ hstep ih => exact ih.trans hstep.grows

end LinkHarvest.Database
