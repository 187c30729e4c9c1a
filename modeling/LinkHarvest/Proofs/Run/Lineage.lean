import LinkHarvest.Proofs.Run.Deeds
import LinkHarvest.Proofs.Run.FanOut
import LinkHarvest.Proofs.Store.Orders

/-!
# The lineage of a row

A link has at most one row. From one deed to the next the row stays, and keeps what is known of the
link, or the subscription that owns it is deleted (`config?_after`). So as long as a link has a row,
its number and the time it was added are those of the beginning, and what was once known of it stays
known; and a run that fetches from no subscription leaves every owner in place (`row_lineage`).
-/

namespace LinkHarvest

open Database

/-- What a row keeps until a later time: its number, its link and the time it was added, and a
value in every column that has one. -/
structure Continues (c c' : Config) : Prop where
  id : c'.id = c.id
  link : c'.link = c.link
  addedAt : c'.addedAt = c.addedAt
  owner : c.owner ≠ none → c'.owner ≠ none
  protocol : c.protocol ≠ none → c'.protocol ≠ none
  remark : c.remark ≠ none → c'.remark ≠ none

theorem Continues.refl (c : Config) : Continues c c :=
  ⟨rfl, rfl, rfl, fun h => h, fun h => h, fun h => h⟩

theorem Continues.trans {a b c : Config} (h : Continues a b) (h' : Continues b c) :
    Continues a c :=
  ⟨h'.id.trans h.id, h'.link.trans h.link, h'.addedAt.trans h.addedAt, h'.owner ∘ h.owner,
    h'.protocol ∘ h.protocol, h'.remark ∘ h.remark⟩

namespace Database

variable {db : Database} {link : Text} {c : Config} {vs : List ConfigValues}

theorem config?_congr {db' : Database} (h : db'.configs = db.configs) :
    db'.config? link = db.config? link := by
  unfold config?
  rw [h]

theorem config?_putAll (hc : db.config? link = some c) (vs : List ConfigValues) :
    (db.putAll vs).config? link = some (refreshedBy (vs.filter (·.link = link)) c) := by
  obtain ⟨id, -, hrows⟩ := db.rowsOf_putAll vs link
  rw [config?_eq] at hc
  have hne : db.rowsOf link ≠ [] := by
    intro hnil
    rw [hnil] at hc
    cases hc
  rw [config?_eq, hrows, seeds, if_neg hne, List.head?_map, hc]
  rfl

theorem orElse_ne_none {α : Type} {o o' : Option α} (h : o' ≠ none) :
    (o.orElse fun _ => o') ≠ none := by
  cases o with
  | none => exact h
  | some a => exact Option.some_ne_none a

theorem continues_refreshedBy (vs : List ConfigValues) (c : Config) :
    Continues c (refreshedBy vs c) := by
  rw [refreshedBy_eq]
  exact ⟨rfl, rfl, rfl, orElse_ne_none, orElse_ne_none, orElse_ne_none⟩

theorem owner_refreshedBy (h : ∀ v ∈ vs, v.owner = none) (c : Config) :
    (refreshedBy vs c).owner = c.owner := by
  rw [refreshedBy_eq, lastGiven_eq_none.mpr h]
  rfl

theorem config?_delete (h : db.LinksDistinct) (hc : db.config? link = some c) (id : Int) :
    (db.delete id).config? link = if c.owner = some id then none else some c := by
  have hrows : (db.delete id).rowsOf link =
      (db.rowsOf link).filter fun c => c.owner ≠ some id := by
    unfold rowsOf delete
    rw [List.filter_filter, List.filter_filter]
    simp only [Bool.and_comm]
  rw [config?_eq, hrows, rowsOf_of_config? h hc]
  by_cases howner : c.owner = some id
  · simp [howner]
  · simp [howner]

end Database

/-! ## From one deed to the next -/

/-- The row `c` of a link lives on in a store, with its owner if nobody else may own it. -/
def LivesOn (link : Text) (c : Config) (unowned : Prop) (t : Store) : Prop :=
  ∃ c', t.database.config? link = some c' ∧ Continues c c' ∧ (unowned → c'.owner = c.owner)

variable {s : Store} {link : Text} {c : Config} {unowned : Prop}

theorem LivesOn.of_configs {t : Store} (h : LivesOn link c unowned s)
    (hconfigs : t.database.configs = s.database.configs) : LivesOn link c unowned t := by
  obtain ⟨c', hrow, hcontinues, howner⟩ := h
  exact ⟨c', (config?_congr hconfigs).trans hrow, hcontinues, howner⟩

theorem LivesOn.upsert (h : LivesOn link c unowned s) (now : Instant)
    {drafts : List Draft} (howners : unowned → ∀ d ∈ drafts, d.owner = none) :
    LivesOn link c unowned (s.upsert now drafts).2 := by
  rcases s.upsert_changes now drafts with heq | ⟨rows, -, hdrafts, heq⟩
  · rw [heq]
    exact h
  · obtain ⟨c', hrow, hcontinues, howner⟩ := h
    rw [heq]
    refine ⟨_, config?_putAll hrow rows, hcontinues.trans (continues_refreshedBy _ _), fun hu => ?_⟩
    rw [owner_refreshedBy, howner hu]
    intro v hv
    obtain ⟨d, hd, hdv⟩ := hdrafts v (List.mem_of_mem_filter hv)
    exact hdv.symm.trans (howners hu d hd)

theorem livesOn_callInvariant (now : Instant) (link : Text) (c : Config)
    {owners : Option Int → Prop} (howners : unowned → ∀ owner, owners owner → owner = none) :
    Run.CallInvariant now owners fun t => LivesOn link c unowned t :=
  ⟨fun _ hdrafts h => .upsert h now fun hu d hd => howners hu _ (hdrafts d hd),
    fun id _ h => .of_configs h (Store.mark_configs id _)⟩

/-- **From one deed to the next a row lives on, or its owner is deleted.** -/
theorem config?_after (h : s.database.LinksDistinct) (hc : s.database.config? link = some c)
    (d : Deed) :
    LivesOn link c d.Unowned (s.after d) ∨
      (s.after d).database.config? link = none ∧ ∃ id, d = .delete id ∧ c.owner = some id := by
  have hself : ∀ unowned : Prop, LivesOn link c unowned s :=
    fun _ => ⟨c, hc, .refl c, fun _ => rfl⟩
  cases d with
  | add now url remark agent =>
    exact .inl (.of_configs (hself _) (Store.add_configs now url remark agent))
  | update id ch => exact .inl (.of_configs (hself _) (Store.update_configs id ch))
  | delete id =>
    rcases s.delete_changes id with heq | heq
    · rw [Store.after, heq]
      exact .inl (hself _)
    · rw [Store.after, heq]
      have hrow := config?_delete h hc id
      by_cases howner : c.owner = some id
      · rw [if_pos howner] at hrow
        exact .inr ⟨hrow, id, rfl, howner⟩
      · rw [if_neg howner] at hrow
        exact .inl ⟨c, hrow, .refl c, fun _ => rfl⟩
  | mark id fetchedAt => exact .inl (.of_configs (hself _) (Store.mark_configs id fetchedAt))
  | upsert now drafts => exact .inl (.upsert (hself _) now fun hu => hu.elim)
  | run setting options files clients =>
    left
    by_cases hu : Run.Unowned options
    · have hcalls : Run.CallInvariant setting.now (· = none) fun t =>
          LivesOn link c (Run.Unowned options) t :=
        livesOn_callInvariant setting.now link c fun _ _ ho => ho
      exact hcalls.run (s := .start s clients) rfl (.inl hu) (hself _) files
    · have hcalls : Run.CallInvariant setting.now (fun _ => True) fun t =>
          LivesOn link c (Run.Unowned options) t :=
        livesOn_callInvariant setting.now link c fun hu' => absurd hu' hu
      exact hcalls.run (s := .start s clients) trivial (.inr fun _ => trivial) (hself _) files
  | step setting options job phase clients =>
    left
    have howners : (Deed.step setting options job phase clients).Unowned →
        ∀ owner, owner = job.source.subscription → owner = none :=
      fun hu owner ho => ho.trans hu
    exact (livesOn_callInvariant setting.now link c howners).advance (s := .start s clients) rfl
      (hself _) phase
  | surroundings isOpen refusal => exact .inl (.of_configs (hself _) rfl)

/-! ## Along a history -/

theorem continues_of_present (h : s.Reachable) (deeds : List Deed) {n : Nat} {c c' : Config}
    (hpresent : ∀ k, n ≤ k →
      ((s.afterAll (deeds.take k)).database.config? link).isSome = true)
    (hc : (s.afterAll (deeds.take n)).database.config? link = some c)
    (hc' : (s.afterAll deeds).database.config? link = some c') : Continues c c' := by
  induction deeds using List.reverseRecOn generalizing c' with
  | nil =>
    rw [List.take_nil] at hc
    cases hc.symm.trans hc'
    exact .refl c
  | append_singleton deeds d ih =>
    by_cases hn : n ≤ deeds.length
    · have htake : ∀ k, k ≤ deeds.length → (deeds ++ [d]).take k = deeds.take k :=
        fun k hk => List.take_append_of_le_length hk
      -- The row was there just before the last deed.
      have hbefore := hpresent deeds.length hn
      rw [htake _ (Nat.le_refl _), List.take_length] at hbefore
      obtain ⟨e, he⟩ := Option.isSome_iff_exists.mp hbefore
      have hfirst : Continues c e := by
        refine ih (fun k hk => ?_) (htake n hn ▸ hc) he
        by_cases hk' : k ≤ deeds.length
        · exact htake k hk' ▸ hpresent k hk
        · rw [List.take_of_length_le (by omega), he]
          rfl
      rw [Store.afterAll_concat] at hc'
      rcases config?_after (h.afterAll deeds).linksDistinct he d with
        ⟨e', hrow, hcontinues, -⟩ | ⟨hnone, -⟩
      · cases hrow.symm.trans hc'
        exact hfirst.trans hcontinues
      · cases hnone.symm.trans hc'
    · have hall : (deeds ++ [d]).take n = deeds ++ [d] := by
        apply List.take_of_length_le
        rw [List.length_append, List.length_singleton]
        omega
      rw [hall] at hc
      cases hc.symm.trans hc'
      exact .refl c

/-- **The lineage of a row.** After any deeds, the next one leaves the row of a link in place,
unless it deletes the subscription that owns the link at that time; a run of sources that are no
subscriptions leaves its owner in place as well. And as long as the link has a row, this row keeps
its number, the time it was added, and a value in every column that had one. -/
theorem row_lineage (h : s.Reachable) (deeds : List Deed) (link : Text) :
    (∀ d c, (s.afterAll deeds).database.config? link = some c →
      (∃ c', ((s.afterAll deeds).after d).database.config? link = some c' ∧ Continues c c' ∧
        (d.Unowned → c'.owner = c.owner)) ∨
      (((s.afterAll deeds).after d).database.config? link = none ∧
        ∃ id, d = .delete id ∧ c.owner = some id)) ∧
    ∀ n c c',
      (∀ k, n ≤ k → ((s.afterAll (deeds.take k)).database.config? link).isSome = true) →
      (s.afterAll (deeds.take n)).database.config? link = some c →
      (s.afterAll deeds).database.config? link = some c' → Continues c c' := by
  constructor
  · intro d c hc
    exact config?_after (h.afterAll deeds).linksDistinct hc d
  · intro n c c' hpresent hc hc'
    exact continues_of_present h deeds hpresent hc hc'

/-! ## A row from its beginning to its end -/

/-- A link of which nothing is known but its owner, the first subscription. -/
def ownedDraft : Draft := ⟨some 1, some "trojan://pw@h:443#B".toList, none, none, none, none⟩

/-- A store with a subscription that owns a link. -/
def ownedLink : Store :=
  (((Store.ofDatabase .empty).add ⟨63839750400000000⟩ "http://a/" none none).2.upsert
    ⟨63839750400000000⟩ [ownedDraft]).2

theorem ownedLink_reachable : ownedLink.Reachable := .upsert (.add .new ..) ..

def visit : Deed :=
  .run (.serving [("http://b/", Run.pageOf "trojan://pw@h:443#B")])
    ⟨none, some "http://b/".toList, false, none, none, none, 3, none⟩ ⟨[], []⟩ []

/-- The run learns the protocol of the link and leaves its owner; the row goes with its owner. -/
theorem row_lineage_of_ownedLink :
    ∃ c c', ownedLink.database.config? "trojan://pw@h:443#B" = some c ∧
      (ownedLink.afterAll [visit]).database.config? "trojan://pw@h:443#B" = some c' ∧
      Continues c c' ∧ c.protocol = none ∧ c'.protocol = some "trojan".toList ∧
      c'.owner = some 1 ∧
      ((ownedLink.afterAll [visit]).after (.delete 1)).database.config?
        "trojan://pw@h:443#B" = none := by
  have hlineage := row_lineage ownedLink_reachable [visit] "trojan://pw@h:443#B"
  have hfirst : (ownedLink.database.config? "trojan://pw@h:443#B").map Config.protocol =
      some none := by decide +kernel
  have hlast : ((ownedLink.afterAll [visit]).database.config? "trojan://pw@h:443#B").map
      (fun c => (c.protocol, c.owner)) = some (some "trojan".toList, some 1) := by decide +kernel
  have hgone : (((ownedLink.afterAll [visit]).after (.delete 1)).database.config?
      "trojan://pw@h:443#B").isNone = true := by decide +kernel
  obtain ⟨c, hc, hprotocol⟩ := Option.map_eq_some_iff.mp hfirst
  obtain ⟨c', hc', hlearnt⟩ := Option.map_eq_some_iff.mp hlast
  obtain ⟨hprotocol', howner⟩ := Prod.mk.injEq .. ▸ hlearnt
  have hpresent : ∀ k, 0 ≤ k → ((ownedLink.afterAll ([visit].take k)).database.config?
      "trojan://pw@h:443#B").isSome = true := by
    intro k _
    cases k with
    | zero =>
      rw [List.take_zero, Store.afterAll_nil, hc]
      rfl
    | succ k =>
      rw [List.take_succ_cons, List.take_nil, hc']
      rfl
  refine ⟨c, c', hc, hc', hlineage.2 0 c c' hpresent hc hc', hprotocol, hprotocol', howner, ?_⟩
  exact Option.isNone_iff_eq_none.mp hgone

end LinkHarvest
