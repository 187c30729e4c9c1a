import LinkHarvest.Proofs.Store.Connection
import LinkHarvest.Proofs.Store.Listing

/-!
# What the keeping of subscriptions touches

A number stands for one row of the table (`RowAt`). An update replaces the columns that it names in
this row (`Updates`), a deletion takes the row away together with the configs that it owns
(`Deletes`), and an addition puts a row behind all others (`Adds`). Nothing else of the store
changes. A store that is open and that nothing keeps from answering makes each of these changes just
when the call makes sense, and `keeping_touches_named` puts this together.

An update is not undone or repeated by making it again: the row then holds the values already, and
the checks that the first call has passed are passed once more.
-/

namespace LinkHarvest

/-! ## Rows -/

/-- The row of a number, between the rows before it and the rows after it. -/
structure RowAt (rows : List Subscription) (id : Int) (before : List Subscription)
    (row : Subscription) (after : List Subscription) : Prop where
  split : rows = before ++ row :: after
  number : row.id = id
  others : ∀ r ∈ before ++ after, r.id ≠ id

namespace RowAt

variable {rows before after : List Subscription} {row t : Subscription} {id : Int}

theorem mem (h : RowAt rows id before row after) : row ∈ rows := by
  rw [h.split]
  exact List.mem_append_right _ List.mem_cons_self

theorem eq_of_mem (h : RowAt rows id before row after) (ht : t ∈ rows) (hid : t.id = id) :
    t = row := by
  rw [h.split, List.mem_append, List.mem_cons] at ht
  rcases ht with ht | ht | ht
  · exact absurd hid (h.others t (List.mem_append_left _ ht))
  · exact ht
  · exact absurd hid (h.others t (List.mem_append_right _ ht))

theorem map (h : RowAt rows id before row after) (f : Subscription → Subscription) :
    (rows.map fun r => if r.id = id then f r else r) = before ++ f row :: after := by
  have hkeep : ∀ l : List Subscription, (∀ r ∈ l, r.id ≠ id) →
      (l.map fun r => if r.id = id then f r else r) = l := by
    intro l hl
    conv_rhs => rw [← List.map_id l]
    exact List.map_congr_left fun r hr => if_neg (hl r hr)
  obtain ⟨hbefore, hafter⟩ := List.forall_mem_append.mp h.others
  rw [h.split, List.map_append, List.map_cons, hkeep before hbefore, hkeep after hafter,
    if_pos h.number]

theorem filter (h : RowAt rows id before row after) :
    (rows.filter fun r => r.id ≠ id) = before ++ after := by
  obtain ⟨hbefore, hafter⟩ := List.forall_mem_append.mp h.others
  rw [h.split, List.filter_append, List.filter_cons_of_neg (by simp [h.number]),
    List.filter_eq_self.mpr (by simpa using hbefore),
    List.filter_eq_self.mpr (by simpa using hafter)]

end RowAt

theorem Database.Keyed.exists_rowAt {db : Database} (h : db.Keyed) {id : Int}
    (hknown : ∃ r ∈ db.subscriptions, r.id = id) :
    ∃ before row after, RowAt db.subscriptions id before row after := by
  obtain ⟨row, hrow, rfl⟩ := hknown
  obtain ⟨before, after, hsplit⟩ := List.append_of_mem hrow
  have hnodup : (db.subscriptions.map Subscription.id).Nodup := h.ascending.imp Int.ne_of_lt
  rw [hsplit, List.map_append, List.map_cons, List.nodup_middle, List.nodup_cons,
    ← List.map_append] at hnodup
  refine ⟨before, row, after, hsplit, rfl, fun r hr hid => hnodup.1 ?_⟩
  rw [← hid]
  exact List.mem_map_of_mem hr

namespace Store

open Database Fallible

variable {s s' : Store} {id : Int} {c : Changes} {t : Subscription}

/-! ## Updates -/

/-- A row with the named columns replaced: the URL by the trimmed one, a text by null where it is
empty. -/
structure Replaces (c : Changes) (old t : Subscription) : Prop where
  url : t.url = (c.url.map Text.trim).getD old.url
  remark : t.remark = (c.remark.map clearing).getD old.remark
  agent : t.agent = (c.agent.map clearing).getD old.agent
  enabled : t.enabled = c.enabled.getD old.enabled
  id : t.id = old.id
  createdAt : t.createdAt = old.createdAt
  lastFetchedAt : t.lastFetchedAt = old.lastFetchedAt

/-- One row has its named columns replaced, in its place. Everything else is as it was. -/
def Updates (s : Store) (id : Int) (c : Changes) (t : Subscription) (s' : Store) : Prop :=
  ∃ before old after, RowAt s.database.subscriptions id before old after ∧ Replaces c old t ∧
    s' = { s with database := { s.database with subscriptions := before ++ t :: after } }

/-- An update makes sense: it names something, its URL is absolute and not that of another
subscription, and there is a row to change. -/
structure Updatable (s : Store) (id : Int) (c : Changes) : Prop where
  named : c.isEmpty = false
  known : ∃ r ∈ s.database.subscriptions, r.id = id
  absolute : ∀ url, c.url = some url → Retrieval.IsAbsolute (Text.trim url)
  free : ∀ url, c.url = some url → ∀ r ∈ s.database.subscriptions, r.url = Text.trim url → r.id = id

theorem replaces_changed (c : Changes) (old : Subscription) :
    Replaces c old (changed old { c with url := c.url.map Text.trim }) := by
  rw [changed_eq]
  exact ⟨rfl, rfl, rfl, rfl, rfl, rfl, rfl⟩

theorem Replaces.again {old t' : Subscription} (h : Replaces c old t) (h' : Replaces c t t') :
    t' = t := by
  have hgetD : ∀ {α : Type} (o : Option α) (a b : α), b = o.getD a → o.getD b = b := by
    intro α o a b hb
    cases o with
    | none => rfl
    | some _ => exact hb.symm
  obtain ⟨hurl, hremark, hagent, henabled, hid, hcreated, hfetched⟩ := h'
  rw [hgetD _ _ _ h.url] at hurl
  rw [hgetD _ _ _ h.remark] at hremark
  rw [hgetD _ _ _ h.agent] at hagent
  rw [hgetD _ _ _ h.enabled] at henabled
  cases t
  cases t'
  simp_all

theorem update_of_updatable (h : s.Reachable) (hopen : s.isOpen = true)
    (hserving : ∀ call, s.refusal call = none) (hc : s.Updatable id c) :
    ∃ t s', s.update id c = (.ok t, s') ∧ s.Updates id c t s' := by
  obtain ⟨before, old, after, hrow⟩ := h.keyed.exists_rowAt hc.known
  have hget : s.get id = .ok old := by
    rw [← hrow.number]
    exact get_of_mem h.keyed hopen (hserving .get) hrow.mem
  have hurl : checkedUrl c = .ok (c.url.map Text.trim) := checkedUrl_eq_ok.mpr ⟨hc.absolute, rfl⟩
  have hfree : ∀ url, c.url.map Text.trim = some url → ∀ r ∈ s.database.subscriptions,
      r.url = url → r.id = id := by
    intro url htrimmed
    obtain ⟨named, hnamed, rfl⟩ := Option.map_eq_some_iff.mp htrimmed
    exact hc.free named hnamed
  have hupdated : s.updatedFor id c =
      .ok (s.database.amended id { c with url := c.url.map Text.trim }) := by
    rw [updatedFor, checkRefusal, hserving .update, hurl, ok_bind, ok_bind,
      if_neg (by simp [hc.named]), hget, ok_bind]
    exact mapError_eq_ok.mpr (update_eq_ok.mpr ⟨hfree, rfl⟩)
  have hrows : (s.database.amended id { c with url := c.url.map Text.trim }).subscriptions =
      before ++ changed old { c with url := c.url.map Text.trim } :: after := hrow.map _
  have hupdate := s.update_eq id c
  rw [hupdated] at hupdate
  have hkeyed := (h.update id c).keyed
  rw [hupdate] at hkeyed
  have hmem : changed old { c with url := c.url.map Text.trim } ∈
      (s.database.amended id { c with url := c.url.map Text.trim }).subscriptions := by
    simp [hrows]
  have hread := get_of_mem hkeyed hopen (hserving .get) hmem
  rw [changed_id, hrow.number] at hread
  refine ⟨_, _, hupdate.trans (congrArg (Prod.mk · _) hread), before, old, after, hrow,
    replaces_changed c old, ?_⟩
  rw [← hrows]
  rfl

theorem updatable_of_update (hupdate : s.update id c = (.ok t, s')) : s.Updatable id c := by
  rcases s.update_cases id c with ⟨p, hfail⟩ | ⟨url, db, hurl, hnamed, ⟨found, hget⟩, hdb, -⟩
  · cases hfail.symm.trans hupdate
  obtain ⟨habsolute, rfl⟩ := checkedUrl_eq_ok.mp hurl
  obtain ⟨hfree, -⟩ := update_eq_ok.mp hdb
  obtain ⟨-, -, -, hfound⟩ := get_eq_ok.mp hget
  refine ⟨hnamed, ⟨found, List.mem_of_find?_eq_some hfound, ?_⟩, habsolute, ?_⟩
  · simpa using List.find?_some hfound
  · intro named hnamed
    exact hfree (Text.trim named) (by rw [hnamed]; rfl)

theorem updates_of_update (h : s.Reachable) (hopen : s.isOpen = true)
    (hserving : ∀ call, s.refusal call = none) (hupdate : s.update id c = (.ok t, s')) :
    s.Updates id c t s' := by
  obtain ⟨t', s'', hupdate', hupdates⟩ :=
    update_of_updatable h hopen hserving (updatable_of_update hupdate)
  cases hupdate.symm.trans hupdate'
  exact hupdates

theorem Updatable.after (hc : s.Updatable id c) (h : s.Updates id c t s') : s'.Updatable id c := by
  obtain ⟨before, old, after, hrow, hreplaces, rfl⟩ := h
  have hid : t.id = id := hreplaces.id.trans hrow.number
  refine ⟨hc.named, ⟨t, by simp, hid⟩, hc.absolute, ?_⟩
  intro url hurl r hr hsame
  rcases List.mem_append.mp hr with hr | hr
  · exact hc.free url hurl r (by simp [hrow.split, hr]) hsame
  · rcases List.mem_cons.mp hr with rfl | hr
    · exact hid
    · exact hc.free url hurl r (by simp [hrow.split, hr]) hsame

/-- **An update that is made again finds its work done.** -/
theorem update_again (h : s.Reachable) (hopen : s.isOpen = true)
    (hserving : ∀ call, s.refusal call = none) (hupdate : s.update id c = (.ok t, s')) :
    s'.update id c = (.ok t, s') := by
  have hupdates := updates_of_update h hopen hserving hupdate
  have hreachable : s'.Reachable := by
    have hleft := h.update id c
    rwa [hupdate] at hleft
  have hagain := (updatable_of_update hupdate).after hupdates
  obtain ⟨before, old, after, hrow, hreplaces, hs'⟩ := hupdates
  have hopen' : s'.isOpen = true := by rw [hs']; exact hopen
  have hserving' : ∀ call, s'.refusal call = none := by rw [hs']; exact hserving
  obtain ⟨t', s'', hupdate', before', old', after', hrow', hreplaces', hs''⟩ :=
    update_of_updatable hreachable hopen' hserving' hagain
  have ht : t ∈ s'.database.subscriptions := by simp [hs']
  obtain rfl : t = old' := hrow'.eq_of_mem ht (hreplaces.id.trans hrow.number)
  obtain rfl : t' = t := hreplaces.again hreplaces'
  rw [← hrow'.split] at hs''
  rw [hupdate', hs'']

/-! ## Additions -/

/-- A row behind all others, with a number that no row has had before, enabled and not fetched yet.
Everything else is as it was. -/
structure Adds (s : Store) (now : Instant) (url : Text) (remark agent : Option Text)
    (t : Subscription) (s' : Store) : Prop where
  row : t = ⟨s.database.lastSubscription + 1, Text.trim url, remark.bind clearing,
    agent.bind clearing, true, now, none⟩
  store : s' = { s with database := { s.database with
    subscriptions := s.database.subscriptions ++ [t], lastSubscription := t.id } }
  unused : ∀ r ∈ s.database.subscriptions, r.id ≠ t.id
  ownsNothing : ∀ e ∈ s'.database.configs, e.owner ≠ some t.id

/-- An addition makes sense: its URL is absolute and not stored yet, and the table has a number left
for a row. -/
structure Addable (s : Store) (url : Text) : Prop where
  absolute : Retrieval.IsAbsolute (Text.trim url)
  free : ∀ r ∈ s.database.subscriptions, r.url ≠ Text.trim url
  numberLeft : s.database.lastSubscription < greatestNumber

variable {now : Instant} {url : Text} {remark agent : Option Text}

theorem add_of_addable (h : s.Reachable) (hopen : s.isOpen = true)
    (hserving : ∀ call, s.refusal call = none) (hurl : s.Addable url) :
    ∃ t s', s.add now url remark agent = (.ok t, s') ∧ s.Adds now url remark agent t s' := by
  have hsound : s.database.Sound := sound_empty.leadsTo h.leadsTo
  have hchecked : Retrieval.checkUrl url = .ok (Text.trim url) :=
    Retrieval.checkUrl_eq_ok.mpr ⟨hurl.absolute, rfl⟩
  obtain ⟨db, hdb⟩ : ∃ db, db = s.database.inserted (Text.trim url) (remark.bind clearing)
      (agent.bind clearing) now := ⟨_, rfl⟩
  have hinsert : s.database.insert (Text.trim url) (remark.bind clearing) (agent.bind clearing)
      now = .ok db := insert_eq_ok.mpr ⟨hurl.numberLeft, hurl.free, hdb⟩
  have hadd : s.add now url remark agent =
      ({ s with database := db }.get db.lastSubscription, { s with database := db }) := by
    simp [add, checkRefusal, checkOpen, hserving, hopen, hchecked, hinsert]
  have hkeyed := (h.add now url remark agent).keyed
  rw [hadd] at hkeyed
  subst hdb
  have hmem : ⟨s.database.lastSubscription + 1, Text.trim url, remark.bind clearing,
      agent.bind clearing, true, now, none⟩ ∈ (s.database.inserted (Text.trim url)
        (remark.bind clearing) (agent.bind clearing) now).subscriptions := by
    simp [inserted]
  have hread := get_of_mem hkeyed hopen (hserving .get) hmem
  refine ⟨_, _, hadd.trans (congrArg (Prod.mk · _) hread), rfl, rfl, ?_, ?_⟩
  · intro r hr
    have hbound := hsound.subscriptionBound r hr
    dsimp only
    omega
  · intro e he howner
    obtain ⟨r, hr, hid⟩ := hsound.owners e he _ howner
    have hbound := hsound.subscriptionBound r hr
    dsimp only at hid
    omega

theorem addable_of_add (hadd : s.add now url remark agent = (.ok t, s')) : s.Addable url := by
  rcases s.add_cases now url remark agent with
    ⟨p, hfail⟩ | ⟨checked, db, hchecked, -, hleft, hnew, -⟩
  · cases hfail.symm.trans hadd
  obtain ⟨habsolute, rfl⟩ := Retrieval.checkUrl_eq_ok.mp hchecked
  exact ⟨habsolute, hnew, hleft⟩

theorem adds_of_add (h : s.Reachable) (hopen : s.isOpen = true)
    (hserving : ∀ call, s.refusal call = none) (hadd : s.add now url remark agent = (.ok t, s')) :
    s.Adds now url remark agent t s' := by
  obtain ⟨t', s'', hadd', hadds⟩ := add_of_addable h hopen hserving (addable_of_add hadd)
  cases hadd.symm.trans hadd'
  exact hadds

/-! ## Deletions -/

/-- The row of a number is gone, and with it the configs that it owns. Everything else is as it was.
-/
def Deletes (s : Store) (id : Int) (s' : Store) : Prop :=
  ∃ before row after, RowAt s.database.subscriptions id before row after ∧
    s' = { s with database := { s.database with
      subscriptions := before ++ after
      configs := s.database.configs.filter fun e => e.owner ≠ some id } }

theorem delete_of_known (h : s.Reachable) (hopen : s.isOpen = true)
    (hserving : ∀ call, s.refusal call = none)
    (hknown : ∃ r ∈ s.database.subscriptions, r.id = id) :
    ∃ s', s.delete id = (.ok (), s') ∧ s.Deletes id s' := by
  obtain ⟨before, row, after, hrow⟩ := h.keyed.exists_rowAt hknown
  have hget : s.get id = .ok row := by
    rw [← hrow.number]
    exact get_of_mem h.keyed hopen (hserving .get) hrow.mem
  have hdelete : s.delete id = (.ok (), { s with database := s.database.delete id }) := by
    simp [delete, checkRefusal, hserving, hget]
  refine ⟨_, hdelete, before, row, after, hrow, ?_⟩
  rw [← hrow.filter]
  rfl

theorem known_of_delete (hdelete : s.delete id = (.ok (), s')) :
    ∃ r ∈ s.database.subscriptions, r.id = id := by
  unfold delete at hdelete
  dsimp only at hdelete
  split at hdelete
  · cases hdelete
  · rename_i db hprepared
    obtain ⟨_, -, hprepared⟩ := bind_eq_ok.mp hprepared
    obtain ⟨found, hget, -⟩ := bind_eq_ok.mp hprepared
    obtain ⟨-, -, -, hfound⟩ := get_eq_ok.mp hget
    exact ⟨found, List.mem_of_find?_eq_some hfound, by simpa using List.find?_some hfound⟩

theorem deletes_of_delete (h : s.Reachable) (hopen : s.isOpen = true)
    (hserving : ∀ call, s.refusal call = none) (hdelete : s.delete id = (.ok (), s')) :
    s.Deletes id s' := by
  obtain ⟨s'', hdelete', hdeletes⟩ := delete_of_known h hopen hserving (known_of_delete hdelete)
  cases hdelete.symm.trans hdelete'
  exact hdeletes

/-! ## All of them -/

/-- **The calls that keep subscriptions succeed just when they make sense, and change what they name
and nothing else.** -/
theorem keeping_touches_named (h : s.Reachable) (hopen : s.isOpen = true)
    (hserving : ∀ call, s.refusal call = none) :
    (∀ id c, ((∃ t s', s.update id c = (.ok t, s')) ↔ s.Updatable id c) ∧
      ∀ t s', s.update id c = (.ok t, s') →
        s.Updates id c t s' ∧ s'.update id c = (.ok t, s')) ∧
    (∀ now url remark agent,
      ((∃ t s', s.add now url remark agent = (.ok t, s')) ↔ s.Addable url) ∧
      ∀ t s', s.add now url remark agent = (.ok t, s') → s.Adds now url remark agent t s') ∧
    ∀ id, ((∃ s', s.delete id = (.ok (), s')) ↔ ∃ r ∈ s.database.subscriptions, r.id = id) ∧
      ∀ s', s.delete id = (.ok (), s') → s.Deletes id s' := by
  refine ⟨fun id c => ⟨⟨?_, ?_⟩, ?_⟩, fun now url remark agent => ⟨⟨?_, ?_⟩, ?_⟩,
    fun id => ⟨⟨?_, ?_⟩, ?_⟩⟩
  · rintro ⟨t, s', hupdate⟩
    exact updatable_of_update hupdate
  · intro hc
    obtain ⟨t, s', hupdate, -⟩ := update_of_updatable h hopen hserving hc
    exact ⟨t, s', hupdate⟩
  · intro t s' hupdate
    exact ⟨updates_of_update h hopen hserving hupdate, update_again h hopen hserving hupdate⟩
  · rintro ⟨t, s', hadd⟩
    exact addable_of_add hadd
  · intro hurl
    obtain ⟨t, s', hadd, -⟩ := add_of_addable h hopen hserving hurl
    exact ⟨t, s', hadd⟩
  · intro t s' hadd
    exact adds_of_add h hopen hserving hadd
  · rintro ⟨s', hdelete⟩
    exact known_of_delete hdelete
  · intro hknown
    obtain ⟨s', hdelete, -⟩ := delete_of_known h hopen hserving hknown
    exact ⟨s', hdelete⟩
  · intro s' hdelete
    exact deletes_of_delete h hopen hserving hdelete

/-- A new URL with blanks around it, and a remark to be cleared. -/
def movedAndCleared : Changes := ⟨some " http://b/ ".toList, some [], none, none⟩

theorem keeping_touches_named_in_twoOwned :
    twoOwned.isOpen = true ∧ (∀ call, twoOwned.refusal call = none) ∧
      (∃ t s', t.url = "http://b/".toList ∧ t.remark = none ∧
        twoOwned.Updates 1 movedAndCleared t s' ∧ s'.update 1 movedAndCleared = (.ok t, s')) ∧
      (∃ t s', t.id = 2 ∧ twoOwned.Adds ⟨63839750400000000⟩ "http://b/" none none t s') ∧
      ∃ s', s'.database.configs.map Config.link = ["c".toList] ∧ twoOwned.Deletes 1 s' := by
  have hserving : ∀ call, twoOwned.refusal call = none := fun _ => rfl
  have hopen : twoOwned.isOpen = true := by decide +kernel
  obtain ⟨hupdates, hadds, hdeletes⟩ := keeping_touches_named reachable_twoOwned hopen hserving
  refine ⟨hopen, hserving, ?_, ?_, ?_⟩
  · have hanswer : (twoOwned.update 1 movedAndCleared).1 =
        .ok ⟨1, "http://b/".toList, none, none, true, ⟨63839750400000000⟩, none⟩ := by
      decide +kernel
    have hupdate := (hupdates 1 movedAndCleared).2 _ _ (Prod.ext hanswer rfl)
    exact ⟨_, _, rfl, rfl, hupdate⟩
  · have hanswer : (twoOwned.add ⟨63839750400000000⟩ "http://b/" none none).1 =
        .ok ⟨2, "http://b/", none, none, true, ⟨63839750400000000⟩, none⟩ := by
      decide +kernel
    have hadd := (hadds ⟨63839750400000000⟩ "http://b/" none none).2 _ _ (Prod.ext hanswer rfl)
    exact ⟨_, _, rfl, hadd⟩
  · have hanswer : (twoOwned.delete 1).1 = .ok () := by decide +kernel
    have hdelete := (hdeletes 1).2 _ (Prod.ext hanswer rfl)
    exact ⟨_, by decide +kernel, hdelete⟩

end Store

end LinkHarvest
