import LinkHarvest.Proofs.Data.Value
import LinkHarvest.Proofs.Store.Again
import LinkHarvest.Proofs.Store.Calls
import LinkHarvest.Proofs.Store.Orders

/-!
# The law of a batch

A batch names a link once or several times, with different things left out each time. What it leaves
of the link is one row, which takes from every column the last thing that the drafts name there
(`Merged`), and nothing of other links: `upsert_merges`. A row is known by what it was refreshed
with, whether it was there before or starts out blank (`rowsOf_putAll_eq`). So a second batch of the
same drafts has nothing to add, and batches without a common link do not see each other.
-/

namespace LinkHarvest

namespace Database

variable {db : Database} {vs ws : List ConfigValues} {link : Text} {c : Config}

/-! ## The row of a link -/

/-- A row in which nothing is known yet of the link of some values. -/
def blank (id : Int) (v : ConfigValues) : Config :=
  ⟨id, none, v.link, none, none, v.addedAt, v.lastSeenAt⟩

theorem refreshed_blank (id : Int) (v : ConfigValues) :
    refreshed (blank id v) v = created id v := by
  unfold refreshed blank created
  cases v.owner <;> cases v.protocol <;> cases v.remark <;> rfl

theorem refreshedBy_created (id : Int) (v : ConfigValues) (vs : List ConfigValues) :
    refreshedBy (v :: vs) (created id v) = refreshedBy (v :: vs) (blank id v) := by
  unfold refreshedBy
  rw [List.foldl_cons, List.foldl_cons, refreshed_created, refreshed_blank]

/-- The row that values start out with: the one that is there, or a blank one. -/
inductive Starts (vs : List ConfigValues) : Option Config → Config → Prop
  | old (c : Config) : Starts vs (some c) c
  | new (id : Int) {v : ConfigValues} (h : vs.head? = some v) : Starts vs none (blank id v)

/-- **A link with values has one row**, which is refreshed by them. -/
theorem rowsOf_putAll_eq (hdistinct : db.LinksDistinct) (hlink : link ∈ vs.map ConfigValues.link) :
    ∃ c, Starts (valuesOf vs link) (db.config? link) c ∧
      (db.putAll vs).rowsOf link = [refreshedBy (valuesOf vs link) c] := by
  obtain ⟨id, -, hrows⟩ := db.rowsOf_putAll vs link
  change _ = (seeds id (db.rowsOf link) (valuesOf vs link)).map (refreshedBy (valuesOf vs link))
    at hrows
  obtain ⟨v, rest, hvalues⟩ := List.exists_cons_of_ne_nil fun hnil =>
    valuesOf_eq_nil.mp hnil hlink
  cases hold : db.config? link with
  | some c =>
    refine ⟨c, .old c, ?_⟩
    rw [hrows, rowsOf_of_config? hdistinct hold]
    rfl
  | none =>
    have hnil : db.rowsOf link = [] := by
      rwa [config?_eq, List.head?_eq_none_iff] at hold
    refine ⟨blank id v, .new id (by rw [hvalues]; rfl), ?_⟩
    rw [hrows, hnil, hvalues, ← refreshedBy_created]
    rfl

/-! ## Values without a common link -/

/-- Two tables hold the same rows of every link, but for the numbers of the rows that `db` lacks. -/
def SameUpToNumbers (db db₁ db₂ : Database) : Prop :=
  ∀ link, List.Forall₂ (UpToNumber (db.rowsOf link ≠ [])) (db₁.rowsOf link) (db₂.rowsOf link)

theorem putAll_comm (h : ∀ v ∈ vs, ∀ w ∈ ws, v.link ≠ w.link) :
    SameUpToNumbers db ((db.putAll vs).putAll ws) ((db.putAll ws).putAll vs) := by
  intro link
  rw [← putAll_append, ← putAll_append]
  apply rowsOf_putAll_congr
  rw [List.filter_append, List.filter_append]
  -- The link is missing in the values of one side.
  by_cases hlink : link ∈ vs.map ConfigValues.link
  · obtain ⟨v, hv, rfl⟩ := List.mem_map.mp hlink
    have hws : ws.filter (fun w => decide (w.link = v.link)) = [] :=
      List.filter_eq_nil_iff.mpr fun w hw heq => h v hv w hw (of_decide_eq_true heq).symm
    rw [hws, List.append_nil, List.nil_append]
  · have hvs : vs.filter (fun v => decide (v.link = link)) = [] := valuesOf_eq_nil.mpr hlink
    rw [hvs, List.append_nil, List.nil_append]

end Database

namespace Store

open Database Fallible

variable {s : Store} {now later : Instant} {drafts : List Draft} {d : Draft} {link : Text}
  {α : Type}

/-! ## What drafts name -/

def draftsOf (drafts : List Draft) (link : Text) : List Draft :=
  drafts.filter fun d => d.link = some link

/-- The last thing that drafts name in a column. -/
def lastNamed (column : Draft → Option α) (drafts : List Draft) : Option α :=
  (drafts.filterMap column).getLast?

/-- The instant that a time of a draft stands for: the present if it is left out. -/
def instantAt? (now : Instant) : Option Timestamp → Option Instant
  | none => some now
  | some t => Instant.ofTimestamp? t

/-- What the drafts of one link make of the row `old`, or of none. -/
structure Merged (now : Instant) (drafts : List Draft) (old : Option Config) (c : Config) :
    Prop where
  owner : c.owner = (lastNamed Draft.owner drafts).or (old.bind Config.owner)
  protocol : c.protocol = (lastNamed Draft.protocol drafts).or (old.bind Config.protocol)
  remark : c.remark.map LooseText.ofText =
    (lastNamed Draft.remark drafts).or (old.bind fun c => c.remark.map LooseText.ofText)
  lastSeenAt : (drafts.getLast?.bind fun d => instantAt? now d.lastSeenAt) = some c.lastSeenAt
  kept : ∀ o, old = some o → c.id = o.id ∧ c.addedAt = o.addedAt
  new : old = none → (drafts.head?.bind fun d => instantAt? now d.addedAt) = some c.addedAt

/-- The values of a draft are those that it names, and there is nothing about them that a row could
not hold. -/
structure Valued (now : Instant) (d : Draft) (v : ConfigValues) : Prop where
  owner : v.owner = d.owner
  link : d.link = some v.link
  protocol : v.protocol = d.protocol
  remark : v.remark.map LooseText.ofText = d.remark
  addedAt : instantAt? now d.addedAt = some v.addedAt
  lastSeenAt : instantAt? now d.lastSeenAt = some v.lastSeenAt

theorem instantAt?_of_instant {t : Option Timestamp} {i : Instant}
    (h : instant (t.getD now.timestamp) = .ok i) : instantAt? now t = some i := by
  have htime := instant_eq_ok h
  cases t with
  | none => rw [Instant.eq_of_ofTimestamp?_timestamp htime]; rfl
  | some t => exact htime

theorem valued_of_row {knows : Option Int → Bool} {e : Dated} {v : ConfigValues}
    (hdated : dated now d = .ok e) (hrow : rowFor knows true e = .ok v) : Valued now d v := by
  obtain ⟨addedAt, hadded, hdated⟩ := bind_eq_ok.mp hdated
  obtain ⟨lastSeenAt, hseen, hdated⟩ := bind_eq_ok.mp hdated
  cases hdated
  have hwith : ∀ remark : Option Text, remark.map LooseText.ofText = d.remark →
      rowWith knows true ⟨d, addedAt, lastSeenAt⟩ remark = .ok v → Valued now d v := by
    intro remark hremark hwith
    unfold rowWith at hwith
    rw [if_pos rfl] at hwith
    split at hwith
    · cases hwith
    · rename_i link hlink
      split at hwith
      · cases hwith
        exact ⟨rfl, hlink, rfl, hremark, instantAt?_of_instant hadded, instantAt?_of_instant hseen⟩
      · cases hwith
  obtain ⟨_, -, hrow⟩ := bind_eq_ok.mp hrow
  dsimp only at hrow
  cases hremark : d.remark with
  | none =>
    rw [hremark] at hrow
    exact hwith none hremark.symm hrow
  | some t =>
    rw [hremark] at hrow
    obtain ⟨text, htext, hrow⟩ := bind_eq_ok.mp hrow
    refine hwith (some text) ?_ hrow
    rw [hremark, LooseText.eq_ofText (columnText_eq_ok htext)]
    rfl

theorem Stored.valued (h : Stored s now d) : Valued now d (values now d) := by
  obtain ⟨e, v, hdated, hrow⟩ := h.row
  have hvalues : v = values now d := (stored_row h.isOpen hdated hrow).1
  exact hvalues ▸ valued_of_row hdated hrow

/-! ## The values of the drafts of a link -/

theorem valuesOf_values (h : ∀ d ∈ drafts, Valued now d (values now d)) (link : Text) :
    valuesOf (drafts.map (values now)) link = (draftsOf drafts link).map (values now) := by
  unfold valuesOf draftsOf
  rw [List.filter_map]
  congr 1
  apply List.filter_congr
  intro d hd
  have hlink := (h d hd).link
  simp [hlink]

theorem lastGiven_values {column : ConfigValues → Option α} {named : Draft → Option α}
    (h : ∀ d ∈ drafts, column (values now d) = named d) :
    lastGiven column (drafts.map (values now)) = lastNamed named drafts := by
  unfold lastGiven lastNamed
  rw [List.filterMap_map]
  congr 1
  exact List.filterMap_congr h

theorem lastGiven_remark (h : ∀ d ∈ drafts, Valued now d (values now d)) :
    (lastGiven ConfigValues.remark (drafts.map (values now))).map LooseText.ofText =
      lastNamed Draft.remark drafts := by
  unfold lastGiven lastNamed
  rw [← List.getLast?_map, List.filterMap_map, List.map_filterMap]
  congr 1
  exact List.filterMap_congr fun d hd => (h d hd).remark

theorem lastGiven_seen (drafts : List Draft) :
    lastGiven (some ∘ ConfigValues.lastSeenAt) (drafts.map (values now)) =
      drafts.getLast?.map fun d => (values now d).lastSeenAt := by
  unfold lastGiven
  rw [List.filterMap_eq_map, List.map_map, List.getLast?_map]
  rfl

theorem merged_refreshedBy (h : ∀ d ∈ drafts, Valued now d (values now d)) (hne : drafts ≠ [])
    {old : Option Config} {c : Config} (hstarts : Starts (drafts.map (values now)) old c) :
    Merged now drafts old (refreshedBy (drafts.map (values now)) c) := by
  have hor : ∀ {α : Type} (given : Option α) (a : Option α),
      (given.orElse fun _ => a) = given.or a := by
    intro α given a
    cases given <;> rfl
  have howner : (refreshedBy (drafts.map (values now)) c).owner =
      (lastNamed Draft.owner drafts).or c.owner := by
    rw [refreshedBy_eq, ← lastGiven_values fun d hd => (h d hd).owner]
    exact hor _ _
  have hprotocol : (refreshedBy (drafts.map (values now)) c).protocol =
      (lastNamed Draft.protocol drafts).or c.protocol := by
    rw [refreshedBy_eq, ← lastGiven_values fun d hd => (h d hd).protocol]
    exact hor _ _
  have hremark : (refreshedBy (drafts.map (values now)) c).remark.map LooseText.ofText =
      (lastNamed Draft.remark drafts).or (c.remark.map LooseText.ofText) := by
    rw [refreshedBy_eq, ← lastGiven_remark h]
    cases lastGiven ConfigValues.remark (drafts.map (values now)) <;> rfl
  have hseen : (drafts.getLast?.bind fun d => instantAt? now d.lastSeenAt) =
      some (refreshedBy (drafts.map (values now)) c).lastSeenAt := by
    obtain ⟨init, d, rfl⟩ := List.eq_nil_or_concat' drafts |>.resolve_left hne
    rw [refreshedBy_eq, lastGiven_seen, List.getLast?_concat]
    exact (h d (by simp)).lastSeenAt
  have hkept : (refreshedBy (drafts.map (values now)) c).id = c.id ∧
      (refreshedBy (drafts.map (values now)) c).addedAt = c.addedAt := by
    rw [refreshedBy_eq]
    exact ⟨rfl, rfl⟩
  cases hstarts with
  | old c =>
    refine ⟨howner, hprotocol, hremark, hseen, ?_, fun hnone => by cases hnone⟩
    intro o ho
    cases ho
    exact hkept
  | new id hhead =>
    refine ⟨howner, hprotocol, hremark, hseen, fun o ho => by (cases ho), fun _ => ?_⟩
    rw [List.head?_map, Option.map_eq_some_iff] at hhead
    obtain ⟨d, hd, rfl⟩ := hhead
    rw [hd, hkept.2]
    exact (h d (List.mem_of_mem_head? hd)).addedAt

/-! ## The same batch again -/

theorem refreshed_values (h : Valued now d (values now d)) (hseen : d.lastSeenAt ≠ none)
    (c : Config) : refreshed c (values later d) = refreshed c (values now d) := by
  obtain ⟨t, ht⟩ := Option.ne_none_iff_exists'.mp hseen
  have htime : Instant.ofTimestamp? t = some (values now d).lastSeenAt := by
    have htime := h.lastSeenAt
    rwa [ht] at htime
  have hlater : (values later d).lastSeenAt = (values now d).lastSeenAt := by
    show (Instant.ofTimestamp? (d.lastSeenAt.getD later.timestamp)).getD later = _
    rw [ht, Option.getD_some, htime, Option.getD_some]
  unfold refreshed
  rw [hlater]
  rfl

theorem refreshedBy_later (h : ∀ d ∈ drafts, Valued now d (values now d))
    (hseen : ∀ d ∈ drafts, d.lastSeenAt ≠ none) (c : Config) :
    refreshedBy (drafts.map (values later)) c = refreshedBy (drafts.map (values now)) c := by
  unfold refreshedBy
  rw [List.foldl_map, List.foldl_map]
  exact List.foldl_ext _ _ _ fun c d hd => refreshed_values (h d hd) (hseen d hd) c

theorem putAll_later (db : Database) (h : ∀ d ∈ drafts, Valued now d (values now d))
    (hseen : ∀ d ∈ drafts, d.lastSeenAt ≠ none) :
    ((db.putAll (drafts.map (values now))).putAll (drafts.map (values later))).configs =
      (db.putAll (drafts.map (values now))).configs := by
  apply putAll_settled
  · intro w hw
    obtain ⟨d, hd, rfl⟩ := List.mem_map.mp hw
    have hlink : (values now d).link ∈ (drafts.map (values now)).map ConfigValues.link :=
      List.mem_map_of_mem (List.mem_map_of_mem hd)
    exact hlink
  · intro link c
    have hvalues : ∀ time, valuesOf (drafts.map (values time)) link =
        (drafts.filter fun d => d.link.getD [] = link).map (values time) :=
      fun time => List.filter_map
    rw [hvalues, hvalues]
    exact refreshedBy_later (fun d hd => h d (List.mem_of_mem_filter hd))
      (fun d hd => hseen d (List.mem_of_mem_filter hd)) c

theorem exists_row_later {knows : Option Int → Bool} (hlater : later.micros < Instant.limit)
    (hseen : d.lastSeenAt ≠ none) (h : ∃ e v, dated now d = .ok e ∧ rowFor knows true e = .ok v) :
    ∃ e v, dated later d = .ok e ∧ rowFor knows true e = .ok v := by
  obtain ⟨e, v, hdated, hrow⟩ := h
  obtain ⟨addedAt, hadded, hdated⟩ := bind_eq_ok.mp hdated
  obtain ⟨lastSeenAt, htime, hdated⟩ := bind_eq_ok.mp hdated
  cases hdated
  obtain ⟨t, ht⟩ := Option.ne_none_iff_exists'.mp hseen
  rw [ht, Option.getD_some] at htime
  obtain ⟨i, hi⟩ : ∃ i, instant (d.addedAt.getD later.timestamp) = .ok i := by
    cases hgiven : d.addedAt with
    | none =>
      have hnow : Instant.ofTimestamp? later.timestamp = some later := by
        rw [Instant.ofTimestamp?_timestamp, if_pos hlater]
      exact ⟨later, instant_of_eq_some hnow⟩
    | some t =>
      rw [hgiven, Option.getD_some] at hadded
      rw [Option.getD_some]
      exact ⟨addedAt, hadded⟩
  have hagain : dated later d = .ok ⟨d, i, lastSeenAt⟩ := by
    unfold dated
    rw [hi, ht, Option.getD_some, htime]
    rfl
  have hrows : rowFor knows true ⟨d, i, lastSeenAt⟩ = .ok { v with addedAt := i, lastSeenAt } := by
    have htimes : rowFor knows true ⟨d, i, lastSeenAt⟩ =
        (rowFor knows true ⟨d, addedAt, lastSeenAt⟩).map fun v =>
          { v with addedAt := i, lastSeenAt } := rowFor_times rfl rfl rfl rfl
    rw [htimes, hrow]
    rfl
  exact ⟨_, _, hagain, hrows⟩

theorem rowsFor_later {t : Store} {rows : List ConfigValues} (hlater : later.micros < Instant.limit)
    (hseen : ∀ d ∈ drafts, d.lastSeenAt ≠ none) (h : s.rowsFor now drafts = .ok rows)
    (hframe : s.frame = t.frame) (hleft : drafts.length ≤ t.database.numbersLeft) :
    t.rowsFor later drafts = .ok (drafts.map (values later)) := by
  obtain ⟨-, -, hstored⟩ := rowsFor_eq_ok h
  obtain ⟨_, hrefusal, -⟩ := bind_eq_ok.mp h
  obtain ⟨-, hsame, -⟩ := Frame.mk.injEq .. ▸ hframe
  have hrefusal : t.checkRefusal (.upsert (drafts.map Draft.owner)) = .ok () := by
    unfold checkRefusal
    rw [← hsame]
    exact hrefusal
  have hstored : ∀ d ∈ drafts, Stored t now d := fun d hd => (hstored d hd).congr hframe
  refine rowsFor_of_rows hrefusal ?_ hleft ?_
  · intro hne
    obtain ⟨d, hd⟩ := List.exists_mem_of_ne_nil _ hne
    exact (hstored d hd).isOpen
  · intro d hd
    exact exists_row_later hlater (hseen d hd) (hstored d hd).row

/-! ## The law -/

theorem upsert_eq_ok (h : (s.upsert now drafts).1 = .ok ()) :
    s.rowsFor now drafts = .ok (drafts.map (values now)) ∧
      drafts.length ≤ s.database.numbersLeft ∧
      (∀ d ∈ drafts, Valued now d (values now d)) ∧
      s.upsert now drafts =
        (.ok (), { s with database := s.database.putAll (drafts.map (values now)) }) := by
  rw [upsert_eq] at h ⊢
  cases hrows : s.rowsFor now drafts with
  | error p =>
    rw [hrows] at h
    cases h
  | ok rows =>
    obtain ⟨rfl, hleft, hstored⟩ := rowsFor_eq_ok hrows
    exact ⟨rfl, hleft, fun d hd => (hstored d hd).valued, rfl⟩

/-- Whether a batch is taken does not depend on the rows that are there, if there are numbers enough
for it and for them. -/
theorem upsert_after {rows : List ConfigValues}
    (hleft : drafts.length + rows.length ≤ s.database.numbersLeft) :
    ({ s with database := s.database.putAll rows }.upsert now drafts).1 =
      (s.upsert now drafts).1 := by
  have hsame : SameNumbers drafts.length { s with database := s.database.putAll rows } s := by
    apply sameNumbers_of_le
    · rw [putAll_numbersLeft]
      omega
    · omega
  rw [upsert_eq, upsert_eq, rowsFor_congr (frame_putAll (s := s) rows) hsame]
  cases s.rowsFor now drafts <;> rfl

theorem link_mem_values (h : ∀ d ∈ drafts, Valued now d (values now d)) :
    link ∈ (drafts.map (values now)).map ConfigValues.link ↔
      some link ∈ drafts.map Draft.link := by
  rw [List.map_map, List.mem_map, List.mem_map]
  refine exists_congr fun d => and_congr_right fun hd => ?_
  rw [(h d hd).link, Option.some.injEq]
  rfl

theorem upsert_row (hdistinct : s.database.LinksDistinct) (h : (s.upsert now drafts).1 = .ok ())
    (hlink : some link ∈ drafts.map Draft.link) :
    ∃ c, (s.upsert now drafts).2.database.rowsOf link = [c] ∧
      Merged now (draftsOf drafts link) (s.database.config? link) c := by
  obtain ⟨-, -, hvalued, hupsert⟩ := upsert_eq_ok h
  obtain ⟨c, hstarts, hrow⟩ := rowsOf_putAll_eq hdistinct ((link_mem_values hvalued).mpr hlink)
  rw [valuesOf_values hvalued] at hstarts hrow
  rw [hupsert]
  have hofLink : ∀ d ∈ draftsOf drafts link, Valued now d (values now d) := fun d hd =>
    hvalued d (List.mem_of_mem_filter hd)
  refine ⟨_, hrow, merged_refreshedBy hofLink ?_ hstarts⟩
  obtain ⟨d, hd, hdlink⟩ := List.mem_map.mp hlink
  exact List.ne_nil_of_mem (List.mem_filter.mpr ⟨hd, decide_eq_true hdlink⟩)

theorem upsert_again (h : (s.upsert now drafts).1 = .ok ())
    (hseen : ∀ d ∈ drafts, d.lastSeenAt ≠ none) (later : Instant) :
    let again := (s.upsert now drafts).2.upsert later drafts
    again.2.database.configs = (s.upsert now drafts).2.database.configs ∧
      again.2.database.subscriptions = (s.upsert now drafts).2.database.subscriptions ∧
      (later.micros < Instant.limit →
        drafts.length ≤ (s.upsert now drafts).2.database.numbersLeft → again.1 = .ok ()) := by
  obtain ⟨hrows, -, hvalued, hupsert⟩ := upsert_eq_ok h
  have hframe : s.frame = (s.upsert now drafts).2.frame := by
    rw [hupsert]
    exact (frame_putAll _).symm
  have hdatabase : (s.upsert now drafts).2.database =
      s.database.putAll (drafts.map (values now)) := by rw [hupsert]
  generalize (s.upsert now drafts).2 = t at hframe hdatabase ⊢
  intro again
  have hagain : again = _ := upsert_eq t later drafts
  rw [hagain]
  refine ⟨?_, ?_, fun hlater hleft => ?_⟩
  · cases hlater : t.rowsFor later drafts with
    | error p => rfl
    | ok rows =>
      rw [(rowsFor_eq_ok hlater).1]
      show (t.database.putAll _).configs = _
      rw [hdatabase]
      exact putAll_later _ hvalued hseen
  · cases t.rowsFor later drafts with
    | error p => rfl
    | ok rows => exact putAll_subscriptions
  · rw [rowsFor_later hlater hseen hrows hframe hleft]

theorem upsert_swap {others : List Draft} {now' : Instant}
    (hdisjoint : ∀ d ∈ drafts, ∀ e ∈ others, d.link ≠ e.link)
    (h : (s.upsert now drafts).1 = .ok ())
    (hlast : ((s.upsert now drafts).2.upsert now' others).1 = .ok ()) :
    (s.upsert now' others).1 = .ok () ∧ ((s.upsert now' others).2.upsert now drafts).1 = .ok () ∧
      SameUpToNumbers s.database ((s.upsert now drafts).2.upsert now' others).2.database
        ((s.upsert now' others).2.upsert now drafts).2.database := by
  obtain ⟨-, hleft, hvalued, hupsert⟩ := upsert_eq_ok h
  rw [hupsert] at hlast ⊢
  -- Both batches were taken one after the other, so there are numbers for both of them.
  obtain ⟨-, hleft', -, hlastUpsert⟩ := upsert_eq_ok hlast
  rw [putAll_numbersLeft, List.length_map] at hleft'
  have hfirst : (s.upsert now' others).1 = .ok () := by
    rw [← hlast, upsert_after]
    rw [List.length_map]
    omega
  obtain ⟨-, -, hothers, hothersUpsert⟩ := upsert_eq_ok hfirst
  have hafter : ((s.upsert now' others).2.upsert now drafts).1 = .ok () := by
    rw [hothersUpsert, upsert_after, hupsert]
    rw [List.length_map]
    omega
  refine ⟨hfirst, hafter, ?_⟩
  rw [hlastUpsert, (upsert_eq_ok hafter).2.2.2, hothersUpsert]
  refine putAll_comm fun v hv w hw hlink => ?_
  obtain ⟨d, hd, rfl⟩ := List.mem_map.mp hv
  obtain ⟨e, he, rfl⟩ := List.mem_map.mp hw
  apply hdisjoint d hd e he
  rw [(hvalued d hd).link, (hothers e he).link, hlink]

/-- **The law of a batch.** Each of its links has one row afterwards, merged from what the batch
names and the row that was there; all other rows are as they were. The same batch again changes
nothing if it says when the links were seen, and is taken while numbers are left for it; and a batch
without a common link might as well have come first. -/
theorem upsert_merges (hdistinct : s.database.LinksDistinct)
    (h : (s.upsert now drafts).1 = .ok ()) :
    (∀ link, some link ∈ drafts.map Draft.link →
      ∃ c, (s.upsert now drafts).2.database.rowsOf link = [c] ∧
        Merged now (draftsOf drafts link) (s.database.config? link) c) ∧
    (∀ link, some link ∉ drafts.map Draft.link →
      (s.upsert now drafts).2.database.rowsOf link = s.database.rowsOf link) ∧
    ((∀ d ∈ drafts, d.lastSeenAt ≠ none) → ∀ later,
      let again := (s.upsert now drafts).2.upsert later drafts
      again.2.database.configs = (s.upsert now drafts).2.database.configs ∧
        again.2.database.subscriptions = (s.upsert now drafts).2.database.subscriptions ∧
        (later.micros < Instant.limit →
          drafts.length ≤ (s.upsert now drafts).2.database.numbersLeft → again.1 = .ok ())) ∧
    ∀ now' others, (∀ d ∈ drafts, ∀ e ∈ others, d.link ≠ e.link) →
      let last := (s.upsert now drafts).2.upsert now' others
      let first := s.upsert now' others
      last.1 = .ok () → first.1 = .ok () ∧ (first.2.upsert now drafts).1 = .ok () ∧
        SameUpToNumbers s.database last.2.database (first.2.upsert now drafts).2.database := by
  refine ⟨fun link => upsert_row hdistinct h, fun link hlink => ?_, upsert_again h,
    fun now' others hdisjoint => upsert_swap hdisjoint h⟩
  obtain ⟨-, -, hvalued, hupsert⟩ := upsert_eq_ok h
  rw [hupsert]
  exact rowsOf_putAll_of_not_mem (mt (link_mem_values hvalued).mp hlink)

/-- A store with a link of its one subscription. -/
def linkA : Store :=
  (((Store.ofDatabase .empty).add ⟨63839750400000000⟩ "http://a/" none none).2.upsert
    ⟨63839750400000000⟩ [⟨some 1, some "a".toList, some "ss".toList, none, none, none⟩]).2

def rowA : Config :=
  ⟨1, some 1, "a".toList, some "ss".toList, none, ⟨63839750400000000⟩, ⟨63839750400000000⟩⟩

def dayAfter : Instant := ⟨63839836800000000⟩

/-- A batch that names the link twice, and each time leaves out what it names the other time. -/
def linkATwice : List Draft :=
  [⟨none, some "a".toList, none, some (.ofText "first".toList), none, some dayAfter.timestamp⟩,
    ⟨none, some "b".toList, none, none, none, some dayAfter.timestamp⟩,
    ⟨none, some "a".toList, some "vless".toList, none, none, some dayAfter.timestamp⟩]

def linkC : List Draft := [⟨some 1, some "c".toList, none, none, none, none⟩]

/-- Both halves and the row that was there end up in one row. -/
theorem upsert_merges_linkATwice :
    (∃ c, (linkA.upsert dayAfter linkATwice).2.database.rowsOf "a".toList = [c] ∧
      c.id = 1 ∧ c.owner = some 1 ∧ c.protocol = some "vless".toList ∧
      c.remark.map LooseText.ofText = some (.ofText "first".toList)) ∧
    ((linkA.upsert dayAfter linkATwice).2.upsert dayAfter linkATwice).2.database.configs =
      (linkA.upsert dayAfter linkATwice).2.database.configs ∧
    (linkA.upsert dayAfter linkC).1 = .ok () ∧
    SameUpToNumbers linkA.database
      ((linkA.upsert dayAfter linkATwice).2.upsert dayAfter linkC).2.database
      ((linkA.upsert dayAfter linkC).2.upsert dayAfter linkATwice).2.database := by
  have hdistinct : linkA.database.LinksDistinct := by
    unfold LinksDistinct
    decide +kernel
  have htaken : (linkA.upsert dayAfter linkATwice).1 = .ok () := by decide +kernel
  obtain ⟨hmerged, -, hagain, hcomm⟩ := upsert_merges hdistinct htaken
  have hlast := hcomm dayAfter linkC (by decide +kernel) (by decide +kernel)
  have hsame := (hagain (by decide +kernel) dayAfter).1
  refine ⟨?_, hsame, hlast.1, hlast.2.2⟩
  obtain ⟨c, hrow, h⟩ := hmerged "a".toList (by decide +kernel)
  have hold : linkA.database.config? "a".toList = some rowA := by decide +kernel
  rw [hold] at h
  refine ⟨c, hrow, (h.kept rowA rfl).1, h.owner.trans ?_, h.protocol.trans ?_, h.remark.trans ?_⟩
  all_goals decide +kernel

end Store

end LinkHarvest
