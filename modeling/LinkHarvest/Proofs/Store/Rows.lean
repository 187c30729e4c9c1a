import LinkHarvest.Store.Database
import Mathlib.Data.List.Induction
import Mathlib.Data.List.Nodup

/-!
# The rows of a link

What a sequence of upserts makes of the config table, link by link. `Database.upsert` makes checks,
of which one is that a number is left (`numbersLeft`), and then does `put`, which never fails and
takes one of the numbers; `rowsOf_putAll` says what a whole sequence of values leaves of one link:
the rows that were there, or one new row, each refreshed by the values for this link in their order.
A refreshed row is known column by column (`refreshedBy_eq`): owner, protocol and remark are the
last ones given, and a row that is there keeps its number and the time it was added. Nothing else in
the table moves, and distinct links stay distinct.
-/

namespace LinkHarvest

namespace Database

/-- The rows that hold a link. -/
def rowsOf (db : Database) (link : Text) : List Config := db.configs.filter fun c => c.link = link

/-- The links of the config table are distinct. -/
def LinksDistinct (db : Database) : Prop := (db.configs.map Config.link).Nodup

def created (id : Int) (v : ConfigValues) : Config :=
  ⟨id, v.owner, v.link, v.protocol, v.remark, v.addedAt, v.lastSeenAt⟩

/-- Whether an owner, if there is one, is a subscription. -/
def knows (db : Database) (owner : Option Int) : Bool :=
  (owner.map fun o => (db.subscription? o).isSome).getD true

/-- How many numbers are left for configs. -/
def numbersLeft (db : Database) : Nat := (greatestNumber - db.lastConfig).toNat

/-- The tables after the row of a link is added or refreshed. -/
def put (db : Database) (v : ConfigValues) : Database :=
  { db with
    configs :=
      if (db.config? v.link).isSome then
        db.configs.map fun c => if c.link = v.link then refreshed c v else c
      else db.configs ++ [created (db.lastConfig + 1) v]
    lastConfig := db.lastConfig + 1 }

/-- The tables after several rows are added or refreshed, one after the other. -/
def putAll (db : Database) (vs : List ConfigValues) : Database := vs.foldl put db

variable {db : Database} {v : ConfigValues} {vs : List ConfigValues} {link : Text} {c : Config}

theorem numbersLeft_pos : 0 < db.numbersLeft ↔ db.lastConfig < greatestNumber := by
  unfold numbersLeft
  omega

theorem upsert_eq (db : Database) (values : Option ConfigValues) :
    db.upsert values =
      if 0 < db.numbersLeft then
        values.elim (.error .linkGiven) fun v =>
          if db.knows v.owner then .ok (db.put v) else .error .ownerExists
      else .error .numberLeft := by
  unfold upsert
  by_cases hleft : 0 < db.numbersLeft
  · have hroom : ¬ greatestNumber < db.lastConfig + 1 := by
      have hlast := numbersLeft_pos.mp hleft
      omega
    rw [if_neg hroom, if_pos hleft]
    cases values with
    | none => rfl
    | some v =>
      have hcheck : (v.owner.map fun o => (db.subscription? o).isNone).getD false
          = !db.knows v.owner := by
        cases h : v.owner <;> simp [knows]
      dsimp only [Option.elim_some]
      rw [hcheck]
      cases db.knows v.owner <;> rfl
  · have hfull : greatestNumber < db.lastConfig + 1 := by
      rw [numbersLeft_pos] at hleft
      omega
    rw [if_pos hfull, if_neg hleft]

@[simp] theorem put_subscriptions : (db.put v).subscriptions = db.subscriptions := rfl

@[simp] theorem put_lastSubscription : (db.put v).lastSubscription = db.lastSubscription := rfl

@[simp] theorem put_lastConfig : (db.put v).lastConfig = db.lastConfig + 1 := rfl

@[simp] theorem put_numbersLeft : (db.put v).numbersLeft = db.numbersLeft - 1 := by
  unfold numbersLeft
  rw [put_lastConfig]
  omega

@[simp] theorem putAll_nil : db.putAll [] = db := rfl

@[simp] theorem putAll_cons : db.putAll (v :: vs) = (db.put v).putAll vs := rfl

theorem putAll_append (ws : List ConfigValues) :
    db.putAll (vs ++ ws) = (db.putAll vs).putAll ws := List.foldl_append

theorem putAll_concat : db.putAll (vs ++ [v]) = (db.putAll vs).put v := putAll_append [v]

@[simp] theorem putAll_subscriptions : (db.putAll vs).subscriptions = db.subscriptions := by
  induction vs generalizing db with
  | nil => rfl
  | cons v vs ih => rw [putAll_cons, ih, put_subscriptions]

@[simp] theorem putAll_lastSubscription :
    (db.putAll vs).lastSubscription = db.lastSubscription := by
  induction vs generalizing db with
  | nil => rfl
  | cons v vs ih => rw [putAll_cons, ih, put_lastSubscription]

@[simp] theorem putAll_lastConfig : (db.putAll vs).lastConfig = db.lastConfig + vs.length := by
  induction vs generalizing db with
  | nil => simp
  | cons v vs ih =>
    rw [putAll_cons, ih, put_lastConfig, List.length_cons]
    push_cast
    omega

@[simp] theorem putAll_numbersLeft :
    (db.putAll vs).numbersLeft = db.numbersLeft - vs.length := by
  unfold numbersLeft
  rw [putAll_lastConfig]
  omega

/-! ## One row -/

@[simp] theorem created_link (id : Int) : (created id v).link = v.link := rfl

theorem mem_rowsOf : c ∈ db.rowsOf link ↔ c ∈ db.configs ∧ c.link = link := by
  simp [rowsOf]

theorem link_of_mem_rowsOf (h : c ∈ db.rowsOf link) : c.link = link := (mem_rowsOf.mp h).2

theorem config?_eq (db : Database) (link : Text) : db.config? link = (db.rowsOf link).head? :=
  List.head?_filter.symm

theorem isSome_config? : (db.config? link).isSome = true ↔ db.rowsOf link ≠ [] := by
  rw [config?_eq, List.isSome_head?]

theorem filter_map_refreshed (rows : List Config) :
    (rows.map fun c => if c.link = v.link then refreshed c v else c).filter
        (fun c => c.link = link) =
      (rows.filter fun c => c.link = link).map
        fun c => if c.link = v.link then refreshed c v else c := by
  rw [List.filter_map]
  congr 2
  funext c
  simp only [Function.comp]
  split <;> rfl

theorem rowsOf_put_of_ne (h : v.link ≠ link) : (db.put v).rowsOf link = db.rowsOf link := by
  unfold put rowsOf
  split
  · rw [filter_map_refreshed]
    refine (List.map_congr_left fun c hc => ?_).trans (List.map_id _)
    have hc : c.link = link := link_of_mem_rowsOf hc
    exact if_neg (hc ▸ Ne.symm h)
  · simp [List.filter_append, h]

theorem rowsOf_put_new (h : db.rowsOf v.link = []) :
    (db.put v).rowsOf v.link = [created (db.lastConfig + 1) v] := by
  have hsome : ¬ (db.config? v.link).isSome = true := fun hsome => isSome_config?.mp hsome h
  have hold : db.configs.filter (fun c => decide (c.link = v.link)) = [] := h
  rw [put, if_neg hsome, rowsOf, List.filter_append, hold]
  simp

theorem rowsOf_put_old (h : db.rowsOf v.link ≠ []) :
    (db.put v).rowsOf v.link = (db.rowsOf v.link).map (refreshed · v) := by
  rw [put, if_pos (isSome_config?.mpr h), rowsOf, filter_map_refreshed]
  exact List.map_congr_left fun c hc => if_pos (link_of_mem_rowsOf hc)

/-! ## Many rows -/

/-- A row after several values for its link. -/
def refreshedBy (vs : List ConfigValues) (c : Config) : Config := vs.foldl refreshed c

/-- The last value that is given in a column. -/
def lastGiven (column : ConfigValues → Option α) (vs : List ConfigValues) : Option α :=
  (vs.filterMap column).getLast?

theorem lastGiven_concat (column : ConfigValues → Option α) :
    lastGiven column (vs ++ [v]) = (column v).orElse fun _ => lastGiven column vs := by
  unfold lastGiven
  rw [List.filterMap_append]
  cases h : column v <;> simp [h]

theorem refreshedBy_concat : refreshedBy (vs ++ [v]) c = refreshed (refreshedBy vs c) v := by
  simp [refreshedBy]

theorem refreshedBy_eq (vs : List ConfigValues) (c : Config) :
    refreshedBy vs c =
      { c with
        owner := (lastGiven ConfigValues.owner vs).orElse fun _ => c.owner
        protocol := (lastGiven ConfigValues.protocol vs).orElse fun _ => c.protocol
        remark := (lastGiven ConfigValues.remark vs).orElse fun _ => c.remark
        lastSeenAt := (lastGiven (some ∘ ConfigValues.lastSeenAt) vs).getD c.lastSeenAt } := by
  induction vs using List.reverseRecOn with
  | nil => rfl
  | append_singleton vs v ih =>
    rw [refreshedBy_concat, ih]
    simp only [lastGiven_concat, refreshed]
    cases v.owner <;> cases v.protocol <;> cases v.remark <;> rfl

/-- The rows that are refreshed: those that are there, or a new one for the first values. -/
def seeds (id : Int) (rows : List Config) (vs : List ConfigValues) : List Config :=
  if rows = [] then (vs.head?.map (created id)).toList else rows

theorem seeds_concat (id : Int) (rows : List Config) :
    seeds id rows (vs ++ [v]) =
      if seeds id rows vs = [] then [created id v] else seeds id rows vs := by
  cases rows with
  | nil => cases vs <;> simp [seeds]
  | cons c rows => simp [seeds]

theorem seeds_eq_nil {id : Int} {rows : List Config} (h : seeds id rows vs = []) (id' : Int) :
    seeds id' rows vs = [] := by
  cases rows <;> cases vs <;> simp_all [seeds]

theorem refreshed_created (id : Int) : refreshed (created id v) v = created id v := by
  unfold refreshed created
  cases v.owner <;> cases v.protocol <;> cases v.remark <;> rfl

/-- **What a sequence of upserts leaves of a link**: the rows that were there, or a new one, each
refreshed by the values for the link. A new row gets a number that was not used before. -/
theorem rowsOf_putAll (db : Database) (vs : List ConfigValues) (link : Text) :
    ∃ id, db.lastConfig < id ∧ (db.putAll vs).rowsOf link =
      (seeds id (db.rowsOf link) (vs.filter (·.link = link))).map
        (refreshedBy (vs.filter (·.link = link))) := by
  induction vs using List.reverseRecOn with
  | nil =>
    refine ⟨db.lastConfig + 1, by omega, ?_⟩
    have hseeds : seeds (db.lastConfig + 1) (db.rowsOf link) [] = db.rowsOf link := by
      cases h : db.rowsOf link <;> simp [seeds]
    rw [List.filter_nil, hseeds]
    exact (List.map_id _).symm
  | append_singleton vs v ih =>
    obtain ⟨id, hid, ih⟩ := ih
    rw [putAll_concat, List.filter_append]
    by_cases hlink : v.link = link
    · subst hlink
      have hfilter : [v].filter (fun w => decide (w.link = v.link)) = [v] := by simp
      rw [hfilter]
      by_cases hseeds : seeds id (db.rowsOf v.link) (vs.filter (·.link = v.link)) = []
      · refine ⟨(db.putAll vs).lastConfig + 1, by rw [putAll_lastConfig]; omega, ?_⟩
        have hvs : vs.filter (fun w => decide (w.link = v.link)) = [] := by
          generalize vs.filter (fun w => decide (w.link = v.link)) = ws at hseeds
          cases hrows : db.rowsOf v.link <;> cases ws <;> simp_all [seeds]
        have hrows : (db.putAll vs).rowsOf v.link = [] := by rw [ih, hseeds, List.map_nil]
        rw [rowsOf_put_new hrows, seeds_concat, if_pos (seeds_eq_nil hseeds _), hvs]
        exact congrArg (fun c => [c]) (refreshed_created _).symm
      · refine ⟨id, hid, ?_⟩
        have hrows : (db.putAll vs).rowsOf v.link ≠ [] := by
          rw [ih, Ne, List.map_eq_nil_iff]
          exact hseeds
        rw [rowsOf_put_old hrows, ih, seeds_concat, if_neg hseeds, List.map_map]
        exact List.map_congr_left fun c _ => refreshedBy_concat.symm
    · refine ⟨id, hid, ?_⟩
      have hfilter : [v].filter (fun w => decide (w.link = link)) = [] := by simp [hlink]
      rw [rowsOf_put_of_ne hlink, hfilter, List.append_nil, ih]

theorem rowsOf_putAll_of_not_mem (h : link ∉ vs.map ConfigValues.link) :
    (db.putAll vs).rowsOf link = db.rowsOf link := by
  induction vs generalizing db with
  | nil => rfl
  | cons v vs ih =>
    rw [List.map_cons, List.mem_cons, not_or] at h
    rw [putAll_cons, ih h.2, rowsOf_put_of_ne (Ne.symm h.1)]

/-! ## Distinct links -/

theorem LinksDistinct.rowsOf_length_le (h : db.LinksDistinct) (link : Text) :
    (db.rowsOf link).length ≤ 1 := by
  have hcount : (db.configs.map Config.link).count link ≤ 1 := List.nodup_iff_count_le_one.mp h link
  rw [List.count_eq_length_filter, List.filter_map, List.length_map] at hcount
  apply le_of_eq_of_le _ hcount
  unfold rowsOf
  congr 2
  funext c
  exact decide_eq_decide.mpr Iff.rfl |>.trans (beq_eq_decide _ _).symm

theorem rowsOf_of_config? (h : db.LinksDistinct) (hc : db.config? link = some c) :
    db.rowsOf link = [c] := by
  have hlength := h.rowsOf_length_le link
  rw [config?_eq] at hc
  obtain ⟨rest, hrows⟩ := List.head?_eq_some_iff.mp hc
  rw [hrows, List.length_cons] at hlength
  have hrest : rest = [] := List.length_eq_zero_iff.mp (by omega)
  rw [hrows, hrest]

theorem map_link_refreshed (rows : List Config) :
    (rows.map fun c => if c.link = v.link then refreshed c v else c).map Config.link =
      rows.map Config.link := by
  rw [List.map_map]
  apply List.map_congr_left
  intro c _
  simp only [Function.comp]
  split <;> rfl

theorem LinksDistinct.put (h : db.LinksDistinct) (v : ConfigValues) :
    (db.put v).LinksDistinct := by
  unfold LinksDistinct Database.put at *
  split
  · rw [map_link_refreshed]
    exact h
  · rename_i hnone
    have hrows : db.rowsOf v.link = [] := by
      by_contra hrows
      exact hnone (isSome_config?.mpr hrows)
    rw [List.map_append, List.nodup_append]
    refine ⟨h, by simp, ?_⟩
    intro link hold link' hnew
    obtain ⟨c, hc, rfl⟩ := List.mem_map.mp hold
    have hnew : link' = v.link := by simpa using hnew
    rintro heq
    have hmem : c ∈ db.rowsOf v.link := mem_rowsOf.mpr ⟨hc, heq.trans hnew⟩
    rw [hrows] at hmem
    cases hmem

theorem LinksDistinct.putAll (h : db.LinksDistinct) (vs : List ConfigValues) :
    (db.putAll vs).LinksDistinct := by
  induction vs generalizing db with
  | nil => exact h
  | cons v vs ih => exact ih (h.put v)

/-! ## The times of subscriptions -/

/-- The tables with a time noted at several subscriptions. -/
def stamped (db : Database) (ids : List Int) (t : Instant) : Database :=
  { db with
    subscriptions := db.subscriptions.map fun s =>
      if s.id ∈ ids then { s with lastFetchedAt := some t } else s }

variable {t : Instant}

@[simp] theorem stamped_nil : db.stamped [] t = db := by
  simp [stamped]

@[simp] theorem stamped_numbersLeft (ids : List Int) :
    (db.stamped ids t).numbersLeft = db.numbersLeft := rfl

@[simp] theorem stamped_ids (ids : List Int) :
    (db.stamped ids t).subscriptions.map Subscription.id =
      db.subscriptions.map Subscription.id := by
  simp only [stamped, List.map_map]
  apply List.map_congr_left
  intro s _
  simp only [Function.comp]
  split <;> rfl

theorem stamped_append (ids ids' : List Int) :
    db.stamped (ids ++ ids') t = (db.stamped ids t).stamped ids' t := by
  simp only [stamped, List.map_map, mk.injEq, and_true]
  apply List.map_congr_left
  intro s _
  by_cases h : s.id ∈ ids <;> by_cases h' : s.id ∈ ids' <;> simp [h, h']

theorem setFetched_eq (id : Int) : db.setFetched id (some t) = db.stamped [id] t := by
  simp [setFetched, stamped]

theorem putAll_stamped (ids : List Int) (vs : List ConfigValues) :
    (db.stamped ids t).putAll vs = (db.putAll vs).stamped ids t := by
  induction vs generalizing db with
  | nil => rfl
  | cons v vs ih => exact @ih (db.put v)

end Database

end LinkHarvest
