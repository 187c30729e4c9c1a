import LinkHarvest.Proofs.Store.Rows

/-!
# The same upserts again

Upserts that were made once are made a second time, at another time. Owners may have changed back
and forth while the first ones were made, and do so again, but every column ends where it was: the
second upserts change the time at which the links were last seen, and nothing else
(`putAll_again`).
-/

namespace LinkHarvest

/-- The values as they are upserted at another time. -/
def ConfigValues.retimed (v : ConfigValues) (later : Instant) : ConfigValues :=
  { v with addedAt := later, lastSeenAt := later }

namespace Database

variable {db : Database} {v : ConfigValues} {vs ws : List ConfigValues} {c : Config}
  {later : Instant} {link : Text}

def valuesOf (vs : List ConfigValues) (link : Text) : List ConfigValues :=
  vs.filter fun v => v.link = link

theorem valuesOf_eq_nil : valuesOf vs link = [] ↔ link ∉ vs.map ConfigValues.link := by
  rw [valuesOf, List.filter_eq_nil_iff, List.mem_map]
  simp only [decide_eq_true_eq]
  exact ⟨fun h ⟨v, hv, hlink⟩ => h v hv hlink, fun h v hv hlink => h ⟨v, hv, hlink⟩⟩

theorem valuesOf_retimed :
    valuesOf (vs.map (·.retimed later)) link =
      (valuesOf vs link).map (·.retimed later) := by
  unfold valuesOf
  rw [List.filter_map]
  rfl

/-! ## Rows that are there -/

theorem rowsOf_put_ne_nil (h : db.rowsOf link ≠ []) : (db.put v).rowsOf link ≠ [] := by
  by_cases hlink : v.link = link
  · subst hlink
    rw [rowsOf_put_old h]
    simpa using h
  · rw [rowsOf_put_of_ne hlink]
    exact h

theorem put_of_old (h : db.rowsOf v.link ≠ []) :
    (db.put v).configs = db.configs.map fun c => if c.link = v.link then refreshed c v else c := by
  have hsome : (db.config? v.link).isSome = true := isSome_config?.mpr h
  unfold put
  exact if_pos hsome

theorem putAll_of_old (h : ∀ v ∈ vs, db.rowsOf v.link ≠ []) :
    (db.putAll vs).configs = db.configs.map fun c => refreshedBy (valuesOf vs c.link) c := by
  induction vs generalizing db with
  | nil => exact (List.map_id _).symm
  | cons v vs ih =>
    obtain ⟨hv, hvs⟩ := List.forall_mem_cons.mp h
    rw [putAll_cons, ih fun w hw => rowsOf_put_ne_nil (hvs w hw), put_of_old hv, List.map_map]
    apply List.map_congr_left
    intro c _
    show refreshedBy (valuesOf vs (if c.link = v.link then refreshed c v else c).link)
      (if c.link = v.link then refreshed c v else c) = refreshedBy (valuesOf (v :: vs) c.link) c
    by_cases hlink : c.link = v.link
    · have hvalues : valuesOf (v :: vs) c.link = v :: valuesOf vs c.link :=
        List.filter_cons_of_pos (by simp [hlink])
      rw [if_pos hlink, hvalues]
      rfl
    · have hvalues : valuesOf (v :: vs) c.link = valuesOf vs c.link :=
        List.filter_cons_of_neg (by simpa using Ne.symm hlink)
      rw [if_neg hlink, hvalues]

/-! ## A row that is refreshed twice -/

theorem lastGiven_retimed {α : Type} {column : ConfigValues → Option α}
    (h : ∀ v, column (ConfigValues.retimed v later) = column v) :
    lastGiven column (vs.map (·.retimed later)) = lastGiven column vs := by
  unfold lastGiven
  rw [List.filterMap_map]
  congr 2
  funext v
  exact h v

theorem lastGiven_time (hne : vs ≠ []) :
    lastGiven (some ∘ ConfigValues.lastSeenAt) (vs.map (·.retimed later)) =
      some later := by
  obtain ⟨init, v, rfl⟩ := List.eq_nil_or_concat' vs |>.resolve_left hne
  rw [List.map_append, List.map_singleton, lastGiven_concat]
  rfl

theorem refreshedBy_self (vs : List ConfigValues) (c : Config) :
    refreshedBy vs (refreshedBy vs c) = refreshedBy vs c := by
  have hidem : ∀ {α : Type} (given old : Option α),
      (given.orElse fun _ => given.orElse fun _ => old) = given.orElse fun _ => old := by
    intro α given old
    cases given <;> rfl
  have htime : ∀ (given : Option Instant) (old : Instant),
      given.getD (given.getD old) = given.getD old := by
    intro given old
    cases given <;> rfl
  rw [refreshedBy_eq, refreshedBy_eq vs]
  simp only [hidem, htime]

/-- A row that was refreshed by some values is refreshed by them at another time: only this time is
new to it. -/
theorem refreshedBy_again (hne : vs ≠ []) :
    refreshedBy (vs.map (·.retimed later)) (refreshedBy vs c) =
      { refreshedBy vs c with lastSeenAt := later } := by
  have hretimed : refreshedBy (vs.map (·.retimed later)) (refreshedBy vs c) =
      { refreshedBy vs (refreshedBy vs c) with lastSeenAt := later } := by
    rw [refreshedBy_eq, refreshedBy_eq vs (refreshedBy vs c), lastGiven_time hne,
      lastGiven_retimed fun _ => rfl, lastGiven_retimed fun _ => rfl, lastGiven_retimed fun _ => rfl]
    rfl
  rw [hretimed, refreshedBy_self]

/-! ## All rows -/

theorem rowsOf_putAll_ne_nil (h : link ∈ vs.map ConfigValues.link) :
    (db.putAll vs).rowsOf link ≠ [] := by
  obtain ⟨id, -, hrows⟩ := db.rowsOf_putAll vs link
  have hvalues : valuesOf vs link ≠ [] := fun hnil => valuesOf_eq_nil.mp hnil h
  rw [hrows, Ne, List.map_eq_nil_iff]
  show seeds id (db.rowsOf link) (valuesOf vs link) ≠ []
  obtain ⟨v, rest, hcons⟩ := List.exists_cons_of_ne_nil hvalues
  rw [hcons]
  unfold seeds
  split
  · exact List.cons_ne_nil _ _
  · assumption

theorem exists_refreshedBy_of_mem (hc : c ∈ (db.putAll vs).configs) :
    ∃ old, c = refreshedBy (valuesOf vs c.link) old := by
  have hrow : c ∈ (db.putAll vs).rowsOf c.link := mem_rowsOf.mpr ⟨hc, rfl⟩
  obtain ⟨id, -, hrows⟩ := db.rowsOf_putAll vs c.link
  rw [hrows] at hrow
  obtain ⟨old, -, hold⟩ := List.mem_map.mp hrow
  exact ⟨old, hold.symm⟩

theorem putAll_putAll (h : ∀ w ∈ ws, w.link ∈ vs.map ConfigValues.link) :
    ((db.putAll vs).putAll ws).configs =
      (db.putAll vs).configs.map fun c => refreshedBy (valuesOf ws c.link) c :=
  putAll_of_old fun w hw => rowsOf_putAll_ne_nil (h w hw)

/-- **Upserts that say again what was said of every link leave the rows as they are.** -/
theorem putAll_settled (h : ∀ w ∈ ws, w.link ∈ vs.map ConfigValues.link)
    (hsame : ∀ link c, refreshedBy (valuesOf ws link) c = refreshedBy (valuesOf vs link) c) :
    ((db.putAll vs).putAll ws).configs = (db.putAll vs).configs := by
  rw [putAll_putAll h]
  refine (List.map_congr_left fun c hc => ?_).trans (List.map_id _)
  obtain ⟨old, hrow⟩ := exists_refreshedBy_of_mem hc
  have hself := refreshedBy_self (valuesOf vs c.link) old
  rw [← hrow] at hself
  rw [hsame, hself]
  rfl

/-- **The same upserts again change the times of their links only.** -/
theorem putAll_again (db : Database) (vs : List ConfigValues) (later : Instant) :
    ((db.putAll vs).putAll (vs.map (·.retimed later))).configs =
      (db.putAll vs).configs.map fun c =>
        if c.link ∈ vs.map ConfigValues.link then { c with lastSeenAt := later } else c := by
  have hlinks : ∀ w ∈ vs.map (·.retimed later), w.link ∈ vs.map ConfigValues.link := by
    intro w hw
    obtain ⟨v, hv, rfl⟩ := List.mem_map.mp hw
    have hlink : v.link ∈ vs.map ConfigValues.link := List.mem_map_of_mem hv
    exact hlink
  rw [putAll_putAll hlinks]
  apply List.map_congr_left
  intro c hc
  rw [valuesOf_retimed]
  by_cases hlink : c.link ∈ vs.map ConfigValues.link
  · rw [if_pos hlink]
    obtain ⟨old, hrow⟩ := exists_refreshedBy_of_mem hc
    have hvalues : valuesOf vs c.link ≠ [] := fun hnil => valuesOf_eq_nil.mp hnil hlink
    have hagain := @refreshedBy_again _ old later hvalues
    rw [← hrow] at hagain
    exact hagain
  · rw [if_neg hlink, valuesOf_eq_nil.mpr hlink]
    rfl

end Database

end LinkHarvest
