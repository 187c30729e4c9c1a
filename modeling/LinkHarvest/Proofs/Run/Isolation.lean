import LinkHarvest.Proofs.Retrieval.Routes
import LinkHarvest.Proofs.Run.Orders

/-!
# Sources do not see each other

Two runs that differ in what one source is served, and take the same turns, treat all other sources
alike (`fanOut_isolates`): the other sources have the same outcomes, other subscriptions are the
same, and so are the rows of the links that this source serves in neither run. Numbers have to be
left for the rows of both runs, since a number that one source uses up is lost to the others. The
other workers go through the same phases at the same times, so that what they write comes in the
same order (`Paired`).
-/

namespace LinkHarvest

namespace Run

open Fallible Database

def Setting.rerouted (setting : Setting) (routes : Http.Routes) : Setting := { setting with routes }

/-- The URLs that a source sends requests to. -/
def Source.visited (setting : Setting) (options : Options.FetchOptions) (s : State)
    (source : Source) : List Text :=
  (Retrieval.fetch setting.routes setting.method s.clients
    ((Job.mk source []).request setting options)).sent.map Http.Sent.url

variable {setting : Setting} {options : Options.FetchOptions} {s : State} {source : Source}
  {routes : Http.Routes}

/-! ## A source in another network -/

theorem Source.served_rerouted
    (h : ∀ url ∈ source.visited setting options s,
      setting.routes.answer url = routes.answer url) :
    source.served (setting.rerouted routes) options s = source.served setting options s := by
  have hfetch := Retrieval.fetch_congr_routes h
  unfold served
  rw [hfetch]
  rfl

section served

variable (h : source.served (setting.rerouted routes) options s = source.served setting options s)

include h

theorem Source.verdict_rerouted :
    source.verdict (setting.rerouted routes) options s = source.verdict setting options s := by
  unfold verdict
  rw [h]
  rfl

theorem Source.writes_rerouted :
    source.writes (setting.rerouted routes) options s = source.writes setting options s := by
  unfold writes
  rw [h]
  rfl

theorem Source.marks_rerouted :
    source.marks (setting.rerouted routes) options s = source.marks setting options s := by
  unfold marks
  rw [h]
  rfl

end served

/-! ## The phases of a source -/

/-- The phase that follows one that a source can have come to. -/
def Phase.next (setting : Setting) (options : Options.FetchOptions) (s : State) (source : Source) :
    Phase → Phase
  | .waiting =>
    match source.served setting options s with
    | .error _ => .finished (source.verdict setting options s)
    | .ok lines => .fetched lines
  | .fetched lines =>
    match source.rows setting s lines with
    | .error _ => .finished (source.verdict setting options s)
    | .ok _ => .stored lines.length (source.drafts setting lines)
  | .stored _ _ => .finished (source.verdict setting options s)
  | .finished result => .finished result

theorem Phase.next_rerouted
    (h : source.served (setting.rerouted routes) options s = source.served setting options s)
    (phase : Phase) :
    phase.next (setting.rerouted routes) options s source =
      phase.next setting options s source := by
  have hverdict := Source.verdict_rerouted h
  cases phase with
  | waiting =>
    unfold next
    rw [h, hverdict]
  | fetched lines =>
    have hrows : source.rows (setting.rerouted routes) s lines = source.rows setting s lines := rfl
    unfold next
    dsimp only
    rw [hrows, hverdict]
    rfl
  | stored rawCount configs =>
    unfold next
    rw [hverdict]
  | finished result => rfl

theorem Job.advance_phase {j : Job} {t : State} {phase : Phase}
    (hframe : t.frame options.proxy = s.frame options.proxy)
    (hleft : Store.SameNumbers (phase.pending setting options s j.source) s.store t.store)
    (hdue : phase.Due setting options s j.source) :
    (j.advance setting options phase t).1 = phase.next setting options s j.source := by
  cases phase with
  | waiting =>
    rw [advance, fetch_phase, Source.served_congr hframe, Phase.next, Source.verdict]
    cases j.source.served setting options s <;> rfl
  | fetched lines =>
    have hserved : j.source.served setting options s = .ok lines := hdue
    rw [advance, store_phase, ← Source.rows_congr_of_served hframe.symm hserved hleft, Phase.next,
      Source.verdict, hserved]
    dsimp only
    cases j.source.rows setting s lines with
    | ok rows => rfl
    | error p =>
      dsimp only
      split <;> rfl
  | stored rawCount configs =>
    obtain ⟨lines, rows, hserved, hrows, rfl, rfl⟩ := hdue
    have hstored : ∀ d ∈ j.source.drafts setting lines, Store.Stored t.store setting.now d :=
      fun d hd => ((Source.rows_eq_ok hrows).2.2 d hd).congr (State.frame_store hframe.symm)
    rw [advance, mark_phase _ hstored, Phase.next, Source.verdict, hserved]
    dsimp only
    rw [hrows]
  | finished result => rfl

def Worker.next (setting : Setting) (options : Options.FetchOptions) (s : State) (w : Worker) :
    Worker :=
  match w.phase with
  | .finished _ => { w with collected := true }
  | phase => { w with phase := phase.next setting options s w.job.source }

theorem Worker.step_fst {w : Worker} {i : Nat} {p : Progress}
    (hframe : p.state.frame options.proxy = s.frame options.proxy)
    (hleft : Store.SameNumbers (w.phase.pending setting options s w.job.source) s.store
      p.state.store)
    (hdue : w.phase.Due setting options s w.job.source) :
    (w.step setting options i p).1 = w.next setting options s := by
  by_cases hphase : ∃ result, w.phase = .finished result
  · obtain ⟨result, hphase⟩ := hphase
    have hnext : w.next setting options s = { w with collected := true } := by
      unfold next
      rw [hphase]
    rw [hnext]
    cases hcollected : w.collected with
    | true =>
      rw [step_done hphase hcollected, ← hcollected]
    | false => rw [step_collect hphase hcollected]
  · have hnext : w.next setting options s =
        { w with phase := w.phase.next setting options s w.job.source } := by
      unfold next
      split
      · exact absurd ⟨_, by assumption⟩ hphase
      · rfl
    rw [step_advance fun result hresult => hphase ⟨result, hresult⟩, hnext]
    dsimp only
    rw [Job.advance_phase hframe hleft hdue]

theorem Worker.next_rerouted {w : Worker}
    (h : w.job.source.served (setting.rerouted routes) options s =
      w.job.source.served setting options s) :
    w.next (setting.rerouted routes) options s = w.next setting options s := by
  unfold next
  split
  · rfl
  · rw [Phase.next_rerouted h]

theorem Worker.rows_rerouted {w : Worker}
    (h : w.job.source.served (setting.rerouted routes) options s =
      w.job.source.served setting options s) :
    w.rows (setting.rerouted routes) options s = w.rows setting options s := by
  unfold rows Phase.written
  rw [Source.writes_rerouted h]

theorem Worker.rows_subset (w : Worker) :
    w.rows setting options s ⊆ w.job.source.writes setting options s := by
  unfold rows
  cases w.phase with
  | waiting => exact List.nil_subset _
  | fetched lines => exact List.nil_subset _
  | stored rawCount configs => exact List.Subset.refl _
  | finished result => exact List.Subset.refl _

@[simp] theorem Worker.next_job (w : Worker) : (w.next setting options s).job = w.job := by
  unfold next
  split <;> rfl

/-! ## What a step writes -/

/-- The store of a pool in which some rows were written, in this order. -/
def Wrote (setting : Setting) (s : State) (p : Pool) (rows : List ConfigValues) : Prop :=
  ∃ ids, p.progress.state.store =
    { s.store with database := (s.store.database.putAll rows).stamped ids setting.now }

variable {sources : List Source} {p p' : Pool} {rows rows' : List ConfigValues} {i j : Nat}
  {w : Worker}

theorem Held.step_wrote (h : Held setting options s sources p)
    (hnumbers : NumbersLeft setting options s sources)
    (hverdicts : ∀ source ∈ sources, ∃ o, source.verdict setting options s = .ok o)
    (hw : p.workers[i]? = some w) (hwrote : Wrote setting s p rows) :
    (p.step setting options i).workers = p.workers.set i (w.next setting options s) ∧
      ∃ more, (w.next setting options s).rows setting options s =
          w.rows setting options s ++ more ∧
        Wrote setting s (p.step setting options i) (rows ++ more) := by
  have hmem : w ∈ p.workers := List.mem_of_getElem? hw
  obtain ⟨o, ho⟩ := hverdicts _ (h.source_mem hmem)
  have hleft := h.sameNumbers hnumbers hmem
  have hstep := @Worker.step_stepped setting options s i w p.progress o h.frame hleft (h.due w hmem)
    (h.finished w hmem) ho
  have hnext := @Worker.step_fst setting options s w i p.progress h.frame hleft (h.due w hmem)
  obtain ⟨more, moreIds, moreEs, hrows, -, -, hstore, -⟩ := hstep.contributions
  obtain ⟨ids, hids⟩ := hwrote
  rw [hnext] at hrows
  rw [Pool.step_of_getElem? hw, hnext]
  refine ⟨rfl, more, hrows, ids ++ moreIds, ?_⟩
  dsimp only
  rw [hstore, hids, putAll_append, stamped_append, putAll_stamped]

theorem Pool.step_of_none (hw : p.workers[i]? = none) : p.step setting options i = p := by
  unfold step
  rw [hw]

/-! ## Two runs -/

/-- What two runs have in common that differ in the source at `j`: the other workers, and the rows
for some links, in their order. -/
structure Paired (setting : Setting) (s : State) (j : Nat) (clear : Text → Prop)
    (p p' : Pool) : Prop where
  workers : ∀ i, i ≠ j → p.workers[i]? = p'.workers[i]?
  wrote : ∃ rows rows', Wrote setting s p rows ∧ Wrote setting s p' rows' ∧
    ∀ link, clear link → rows.filter (·.link = link) = rows'.filter (·.link = link)

theorem filter_append_of_clear {link : Text} {more : List ConfigValues}
    (h : ∀ v ∈ more, v.link ≠ link) :
    (rows ++ more).filter (·.link = link) = rows.filter (·.link = link) := by
  have hmore : more.filter (fun v => decide (v.link = link)) = [] :=
    List.filter_eq_nil_iff.mpr fun v hv => by simpa using h v hv
  rw [List.filter_append, hmore, List.append_nil]

section paired

variable {clear : Text → Prop} (hnumbers : NumbersLeft setting options s sources)
  (hnumbers' : NumbersLeft (setting.rerouted routes) options s sources)
  (hverdicts : ∀ source ∈ sources, ∃ o, source.verdict setting options s = .ok o)
  (hverdicts' : ∀ source ∈ sources, ∃ o,
    source.verdict (setting.rerouted routes) options s = .ok o)

include hnumbers hverdicts in
/-- A step of the source at `j` writes no row for a clear link. -/
theorem Held.step_clear (h : Held setting options s sources p)
    (hclear : ∀ source, sources[j]? = some source → ∀ link, clear link →
      ∀ v ∈ source.writes setting options s, v.link ≠ link)
    (hwrote : Wrote setting s p rows) :
    (∀ i, i ≠ j → (p.step setting options j).workers[i]? = p.workers[i]?) ∧
      ∃ after, Wrote setting s (p.step setting options j) after ∧
        ∀ link, clear link → after.filter (·.link = link) = rows.filter (·.link = link) := by
  cases hw : p.workers[j]? with
  | none =>
    rw [Pool.step_of_none hw]
    exact ⟨fun _ _ => rfl, rows, hwrote, fun _ _ => rfl⟩
  | some w =>
    obtain ⟨hworkers, more, hmore, hafter⟩ := h.step_wrote hnumbers hverdicts hw hwrote
    refine ⟨?_, rows ++ more, hafter, ?_⟩
    · intro i hi
      rw [hworkers, List.getElem?_set_ne (Ne.symm hi)]
    · intro link hlink
      apply filter_append_of_clear
      intro v hv
      apply hclear w.job.source (h.source_getElem? hw) link hlink v
      have hsubset := @Worker.rows_subset setting options s (w.next setting options s)
      rw [Worker.next_job] at hsubset
      apply hsubset
      rw [hmore]
      exact List.mem_append_right _ hv

include hnumbers hnumbers' hverdicts hverdicts' in
/-- **A step keeps what two runs have in common.** -/
theorem Paired.step (hp : Held setting options s sources p)
    (hp' : Held (setting.rerouted routes) options s sources p')
    (hothers : ∀ i source, i ≠ j → sources[i]? = some source →
      source.served (setting.rerouted routes) options s = source.served setting options s)
    (hclear : ∀ source, sources[j]? = some source → ∀ link, clear link →
      (∀ v ∈ source.writes setting options s, v.link ≠ link) ∧
        ∀ v ∈ source.writes (setting.rerouted routes) options s, v.link ≠ link)
    (h : Paired setting s j clear p p') (i : Nat) :
    Paired setting s j clear (p.step setting options i)
      (p'.step (setting.rerouted routes) options i) := by
  obtain ⟨rows, rows', hwrote, hwrote', hsame⟩ := h.wrote
  by_cases hij : i = j
  -- The source at `j` may write other rows in the two runs, but none for a clear link.
  · subst hij
    obtain ⟨hworkers, after, hafter, hfilter⟩ := hp.step_clear hnumbers hverdicts
      (fun source hsource link hlink => (hclear source hsource link hlink).1) hwrote
    obtain ⟨hworkers', after', hafter', hfilter'⟩ := hp'.step_clear hnumbers' hverdicts'
      (fun source hsource link hlink => (hclear source hsource link hlink).2) hwrote'
    refine ⟨?_, after, after', hafter, hafter', ?_⟩
    · intro k hk
      rw [hworkers k hk, hworkers' k hk, h.workers k hk]
    · intro link hlink
      rw [hfilter link hlink, hfilter' link hlink, hsame link hlink]
  -- Any other worker is the same in both runs, takes the same step and writes the same rows.
  · have hsameWorker := h.workers i hij
    cases hw : p.workers[i]? with
    | none =>
      rw [Pool.step_of_none hw, Pool.step_of_none (hsameWorker ▸ hw)]
      exact h
    | some w =>
      have hw' : p'.workers[i]? = some w := hsameWorker ▸ hw
      have hserved := hothers i w.job.source hij (hp.source_getElem? hw)
      obtain ⟨hworkers, more, hmore, hafter⟩ := hp.step_wrote hnumbers hverdicts hw hwrote
      obtain ⟨hworkers', more', hmore', hafter'⟩ := hp'.step_wrote hnumbers' hverdicts' hw' hwrote'
      have hnext := Worker.next_rerouted hserved
      have hnextServed : (w.next setting options s).job.source.served (setting.rerouted routes)
          options s = (w.next setting options s).job.source.served setting options s := by
        rw [Worker.next_job]
        exact hserved
      have heq : more = more' := by
        rw [hnext, Worker.rows_rerouted hnextServed, Worker.rows_rerouted hserved, hmore] at hmore'
        exact List.append_cancel_left hmore'
      subst heq
      refine ⟨?_, rows ++ more, rows' ++ more, hafter, hafter', ?_⟩
      · intro k hk
        rw [hworkers, hworkers', hnext]
        by_cases hki : k = i
        · subst hki
          rw [Pool.getElem?_set_of_some hw, Pool.getElem?_set_of_some hw']
        · rw [List.getElem?_set_ne (Ne.symm hki), List.getElem?_set_ne (Ne.symm hki),
            h.workers k hk]
      · intro link hlink
        rw [List.filter_append, List.filter_append, hsame link hlink]

include hnumbers hnumbers' hverdicts hverdicts' in
theorem Paired.run (hp : Held setting options s sources p)
    (hp' : Held (setting.rerouted routes) options s sources p')
    (hothers : ∀ i source, i ≠ j → sources[i]? = some source →
      source.served (setting.rerouted routes) options s = source.served setting options s)
    (hclear : ∀ source, sources[j]? = some source → ∀ link, clear link →
      (∀ v ∈ source.writes setting options s, v.link ≠ link) ∧
        ∀ v ∈ source.writes (setting.rerouted routes) options s, v.link ≠ link)
    (h : Paired setting s j clear p p') (schedule : List Nat) :
    Paired setting s j clear (p.run setting options schedule)
      (p'.run (setting.rerouted routes) options schedule) := by
  induction schedule generalizing p p' with
  | nil => exact h
  | cons i schedule ih =>
    exact ih (hp.step hnumbers hverdicts i) (hp'.step hnumbers' hverdicts' i)
      (h.step hnumbers hnumbers' hverdicts hverdicts' hp hp' hothers hclear i)

end paired

theorem Paired.start {clear : Text → Prop} :
    Paired setting s j clear (Pool.start options sources s) (Pool.start options sources s) := by
  have hwrote : Wrote setting s (Pool.start options sources s) [] := by
    refine ⟨[], ?_⟩
    rw [putAll_nil, stamped_nil]
    rfl
  exact ⟨fun _ _ => rfl, [], [], hwrote, hwrote, fun _ _ => rfl⟩

/-! ## Isolation -/

def Source.serves (setting : Setting) (options : Options.FetchOptions) (s : State)
    (source : Source) (link : Text) : Prop :=
  ∃ lines, source.served setting options s = .ok lines ∧ link ∈ lines

theorem Source.serves_of_mem_writes {v : ConfigValues}
    (hv : v ∈ source.writes setting options s) : source.serves setting options s v.link := by
  cases hserved : source.served setting options s with
  | error p =>
    rw [writes_of_unserved hserved] at hv
    cases hv
  | ok lines =>
    rw [writes_of_served hserved] at hv
    cases hrows : source.rows setting s lines with
    | error p =>
      rw [hrows] at hv
      cases hv
    | ok rows =>
      rw [hrows, (Source.rows_eq_ok hrows).1] at hv
      obtain ⟨d, hd, rfl⟩ := List.mem_map.mp hv
      obtain ⟨link, hlink, rfl⟩ := List.mem_map.mp hd
      have hkept := @Job.draft_kept setting link source.subscription
      rw [hkept.values_link]
      exact ⟨lines, hserved, Retrieval.mem_firsts.mp hlink⟩

/-- A link that a source serves in neither of two networks. -/
def Source.Omits (setting : Setting) (routes : Http.Routes) (options : Options.FetchOptions)
    (s : State) (source : Source) (link : Text) : Prop :=
  ¬source.serves setting options s link ∧ ¬source.serves (setting.rerouted routes) options s link

/-- Two runs that start from the store `s` and differ in the source at `j` treat all other sources
alike. -/
structure Isolated (s : Store) (j : Nat) (source : Source) (clear : Text → Prop)
    (a b : Part BatchResult) : Prop where
  outcomes : ∃ r r', a.1 = .ok r ∧ b.1 = .ok r' ∧ ∀ i, i ≠ j → r.outcomes[i]? = r'.outcomes[i]?
  subscriptions :
    (a.2.store.database.subscriptions.filter fun sub => source.subscription ≠ some sub.id) =
      b.2.store.database.subscriptions.filter fun sub => source.subscription ≠ some sub.id
  rows : ∀ link, clear link → List.Forall₂ (UpToNumber (s.database.rowsOf link ≠ []))
    (a.2.store.database.rowsOf link) (b.2.store.database.rowsOf link)

theorem interleaved_snd (hworkers : WorkersInRange options) (schedule : List Nat) :
    (interleaved setting options sources schedule s).2 =
      ((Pool.start options sources s).run setting options schedule).progress.state := by
  unfold interleaved
  rw [workersFor_eq hworkers]
  dsimp only
  split <;> rfl

theorem filter_stamped {db : Database} {ids ids' : List Int} {t : Instant} {owner : Option Int}
    (h : ∀ id, owner ≠ some id → (id ∈ ids ↔ id ∈ ids')) :
    ((db.stamped ids t).subscriptions.filter fun sub => owner ≠ some sub.id) =
      (db.stamped ids' t).subscriptions.filter fun sub => owner ≠ some sub.id := by
  have hfilter : ∀ ids : List Int,
      (db.stamped ids t).subscriptions.filter (fun sub => decide (owner ≠ some sub.id)) =
        (db.subscriptions.filter fun sub => decide (owner ≠ some sub.id)).map fun sub =>
          if sub.id ∈ ids then { sub with lastFetchedAt := some t } else sub := by
    intro ids
    rw [stamped, List.filter_map]
    congr 2
    funext sub
    simp only [Function.comp]
    split <;> rfl
  rw [hfilter, hfilter]
  refine List.map_congr_left fun sub hsub => if_congr (h sub.id ?_) rfl rfl
  simpa using (List.mem_filter.mp hsub).2

theorem subscription_of_mem_marks {o : Outcome} (h : source.verdict setting options s = .ok o)
    {id : Int} (hid : id ∈ source.marks setting options s) : source.subscription = some id := by
  have heffected := @effected_of_verdict setting options s ⟨source, s⟩ o rfl h
  rw [← heffected.subscription]
  exact ((heffected.marks id).mp hid).2.2.1

section isolation

variable {url : Text} {os os' : List Outcome}

theorem outcomes_isolated
    (hothers : ∀ i source, i ≠ j → sources[i]? = some source →
      source.served (setting.rerouted routes) options s = source.served setting options s)
    (hos : sources.mapM (Source.verdict setting options s) = .ok os)
    (hos' : sources.mapM (Source.verdict (setting.rerouted routes) options s) = .ok os')
    (hij : i ≠ j) : os[i]? = os'[i]? := by
  rw [getElem?_of_mapM_eq_ok hos, getElem?_of_mapM_eq_ok hos']
  cases hsource : sources[i]? with
  | none => rw [Option.bind_none, Option.bind_none]
  | some source =>
    rw [Option.bind_some, Option.bind_some,
      Source.verdict_rerouted (hothers i source hij hsource)]

theorem marks_isolated (hj : sources[j]? = some source)
    (hothers : ∀ i source, i ≠ j → sources[i]? = some source →
      source.served (setting.rerouted routes) options s = source.served setting options s)
    (hverdicts : ∀ source ∈ sources, ∃ o, source.verdict setting options s = .ok o)
    (hverdicts' : ∀ source ∈ sources, ∃ o,
      source.verdict (setting.rerouted routes) options s = .ok o)
    {id : Int} (hid : source.subscription ≠ some id) :
    id ∈ sources.flatMap (Source.marks setting options s) ↔
      id ∈ sources.flatMap (Source.marks (setting.rerouted routes) options s) := by
  simp only [List.mem_flatMap]
  refine exists_congr fun other => and_congr_right fun hother => ?_
  obtain ⟨i, hi⟩ := List.mem_iff_getElem?.mp hother
  by_cases hij : i = j
  · obtain rfl : source = other := by
      rw [hij, hj] at hi
      exact Option.some.inj hi
    obtain ⟨o, ho⟩ := hverdicts source hother
    obtain ⟨o', ho'⟩ := hverdicts' source hother
    exact ⟨fun h => absurd (subscription_of_mem_marks ho h) hid,
      fun h => absurd (subscription_of_mem_marks ho' h) hid⟩
  · rw [Source.marks_rerouted (hothers i other hij hi)]

theorem Source.Omits.clear (hj : sources[j]? = some source) :
    ∀ other, sources[j]? = some other → ∀ link, source.Omits setting routes options s link →
      (∀ v ∈ other.writes setting options s, v.link ≠ link) ∧
        ∀ v ∈ other.writes (setting.rerouted routes) options s, v.link ≠ link := by
  intro other hother link hlink
  obtain rfl : source = other := Option.some.inj (hj.symm.trans hother)
  constructor
  · rintro v hv rfl
    exact hlink.1 (serves_of_mem_writes hv)
  · rintro v hv rfl
    exact hlink.2 (serves_of_mem_writes hv)

/-- Two runs that take the same turns. -/
theorem interleaved_isolated (hworkers : WorkersInRange options) (hj : sources[j]? = some source)
    (hothers : ∀ i source, i ≠ j → sources[i]? = some source →
      source.served (setting.rerouted routes) options s = source.served setting options s)
    (hnumbers : NumbersLeft setting options s sources)
    (hnumbers' : NumbersLeft (setting.rerouted routes) options s sources)
    (hos : sources.mapM (Source.verdict setting options s) = .ok os)
    (hos' : sources.mapM (Source.verdict (setting.rerouted routes) options s) = .ok os')
    {schedule : List Nat} (hcompletes : Completes setting options sources s schedule)
    (hcompletes' : Completes (setting.rerouted routes) options sources s schedule) :
    Isolated s.store j source (source.Omits setting routes options s)
      (interleaved setting options sources schedule s)
      (interleaved (setting.rerouted routes) options sources schedule s) := by
  have hverdicts : ∀ source ∈ sources, ∃ o, source.verdict setting options s = .ok o :=
    fun source hsource => ok_of_mem_of_mapM_eq_ok hos hsource
  have hverdicts' : ∀ source ∈ sources, ∃ o,
      source.verdict (setting.rerouted routes) options s = .ok o :=
    fun source hsource => ok_of_mem_of_mapM_eq_ok hos' hsource
  obtain ⟨hresult, rows, ids, -, hids, hstore⟩ :=
    interleaved_complete hworkers hnumbers hos hcompletes
  obtain ⟨hresult', rows', ids', -, hids', hstore'⟩ :=
    interleaved_complete hworkers hnumbers' hos' hcompletes'
  refine ⟨⟨_, _, hresult, hresult', ?_⟩, ?_, ?_⟩
  · intro i hij
    rw [BatchResult.ofOutcomes_outcomes, BatchResult.ofOutcomes_outcomes]
    exact outcomes_isolated hothers hos hos' hij
  · rw [hstore, hstore']
    dsimp only
    rw [← putAll_stamped, ← putAll_stamped, putAll_subscriptions, putAll_subscriptions]
    apply filter_stamped
    intro id hid
    rw [hids.mem_iff, hids'.mem_iff]
    exact marks_isolated hj hothers hverdicts hverdicts' hid
  · intro link hlink
    obtain ⟨rows, rows', ⟨ids, hwrote⟩, ⟨ids', hwrote'⟩, hsame⟩ := (Paired.start.run hnumbers
      hnumbers' hverdicts hverdicts' (Held.start sources) (Held.start sources) hothers
      (Source.Omits.clear hj) schedule).wrote
    rw [interleaved_snd hworkers, interleaved_snd hworkers, hwrote, hwrote']
    exact rowsOf_putAll_congr s.store.database (hsame link hlink)

/-- **Sources do not see each other.** When the answer for one URL changes and only the source at
`j` sends requests to it, all other sources are treated alike, whatever turns the sources take, as
long as numbers are left for the rows of both runs. -/
theorem fanOut_isolates (hworkers : WorkersInRange options) (hclock : setting.ClockInRange)
    (hfits : ∀ source ∈ sources, source.Fits) (hj : sources[j]? = some source)
    (hroutes : ∀ other, other ≠ url → setting.routes.answer other = routes.answer other)
    (hothers : ∀ i other, i ≠ j → sources[i]? = some other →
      url ∉ other.visited setting options s)
    (hremarks : ∀ source ∈ sources, source.RemarksStorable setting options s)
    (hremarks' : source.RemarksStorable (setting.rerouted routes) options s)
    (hnumbers : NumbersLeft setting options s sources)
    (hnumbers' : NumbersLeft (setting.rerouted routes) options s sources) :
    Isolated s.store j source (source.Omits setting routes options s)
        (fanOut setting options sources s) (fanOut (setting.rerouted routes) options sources s) ∧
      ∀ schedule, Completes setting options sources s schedule →
        Completes (setting.rerouted routes) options sources s schedule →
        Isolated s.store j source (source.Omits setting routes options s)
          (interleaved setting options sources schedule s)
          (interleaved (setting.rerouted routes) options sources schedule s) := by
  have hserved : ∀ i other, i ≠ j → sources[i]? = some other →
      other.served (setting.rerouted routes) options s = other.served setting options s := by
    intro i other hij hother
    apply Source.served_rerouted
    intro v hv
    apply hroutes v
    rintro rfl
    exact hothers i other hij hother hv
  have hstorable : ∀ other ∈ sources,
      other.RemarksStorable (setting.rerouted routes) options s := by
    intro other hother
    obtain ⟨i, hi⟩ := List.mem_iff_getElem?.mp hother
    by_cases hij : i = j
    · rw [hij, hj] at hi
      exact Option.some.inj hi ▸ hremarks'
    · intro lines hlines
      rw [hserved i other hij hi] at hlines
      exact hremarks other hother lines hlines
  obtain ⟨os, hos⟩ := exists_mapM_eq_ok fun other hother => Source.verdict_ok hclock
    (hfits other hother) (hremarks other hother).not_breaks
  obtain ⟨os', hos'⟩ := exists_mapM_eq_ok fun other hother =>
    @Source.verdict_ok (setting.rerouted routes) options s other hclock (hfits other hother)
      (hstorable other hother).not_breaks
  constructor
  -- The run itself is the schedule that takes one source after the other.
  · have hinOrder := interleaved_isolated hworkers hj hserved hnumbers hnumbers' hos hos'
      (inOrder_completes sources) (inOrder_completes sources)
    rwa [interleaved_inOrder hworkers, interleaved_inOrder hworkers] at hinOrder
  · intro schedule hcompletes hcompletes'
    exact interleaved_isolated hworkers hj hserved hnumbers hnumbers' hos hos' hcompletes
      hcompletes'

end isolation

/-- The second of the sources that serve one page fails. -/
def secondFails : Http.Routes := samePage.routes.set "http://b/" (.breakdown .transport "gone")

theorem secondFails_answer (url : Text) (h : url ≠ "http://b/".toList) :
    samePage.routes.answer url = secondFails.answer url :=
  (Http.Routes.answer_set_of_ne h _).symm

theorem first_visited :
    (⟨"http://a/", "#1", some 1, none⟩ : Source).visited samePage allSources twoSubscriptions =
      ["http://a/".toList] := by
  decide +kernel

theorem first_avoids_second (i : Nat) (source : Source) (hi : i ≠ 1)
    (hsource : twoSources[i]? = some source) :
    "http://b/".toList ∉ source.visited samePage allSources twoSubscriptions := by
  unfold twoSources at hsource
  rcases i with _ | _ | i
  · rw [List.getElem?_cons_zero] at hsource
    rw [← Option.some.inj hsource, first_visited]
    decide
  · exact absurd rfl hi
  · rw [List.getElem?_cons_succ, List.getElem?_cons_succ, List.getElem?_nil] at hsource
    cases hsource

/-- The first source does not notice that the second one fails. -/
theorem fanOut_isolates_first :
    Isolated twoSubscriptions.store 1 ⟨"http://b/", "#2", some 2, none⟩
      (Source.Omits samePage secondFails allSources twoSubscriptions
        ⟨"http://b/", "#2", some 2, none⟩)
      (fanOut samePage allSources twoSources twoSubscriptions)
      (fanOut (samePage.rerouted secondFails) allSources twoSources twoSubscriptions) := by
  have hserved : ((⟨"http://b/", "#2", some 2, none⟩ : Source).served
      (samePage.rerouted secondFails) allSources twoSubscriptions).toOption = none := by
    decide +kernel
  have hnumbers : NumbersLeft (samePage.rerouted secondFails) allSources twoSubscriptions
      twoSources := by
    unfold NumbersLeft
    decide +kernel
  refine (fanOut_isolates allSources_workers samePage_clock twoSources_fit rfl
    secondFails_answer first_avoids_second samePage_storable ?_ samePage_numbersLeft hnumbers).1
  intro lines hlines
  rw [hlines] at hserved
  cases hserved

end Run

end LinkHarvest
