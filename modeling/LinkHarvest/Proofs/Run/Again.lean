import LinkHarvest.Proofs.Run.Failure
import LinkHarvest.Proofs.Run.Orders
import LinkHarvest.Proofs.Store.Again

/-!
# The same run again

A run that gave a result is run again at another time, with the same options, files and answers of
the network: `run_again`. Every source comes to the verdict that it came to before, with configs of
the new time, so the result is the same but for this time. The rows are upserted as they were
before, which changes the times of their links only.

The second run needs as many numbers as the first one did, though it adds no row. It needs no more:
a source that failed for want of a number does so again, and a source that failed for another reason
never came to the question (`turns_again`).
-/

namespace LinkHarvest

namespace Run

open Fallible

/-- The setting at another time. -/
def Setting.later (setting : Setting) (now : Instant) : Setting := { setting with now }

/-- A config that is seen at another time. -/
def seenAt (i : Instant) (d : Draft) : Draft := { d with lastSeenAt := some i.timestamp }

/-- An outcome with its configs seen at another time. -/
def Outcome.seenAt (i : Instant) (o : Outcome) : Outcome :=
  { o with configs := o.configs.map (Run.seenAt i) }

/-- A result with its configs seen at another time. -/
def BatchResult.seenAt (i : Instant) (r : BatchResult) : BatchResult :=
  { r with
    outcomes := r.outcomes.map (Outcome.seenAt i)
    configs := r.configs.map (Run.seenAt i) }

/-- Between the stores `s` and `t` the links of a result are seen and its subscriptions fetched at a
time; every row stays, under its number and with its owner, protocol and remark. -/
structure Refreshed (now : Instant) (r : BatchResult) (s t : Store) : Prop where
  configs : t.database.configs = s.database.configs.map fun c =>
    if c.link ∈ r.links then { c with lastSeenAt := now } else c
  subscriptions : t.database.subscriptions = s.database.subscriptions.map fun sub =>
    if r.fetched s sub.id then { sub with lastFetchedAt := some now } else sub
  counters : t.database.lastSubscription = s.database.lastSubscription ∧
    t.database.lastConfig = s.database.lastConfig + r.configs.length
  surroundings : t.isOpen = s.isOpen ∧ t.refusal = s.refusal

variable {setting : Setting} {options : Options.FetchOptions} {s t : State} {source : Source}
  {sources : List Source} {files : Files} {r : BatchResult} {later : Instant} {lines : List Text}

/-! ## One source at another time -/

theorem draft_later (owner : Option Int) (link : Text) :
    Job.draft (setting.later later) owner link = seenAt later (Job.draft setting owner link) := by
  have hregistry : (setting.later later).registry = setting.registry := rfl
  unfold Job.draft
  rw [hregistry]
  cases setting.registry.decode link <;> rfl

theorem drafts_later :
    source.drafts (setting.later later) lines =
      (source.drafts setting lines).map (seenAt later) := by
  unfold Source.drafts
  rw [List.map_map]
  exact List.map_congr_left fun link _ => draft_later source.subscription link

theorem served_later :
    source.served (setting.later later) options s = source.served setting options s := rfl

theorem dated_later (link : Text) :
    source.dated (setting.later later) link =
      ⟨seenAt later (source.dated setting link).draft, later, later⟩ := by
  unfold Source.dated
  rw [draft_later]
  rfl

theorem rowFor_later (knows : Option Int → Bool) (isLeft : Bool) (d : Store.Dated) :
    Store.rowFor knows isLeft ⟨seenAt later d.draft, later, later⟩ =
      (Store.rowFor knows isLeft d).map (·.retimed later) :=
  Store.rowFor_times rfl rfl rfl rfl

theorem rows_later (hclock : setting.ClockInRange) (hlater : later.micros < Instant.limit) :
    source.rows (setting.later later) s lines =
      (source.rows setting s lines).map (List.map (·.retimed later)) := by
  by_cases hlines : lines = []
  · subst hlines
    rfl
  have hclock' : (setting.later later).ClockInRange := hlater
  have hdated : lines.eraseDups.map (source.dated (setting.later later)) =
      (lines.eraseDups.map (source.dated setting)).map fun d =>
        ⟨seenAt later d.draft, later, later⟩ := by
    rw [List.map_map]
    exact List.map_congr_left fun link _ => dated_later link
  rw [rows_eq hclock hlines, rows_eq hclock' hlines, hdated,
    Store.rowsFrom_map (rowFor_later s.store.database.knows)]
  cases s.store.checkRefusal
      (.upsert (List.replicate lines.eraseDups.length source.subscription)) with
  | error p => rfl
  | ok _ => cases s.store.checkOpen .saving <;> rfl

theorem writes_later (hclock : setting.ClockInRange) (hlater : later.micros < Instant.limit) :
    source.writes (setting.later later) options s =
      (source.writes setting options s).map (·.retimed later) := by
  unfold Source.writes
  rw [served_later]
  cases source.served setting options s with
  | error p => rfl
  | ok lines =>
    dsimp only
    rw [rows_later hclock hlater]
    cases source.rows setting s lines <;> rfl

/-- **At another time a source comes to the same verdict**, with configs of this time. -/
theorem verdict_later (hclock : setting.ClockInRange) (hlater : later.micros < Instant.limit) :
    source.verdict (setting.later later) options s =
      (source.verdict setting options s).map (Outcome.seenAt later) := by
  unfold Source.verdict
  rw [served_later]
  cases source.served setting options s with
  | error p => rfl
  | ok lines =>
    dsimp only
    rw [rows_later hclock hlater, drafts_later]
    cases source.rows setting s lines with
    | ok rows => rfl
    | error p =>
      dsimp only [map_error]
      split <;> rfl

/-! ## One source with fewer numbers -/

section fewer

variable (hfewer : t.store.database.numbersLeft ≤ s.store.database.numbersLeft)
  (hknows : s.store.database.knows source.subscription = true)

/-- Of a source with a known owner, only the want of a number keeps a storable link back. -/
theorem rowFor_eq_numberLeft {knows : Option Int → Bool} {isLeft : Bool} {link : Text}
    {p : StoreProblem} (hknows : knows source.subscription = true)
    (h : Store.rowFor knows isLeft (source.dated setting link) = .error p)
    (hreported : p.isReported = true) : p = .constraint .saving .numberLeft := by
  have hwith : ∀ remark, Store.rowWith knows isLeft (source.dated setting link) remark = .error p →
      p = .constraint .saving .numberLeft := by
    intro remark hwith
    rw [rowWith_draft, Source.refused, hknows] at hwith
    cases isLeft with
    | true => cases hwith
    | false => exact (Except.error.inj hwith).symm
  unfold StoreProblem.isReported at hreported
  rcases bind_eq_error.mp h with h | ⟨_, -, h⟩
  · rw [Store.family_of_checkInteger h] at hreported
    cases hreported
  · split at h
    · exact hwith none h
    · rcases bind_eq_error.mp h with h | ⟨remark, -, h⟩
      · rw [Store.family_of_columnText h] at hreported
        cases hreported
      · exact hwith (some remark) h

include hfewer hknows

/-- A source whose rows fit into fewer numbers, or that failed before, does as before. -/
theorem rows_of_fewer (hclock : setting.ClockInRange)
    (hframe : s.frame options.proxy = t.frame options.proxy)
    (hrows : ∀ rows, source.rows setting s lines = .ok rows →
      rows.length ≤ t.store.database.numbersLeft)
    (hreported : ∀ p, source.rows setting s lines = .error p → p.isReported = true) :
    source.rows setting s lines = source.rows setting t lines := by
  by_cases hlines : lines = []
  · subst hlines
    rfl
  obtain ⟨hopen, hrefusal, -⟩ := Store.Frame.mk.injEq .. ▸ State.frame_store hframe
  have hsame := Store.knows_congr (State.frame_store hframe)
  rw [rows_eq hclock hlines] at hrows hreported ⊢
  rw [rows_eq hclock hlines, ← hsame]
  unfold Store.checkRefusal Store.checkOpen at hrows hreported ⊢
  rw [hopen, hrefusal] at hrows hreported ⊢
  cases hcall : t.store.refusal
      (.upsert (List.replicate lines.eraseDups.length source.subscription)) with
  | some message => rfl
  | none =>
    cases hclosed : t.store.isOpen with
    | false => rfl
    | true =>
      rw [hcall, hclosed] at hrows hreported
      simp only [ok_bind, if_true] at hrows hreported ⊢
      cases hfrom : Store.rowsFrom s.store.database.knows s.store.database.numbersLeft
          (lines.eraseDups.map (source.dated setting)) with
      | ok rows =>
        have hlength := hrows rows hfrom
        obtain ⟨-, hall⟩ := Store.rowsFrom_eq_ok.mp hfrom
        rw [← (mapM_eq_ok hall).length_eq] at hlength
        exact (Store.rowsFrom_eq_ok.mpr ⟨hlength, hall⟩).symm
      | error p =>
        obtain ⟨d, hd, isLeft, hrow⟩ := Store.exists_of_rowsFrom_eq_error hfrom
        obtain ⟨link, -, rfl⟩ := List.mem_map.mp hd
        obtain rfl := rowFor_eq_numberLeft hknows hrow (hreported p hfrom)
        exact (Store.rowsFrom_of_fewer hfewer hfrom).symm

theorem alike_of_fewer {o : Outcome} (hclock : setting.ClockInRange)
    (hframe : s.frame options.proxy = t.frame options.proxy)
    (hverdict : source.verdict setting options s = .ok o)
    (hwrites : (source.writes setting options s).length ≤ t.store.database.numbersLeft) :
    (Turn.mk source s).Alike setting options ⟨source, t⟩ := by
  refine Turn.alike_of_rows hframe fun lines hserved => ?_
  refine rows_of_fewer hfewer hknows hclock hframe ?_ ?_
  · intro rows hrows
    rw [Source.writes_of_served hserved, hrows] at hwrites
    exact hwrites
  · intro p hrows
    unfold Source.verdict at hverdict
    rw [hserved] at hverdict
    dsimp only at hverdict
    rw [hrows] at hverdict
    dsimp only at hverdict
    split at hverdict
    · assumption
    · cases hverdict

end fewer

/-! ## Results at another time -/

theorem filter_seenAt (os : List Outcome) :
    (os.map (Outcome.seenAt later)).filter Outcome.ok =
      (os.filter Outcome.ok).map (Outcome.seenAt later) := by
  rw [List.filter_map]
  rfl

theorem ofOutcomes_seenAt (n : Nat) (os : List Outcome) :
    BatchResult.ofOutcomes n (os.map (Outcome.seenAt later)) =
      (BatchResult.ofOutcomes n os).seenAt later := by
  have hconfigs : ((os.filter Outcome.ok).map (Outcome.seenAt later)).flatMap Outcome.configs =
      ((os.filter Outcome.ok).flatMap Outcome.configs).map (seenAt later) := by
    rw [List.flatMap_map, List.map_flatMap]
    rfl
  have hlengths : ((os.filter Outcome.ok).map (Outcome.seenAt later)).map
      (fun o => o.configs.length) = (os.filter Outcome.ok).map fun o => o.configs.length := by
    rw [List.map_map]
    exact List.map_congr_left fun o _ => List.length_map _
  have hcounts : ((os.filter Outcome.ok).map (Outcome.seenAt later)).map Outcome.rawCount =
      (os.filter Outcome.ok).map Outcome.rawCount := by
    rw [List.map_map]
    rfl
  have hfailed : ((os.map (Outcome.seenAt later)).filter fun o => !o.ok).length =
      (os.filter fun o => !o.ok).length := by
    rw [List.filter_map, List.length_map]
    rfl
  rw [BatchResult.ofOutcomes_eq, BatchResult.ofOutcomes_eq, filter_seenAt, hconfigs, hlengths,
    hcounts, hfailed]
  rfl

theorem resultOf_seenAt (mode : Options.Mode) (verdicts : Except StoreProblem (List Outcome)) :
    resultOf mode (verdicts.map (List.map (Outcome.seenAt later))) =
      (resultOf mode verdicts).map (BatchResult.seenAt later) := by
  cases verdicts with
  | error p => rfl
  | ok os =>
    have hproblem : (os.map (Outcome.seenAt later)).findSome? Outcome.problem =
        os.findSome? Outcome.problem := by
      rw [List.findSome?_map]
      rfl
    unfold resultOf
    dsimp only [map_ok]
    rw [hproblem, List.length_map, ofOutcomes_seenAt]
    cases (if isSingle mode then os.findSome? Outcome.problem else none) <;> rfl

theorem fetched_seenAt (r : BatchResult) (store : Store) :
    (r.seenAt later).fetched store = r.fetched store := by
  funext id
  unfold BatchResult.fetched BatchResult.seenAt
  dsimp only
  rw [List.any_map]
  congr 2
  funext o
  simp only [Function.comp, Outcome.seenAt, Outcome.ok, List.isEmpty_map]

/-! ## All sources again -/

/-- A turn of the second run does what the turn of the first run did, at another time. -/
structure Repeats (setting : Setting) (options : Options.FetchOptions) (later : Instant)
    (a b : Turn) : Prop where
  verdict : b.verdict (setting.later later) options =
    (a.verdict setting options).map (Outcome.seenAt later)
  writes : b.writes (setting.later later) options =
    (a.writes setting options).map (·.retimed later)

/-- **The second turns repeat the first ones**, if numbers are left for the rows that these wrote. -/
theorem turns_again {os : List Outcome} (hclock : setting.ClockInRange)
    (hlater : later.micros < Instant.limit)
    (hframe : s.frame options.proxy = t.frame options.proxy)
    (hfewer : t.store.database.numbersLeft ≤ s.store.database.numbersLeft)
    (hknows : ∀ source ∈ sources, s.store.database.knows source.subscription = true)
    (hos : (turns setting options s sources).mapM (Turn.verdict setting options) = .ok os)
    (hroom : ((turns setting options s sources).flatMap (Turn.writes setting options)).length ≤
      t.store.database.numbersLeft) :
    List.Forall₂ (Repeats setting options later) (turns setting options s sources)
      (turns (setting.later later) options t sources) := by
  induction sources generalizing s t os with
  | nil => exact .nil
  | cons source sources ih =>
    rw [turns, List.mapM_cons] at hos
    obtain ⟨o, ho, hos⟩ := bind_eq_ok.mp hos
    obtain ⟨rest, hrest, -⟩ := bind_eq_ok.mp hos
    rw [turns, List.flatMap_cons, List.length_append] at hroom
    obtain ⟨hknown, hknows⟩ := List.forall_mem_cons.mp hknows
    have hfirst : (source.writes setting options s).length ≤ t.store.database.numbersLeft :=
      Nat.le_trans (Nat.le_add_right ..) hroom
    have halike := alike_of_fewer hfewer hknown hclock hframe ho hfirst
    have hrepeats : Repeats setting options later ⟨source, s⟩ ⟨source, t⟩ := by
      refine ⟨?_, ?_⟩
      · rw [halike.verdict]
        exact verdict_later hclock hlater
      · rw [halike.writes]
        exact writes_later hclock hlater
    have hlength : (source.writes (setting.later later) options t).length =
        (source.writes setting options s).length := by
      rw [show source.writes (setting.later later) options t = _ from hrepeats.writes]
      exact List.length_map _
    have hroom : (source.writes setting options s).length + _ ≤ t.store.database.numbersLeft :=
      hroom
    refine .cons hrepeats (ih ?_ ?_ ?_ hrest ?_)
    · rw [State.past_frame, State.past_frame, hframe]
    · rw [State.past_numbersLeft, State.past_numbersLeft, hlength]
      omega
    · intro source' hsource'
      have hframe' : (s.past setting options source).frame options.proxy = s.frame options.proxy :=
        State.past_frame _
      rw [Store.knows_congr (State.frame_store hframe')]
      exact hknows source' hsource'
    · rw [State.past_numbersLeft, hlength]
      omega

section repeats

variable {as bs : List Turn} (h : List.Forall₂ (Repeats setting options later) as bs)

include h

theorem mapM_verdict_again :
    bs.mapM (Turn.verdict (setting.later later) options) =
      (as.mapM (Turn.verdict setting options)).map (List.map (Outcome.seenAt later)) := by
  rw [← mapM_map_result]
  exact (mapM_of_forall₂ h fun _ _ hab => hab.verdict.symm).symm

theorem flatMap_writes_again :
    bs.flatMap (Turn.writes (setting.later later) options) =
      (as.flatMap (Turn.writes setting options)).map (·.retimed later) := by
  rw [List.map_flatMap]
  exact (flatMap_of_forall₂ h fun _ _ hab => hab.writes.symm).symm

end repeats

/-! ## The run -/

theorem effected_writes {all : List Turn} {os : List Outcome} {n : Nat}
    (h : List.Forall₂ (Effected setting options s) all os) :
    all.flatMap (Turn.writes setting options) =
        (BatchResult.ofOutcomes n os).configs.map (Store.values setting.now) ∧
      ∀ link, link ∈ (BatchResult.ofOutcomes n os).links ↔
        link ∈ (all.flatMap (Turn.writes setting options)).map ConfigValues.link := by
  have hfailed : ∀ o ∈ os, o.ok = false → o.configs = [] := by
    intro o ho
    obtain ⟨turn, -, heffected⟩ := exists_mem_of_forall₂ h ho
    exact heffected.failed
  have hconfigs : (BatchResult.ofOutcomes n os).configs = os.flatMap Outcome.configs := by
    rw [BatchResult.ofOutcomes_configs, flatMap_configs hfailed]
  have hwrites : all.flatMap (Turn.writes setting options) =
      (BatchResult.ofOutcomes n os).configs.map (Store.values setting.now) := by
    rw [flatMap_writes h, hconfigs]
  refine ⟨hwrites, ?_⟩
  intro link
  rw [hwrites]
  apply mem_links
  intro d hd
  rw [hconfigs] at hd
  exact (seen_of_mem h hd).link

theorem mem_marks_iff_fetched {all : List Turn} {os : List Outcome} {n : Nat}
    (h : List.Forall₂ (Effected setting options s) all os) (id : Int) :
    id ∈ all.flatMap (Turn.marks setting options) ↔
      (BatchResult.ofOutcomes n os).fetched s.store id = true := by
  rw [mem_flatMap_marks h, BatchResult.fetched, BatchResult.ofOutcomes_outcomes]
  simp [Option.isNone_iff_eq_none, List.isEmpty_eq_false_iff, and_assoc]

theorem After.frame_again {u : State} (h : After setting options s u sources)
    (hstore : t.store = u.store) (hclients : t.clients = u.clients ∨ t.clients = s.clients) :
    t.frame options.proxy = s.frame options.proxy := by
  have hstoreFrame : t.store.frame = s.store.frame := by
    rw [hstore]
    exact State.frame_store h.frame
  unfold State.frame
  rw [hstoreFrame]
  rcases hclients with hclients | hclients
  · rw [hclients, State.frame_client h.frame]
  · rw [hclients]

theorem knows_of_selected (h : selected options files s.store = .ok sources) :
    ∀ source ∈ sources, s.store.database.knows source.subscription = true := by
  unfold selected at h
  cases hmode : options.mode with
  | byId =>
    rw [hmode] at h
    dsimp only at h
    cases hget : s.store.get (options.subscription.getD 0) with
    | error p =>
      rw [hget] at h
      cases h
    | ok sub =>
      rw [hget] at h
      cases h
      intro source hsource
      rw [List.mem_singleton.mp hsource]
      exact Store.knows_of_mem (List.mem_of_find?_eq_some (Store.get_eq_ok.mp hget).2.2.2)
  | byUrl =>
    rw [hmode] at h
    cases h
    intro source hsource
    rw [List.mem_singleton.mp hsource]
    rfl
  | allEnabled =>
    rw [hmode] at h
    dsimp only at h
    cases hlist : s.store.list with
    | error p =>
      rw [hlist] at h
      cases h
    | ok subs =>
      rw [hlist] at h
      cases h
      obtain ⟨-, -, rfl⟩ := Store.list_eq_ok.mp hlist
      intro source hsource
      obtain ⟨sub, hsub, rfl⟩ := List.mem_map.mp hsource
      exact Store.knows_of_mem (List.mem_of_mem_filter hsub)
  | byFile =>
    rw [hmode] at h
    dsimp only at h
    cases hurls : urlsIn files (options.file.getD (.ofText [])) with
    | error p =>
      rw [hurls] at h
      cases h
    | ok urls =>
      rw [hurls] at h
      cases h
      intro source hsource
      obtain ⟨url, -, rfl⟩ := List.mem_map.mp hsource
      rfl

theorem refreshed_of_verdicts {u u' : State} {os : List Outcome} (n : Nat)
    (hverdicts : (turns setting options s sources).mapM (Turn.verdict setting options) = .ok os)
    (hafter : After setting options s u sources) (hstore : t.store = u.store)
    (hagain : List.Forall₂ (Repeats setting options later) (turns setting options s sources)
      (turns (setting.later later) options t sources))
    (hafter' : After (setting.later later) options t u' sources) :
    Refreshed later (.ofOutcomes n os) t.store u'.store := by
  have hverdicts' : (turns (setting.later later) options t sources).mapM
      (Turn.verdict (setting.later later) options) = .ok (os.map (Outcome.seenAt later)) := by
    rw [mapM_verdict_again hagain, hverdicts]
    rfl
  obtain ⟨hwrites, hlinks⟩ := effected_writes (n := n) (effected_of_verdicts hverdicts)
  have hwritten := flatMap_writes_again hagain
  have hdatabase : t.store.database =
      (s.store.database.putAll
        ((turns setting options s sources).flatMap (Turn.writes setting options))).stamped
          ((turns setting options s sources).flatMap (Turn.marks setting options))
          setting.now := by
    rw [hstore, hafter.store, State.pastAll_store]
  have hfetched : ∀ id, id ∈ (turns (setting.later later) options t sources).flatMap
      (Turn.marks (setting.later later) options) ↔
        (BatchResult.ofOutcomes n os).fetched t.store id = true := by
    intro id
    rw [mem_marks_iff_fetched (n := n) (effected_of_verdicts hverdicts'), ofOutcomes_seenAt,
      fetched_seenAt]
  obtain ⟨ids, hstore'⟩ : ∃ ids, u'.store.database = (t.store.database.putAll
      (((turns setting options s sources).flatMap (Turn.writes setting options)).map
        (·.retimed later))).stamped ids later := by
    rw [hafter'.store, State.pastAll_store, hwritten]
    exact ⟨_, rfl⟩
  refine ⟨?_, ?_, ⟨?_, ?_⟩, hafter'.isOpen, hafter'.refusal⟩
  · rw [hstore']
    show (t.store.database.putAll _).configs = _
    rw [hdatabase, Database.putAll_stamped]
    show ((s.store.database.putAll _).putAll _).configs = (s.store.database.putAll _).configs.map _
    rw [Database.putAll_again]
    apply List.map_congr_left
    intro c _
    exact if_congr (hlinks c.link).symm rfl rfl
  · rw [hafter'.subscriptions]
    apply List.map_congr_left
    intro sub _
    exact if_congr (hfetched sub.id) rfl rfl
  · rw [hstore']
    exact Database.putAll_lastSubscription
  · rw [hstore']
    show (t.store.database.putAll _).lastConfig = _
    rw [Database.putAll_lastConfig, hwrites, List.length_map, List.length_map]

/-- **A run again gives the same result and changes nothing but times**, if numbers are left for the
rows that it upserts. The clients may be those that the first run left, or those that it began with.
-/
theorem run_again (hworkers : WorkersInRange options) (hclock : setting.ClockInRange)
    (hlater : later.micros < Instant.limit) (houtput : options.output = none)
    (h : (run setting options files s).result = .ok r)
    (hstore : t.store = (run setting options files s).state.store)
    (hclients : t.clients = (run setting options files s).state.clients ∨ t.clients = s.clients)
    (hnumbers : r.configs.length ≤ t.store.database.numbersLeft) :
    (run (setting.later later) options (run setting options files s).files t).result =
        .ok (r.seenAt later) ∧
      Refreshed later r t.store
        (run (setting.later later) options (run setting options files s).files t).state.store := by
  obtain ⟨hresult, hfiles⟩ := @run_without_output setting options s files houtput
  rw [hresult] at h
  rw [hfiles]
  cases hselected : selected options files s.store with
  | error p =>
    rw [collect_of_selected_error hselected] at h
    cases h
  | ok sources =>
    have hafter : After setting options s (run setting options files s).state sources :=
      run_after hworkers hselected
    have hframe := hafter.frame_again hstore hclients
    have hselected' : selected options files t.store = .ok sources := by
      rw [hstore, hafter.selected]
      exact hselected
    rw [(collect_of_selected hworkers hselected).1] at h
    obtain ⟨hverdicts, hr⟩ := exists_outcomes_of_resultOf h
    obtain ⟨hwrites, -⟩ :=
      effected_writes (n := r.outcomes.length) (effected_of_verdicts hverdicts)
    rw [← hr] at hwrites
    have hfewer : t.store.database.numbersLeft ≤ s.store.database.numbersLeft := by
      rw [hstore, hafter.store, State.pastAll_store]
      dsimp only
      rw [Database.stamped_numbersLeft, Database.putAll_numbersLeft]
      exact Nat.sub_le ..
    have hroom : ((turns setting options s sources).flatMap
        (Turn.writes setting options)).length ≤ t.store.database.numbersLeft := by
      rw [hwrites, List.length_map]
      exact hnumbers
    have hagain := turns_again hclock hlater hframe.symm hfewer (knows_of_selected hselected)
      hverdicts hroom
    refine ⟨?_, ?_⟩
    · rw [(run_without_output houtput).1, (collect_of_selected hworkers hselected').1,
        mapM_verdict_again hagain, resultOf_seenAt, h]
      rfl
    · rw [hr]
      exact refreshed_of_verdicts _ hverdicts hafter hstore hagain (run_after hworkers hselected')

def aSecondLater : Instant := ⟨63839750401000000⟩

/-- Two subscriptions take a link from each other in both runs, and the second one keeps it. -/
theorem run_again_of_samePage :
    ∃ r, r.links = ["foo".toList, "foo".toList] ∧
      (run (samePage.later aSecondLater) allSources
          (run samePage allSources ⟨[], []⟩ twoSubscriptions).files
          (run samePage allSources ⟨[], []⟩ twoSubscriptions).state).result =
        .ok (r.seenAt aSecondLater) ∧
      Refreshed aSecondLater r (run samePage allSources ⟨[], []⟩ twoSubscriptions).state.store
        (run (samePage.later aSecondLater) allSources
          (run samePage allSources ⟨[], []⟩ twoSubscriptions).files
          (run samePage allSources ⟨[], []⟩ twoSubscriptions).state).state.store := by
  have hlater : aSecondLater.micros < Instant.limit := by decide
  have hselected : selected allSources ⟨[], []⟩ twoSubscriptions.store = .ok twoSources := by
    decide +kernel
  have hlinks : (run samePage allSources ⟨[], []⟩ twoSubscriptions).result.toOption.map
      (fun r => (r.links, r.configs.length)) = some (["foo".toList, "foo".toList], 2) := by
    rw [(run_without_output rfl).1, (collect_of_selected allSources_workers hselected).1]
    decide +kernel
  have hleft : 2 ≤
      (run samePage allSources ⟨[], []⟩ twoSubscriptions).state.store.database.numbersLeft := by
    rw [(run_after allSources_workers hselected).store]
    decide +kernel
  cases hresult : (run samePage allSources ⟨[], []⟩ twoSubscriptions).result with
  | error p =>
    rw [hresult] at hlinks
    cases hlinks
  | ok r =>
    rw [hresult] at hlinks
    obtain ⟨hlinks, hlength⟩ := Prod.mk.inj (Option.some.inj hlinks)
    rw [← hlength] at hleft
    exact ⟨r, hlinks,
      run_again allSources_workers samePage_clock hlater rfl hresult rfl (.inl rfl) hleft⟩

end Run

end LinkHarvest
