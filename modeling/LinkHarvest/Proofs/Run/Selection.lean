import LinkHarvest.Proofs.Run.Effect

/-!
# What the selected sources come to

A run is settled by the verdicts on the sources that its options select, each in its turn, whatever
its mode: they give its result (`collect_of_selected`), and the rows and marks of the turns are all
that it leaves in the store (`After`). The modes differ in one thing only: in a run of a single
source, the problem of the source ends the run.
-/

namespace LinkHarvest

namespace Run

open Fallible

def isSingle : Options.Mode → Bool
  | .byId => true
  | .byUrl => true
  | .allEnabled => false
  | .byFile => false

/-- The result of a run in a mode, given the verdicts on its sources. -/
def resultOf (mode : Options.Mode) (verdicts : Except StoreProblem (List Outcome)) :
    Except Problem BatchResult :=
  match verdicts with
  | .error p => .error (.source (.store p))
  | .ok os =>
    match if isSingle mode then os.findSome? Outcome.problem else none with
    | some p => .error (.source p)
    | none => .ok (.ofOutcomes os.length os)

/-- The state `t` is left when sources are processed in the state `s`. -/
structure After (setting : Setting) (options : Options.FetchOptions) (s t : State)
    (sources : List Source) : Prop where
  frame : t.frame options.proxy = s.frame options.proxy
  store : t.store = (s.pastAll setting options sources).store

variable {setting : Setting} {options other : Options.FetchOptions} {s t u : State}
  {source : Source} {sources more : List Source} {files : Files}

/-! ## Options that fetch alike -/

section alike

variable (hagent : options.agent = other.agent) (hproxy : options.proxy = other.proxy)
include hagent hproxy

theorem Source.served_options :
    source.served setting options s = source.served setting other s := by
  have hrequest : (Job.mk source []).request setting options =
      (Job.mk source []).request setting other := by
    simp only [Job.request, hagent, hproxy]
  rw [served, hrequest, served]

theorem Source.verdict_options :
    source.verdict setting options s = source.verdict setting other s := by
  simp only [verdict, served_options hagent hproxy]

theorem Source.writes_options :
    source.writes setting options s = source.writes setting other s := by
  simp only [writes, served_options hagent hproxy]

theorem Source.marks_options :
    source.marks setting options s = source.marks setting other s := by
  simp only [marks, served_options hagent hproxy]

theorem State.past_options : State.past setting options = State.past setting other := by
  funext s source
  unfold past
  rw [Source.writes_options hagent hproxy, Source.marks_options hagent hproxy]

theorem After.congr_options (h : After setting options s t sources) :
    After setting other s t sources := by
  refine ⟨hproxy ▸ h.frame, ?_⟩
  rw [h.store, State.pastAll, State.past_options hagent hproxy, State.pastAll]

end alike

/-! ## Processing sources one after the other -/

theorem After.nil (h : t.frame options.proxy = s.frame options.proxy) (hstore : t.store = s.store) :
    After setting options s t [] := ⟨h, hstore⟩

theorem After.trans (h : After setting options s t sources) (h' : After setting options t u more) :
    After setting options s u (sources ++ more) := by
  refine ⟨h'.frame.trans h.frame, ?_⟩
  rw [h'.store, State.pastAll_append]
  exact State.pastAll_congr (h.frame.trans (State.pastAll_frame _).symm) h.store more

theorem After.logged (h : After setting options s t sources) (events : List Log.Event) :
    After setting options s (t.logged events) sources := ⟨h.frame, h.store⟩

theorem After.of_logged {events : List Log.Event}
    (h : After setting options (s.logged events) t sources) : After setting options s t sources :=
  ⟨h.frame, h.store.trans State.pastAll_logged⟩

theorem After.isOpen (h : After setting options s t sources) : t.store.isOpen = s.store.isOpen := by
  rw [h.store, State.pastAll_store]

theorem After.refusal (h : After setting options s t sources) :
    t.store.refusal = s.store.refusal := by
  rw [h.store, State.pastAll_store]

/-! ## Collecting -/

theorem single_of_verdict :
    (single setting options source s).1 =
        resultOf .byUrl
          ((turns setting options s [source]).mapM (Turn.verdict setting options)) ∧
      After setting options s (single setting options source s).2 [source] := by
  obtain ⟨hresult, hframe, hstore⟩ := (Job.mk source "1/1").process_eq setting options s
  have hverdicts : [source].mapM (Source.verdict setting options s) =
      (source.verdict setting options s).map fun o => [o] := by
    rw [List.mapM_cons, List.mapM_nil]
    cases source.verdict setting options s <;> rfl
  unfold single
  rw [mapM_verdict_singleton, hverdicts, ← hresult]
  generalize (Job.mk source "1/1").process setting options s = part at hframe hstore ⊢
  obtain ⟨result, t⟩ := part
  have hafter : After setting options s t [source] := ⟨hframe, hstore⟩
  cases result with
  | error p => exact ⟨rfl, hafter⟩
  | ok o =>
    have hsum : ((Accumulator.start 1).add 0 o).result = .ofOutcomes 1 [o] := by
      have hperm : [(0, o)].Perm (Accumulator.positioned [o]) := List.Perm.refl _
      exact Accumulator.result_addAll hperm
    dsimp only [map_ok]
    rw [hsum]
    unfold resultOf
    dsimp only [isSingle]
    cases hproblem : o.problem with
    | some p => simp [hproblem, hafter]
    | none => simp [hproblem, hafter]

theorem fanOut_of_verdicts (hworkers : WorkersInRange options) :
    (fanOut setting options sources s).1 =
        resultOf .byFile
          ((turns setting options s sources).mapM (Turn.verdict setting options)) ∧
      After setting options s (fanOut setting options sources s).2 sources := by
  obtain ⟨hframe, hstore⟩ := @fanOut_after setting options s hworkers sources
  refine ⟨?_, hframe, hstore⟩
  rw [fanOut_result hworkers]
  cases hverdicts : (turns setting options s sources).mapM (Turn.verdict setting options) with
  | error p => rfl
  | ok os =>
    have hlength : sources.length = os.length := by
      rw [← (mapM_eq_ok hverdicts).length_eq, ← List.length_map Turn.source, turns_source]
    rw [hlength]
    rfl

/-- **The verdicts on the selected sources settle what a run collects** and what it leaves in the
store. -/
theorem collect_of_selected (hworkers : WorkersInRange options)
    (h : selected options files s.store = .ok sources) :
    (collect setting options files s).1 =
        resultOf options.mode
          ((turns setting options s sources).mapM (Turn.verdict setting options)) ∧
      After setting options s (collect setting options files s).2 sources := by
  unfold selected at h
  unfold collect
  cases hmode : options.mode with
  | byId =>
    rw [hmode] at h
    dsimp only at h ⊢
    unfold byId
    cases hget : s.store.get (options.subscription.getD 0) with
    | error p =>
      rw [hget] at h
      cases h
    | ok subscription =>
      rw [hget] at h
      cases h
      exact single_of_verdict
  | byUrl =>
    rw [hmode] at h
    cases h
    exact single_of_verdict
  | allEnabled =>
    rw [hmode] at h
    dsimp only at h ⊢
    unfold allEnabled
    cases hlist : s.store.list with
    | error p =>
      rw [hlist] at h
      cases h
    | ok subscriptions =>
      rw [hlist] at h
      cases h
      dsimp only
      split
      · rename_i hempty
        rw [List.isEmpty_iff.mp hempty]
        exact ⟨rfl, (After.nil rfl rfl).logged _⟩
      · exact fanOut_of_verdicts hworkers
  | byFile =>
    rw [hmode] at h
    dsimp only at h ⊢
    unfold byFile
    cases hurls : urlsIn files (options.file.getD (.ofText [])) with
    | error p =>
      rw [hurls] at h
      cases h
    | ok urls =>
      rw [hurls] at h
      cases h
      obtain ⟨hresult, hafter⟩ := @fanOut_of_verdicts setting options
        (s.logged [.urlFileLoaded (options.file.getD (.ofText [])).text urls.length])
        (urls.map .ofUrl) hworkers
      exact ⟨hresult.trans (congrArg (resultOf .byFile) mapM_verdict_logged), hafter.of_logged⟩

theorem collect_of_selected_error {p : Problem} (h : selected options files s.store = .error p) :
    collect setting options files s = (.error p, s) := by
  unfold selected at h
  unfold collect
  cases hmode : options.mode with
  | byId =>
    rw [hmode] at h
    dsimp only at h ⊢
    unfold byId
    cases hget : s.store.get (options.subscription.getD 0) <;> rw [hget] at h <;> cases h
    rfl
  | byUrl =>
    rw [hmode] at h
    cases h
  | allEnabled =>
    rw [hmode] at h
    dsimp only at h ⊢
    unfold allEnabled
    cases hlist : s.store.list <;> rw [hlist] at h <;> cases h
    rfl
  | byFile =>
    rw [hmode] at h
    dsimp only at h ⊢
    unfold byFile
    cases hurls : urlsIn files (options.file.getD (.ofText [])) <;> rw [hurls] at h <;> cases h
    rfl

theorem exists_outcomes_of_resultOf {r : BatchResult} {mode : Options.Mode}
    {verdicts : Except StoreProblem (List Outcome)} (h : resultOf mode verdicts = .ok r) :
    verdicts = .ok r.outcomes ∧ r = .ofOutcomes r.outcomes.length r.outcomes := by
  unfold resultOf at h
  cases verdicts with
  | error p => cases h
  | ok os =>
    dsimp only at h
    split at h
    · cases h
    · cases h
      rw [BatchResult.ofOutcomes_outcomes]
      exact ⟨rfl, rfl⟩

/-! ## Runs -/

theorem run_state (setting : Setting) (options : Options.FetchOptions) (files : Files) (s : State) :
    ∃ events, (run setting options files s).state =
      (collect setting options files s).2.logged events := by
  have hnone : ∀ t : State, t = t.logged [] := fun t => by simp [State.logged]
  have htwice : ∀ (t : State) (a b : List Log.Event), (t.logged a).logged b = t.logged (a ++ b) :=
    fun t a b => by simp [State.logged]
  unfold run
  generalize collect setting options files s = part
  obtain ⟨result, t⟩ := part
  cases result with
  | error p => exact ⟨[], hnone t⟩
  | ok r =>
    dsimp only
    cases options.output with
    | none => exact ⟨_, rfl⟩
    | some path =>
      dsimp only
      split
      · unfold exportResult
        split
        · exact ⟨_, rfl⟩
        · exact ⟨_, htwice t _ _⟩
      · exact ⟨_, rfl⟩

theorem run_after (hworkers : WorkersInRange options)
    (h : selected options files s.store = .ok sources) :
    After setting options s (run setting options files s).state sources := by
  obtain ⟨events, hstate⟩ := run_state setting options files s
  rw [hstate]
  exact (collect_of_selected hworkers h).2.logged events

theorem run_without_output (houtput : options.output = none) :
    (run setting options files s).result = (collect setting options files s).1 ∧
      (run setting options files s).files = files := by
  unfold run
  rw [houtput]
  generalize collect setting options files s = part
  obtain ⟨result, t⟩ := part
  cases result <;> exact ⟨rfl, rfl⟩

theorem collect_of_run {r : BatchResult} (h : (run setting options files s).result = .ok r) :
    ∃ output, (collect setting options files s).1 = .ok { r with output } := by
  unfold run at h
  generalize collect setting options files s = part at h ⊢
  obtain ⟨result, t⟩ := part
  cases result with
  | error p => cases h
  | ok collected =>
    dsimp only at h
    split at h
    · split at h
      · unfold exportResult at h
        split at h
        · cases h
        · cases h
          exact ⟨collected.output, rfl⟩
      · cases h
        exact ⟨r.output, rfl⟩
    · cases h
      exact ⟨r.output, rfl⟩

theorem run_files (setting : Setting) (options : Options.FetchOptions) (files : Files) (s : State) :
    (run setting options files s).files = files ∨
      ∃ path links, options.output = some path ∧
        exportLinks files path links = .ok (run setting options files s).files := by
  unfold run
  generalize collect setting options files s = part
  obtain ⟨result, t⟩ := part
  cases result with
  | error p => exact .inl rfl
  | ok r =>
    dsimp only
    cases options.output with
    | none => exact .inl rfl
    | some path =>
      dsimp only
      split
      · unfold exportResult
        split
        · exact .inl rfl
        · rename_i hexport
          exact .inr ⟨path, _, rfl, hexport⟩
      · exact .inl rfl

theorem run_of_selected_error {p : Problem} (h : selected options files s.store = .error p) :
    run setting options files s = ⟨.error p, files, s⟩ := by
  unfold run
  rw [collect_of_selected_error h]

/-! ## The sources of a later run -/

/-- A subscription with a time noted at it, if its number is among those that are marked. -/
def noted (ids : List Int) (i : Instant) (sub : Subscription) : Subscription :=
  if sub.id ∈ ids then { sub with lastFetchedAt := some i } else sub

theorem noted_enabled (ids : List Int) (i : Instant) (sub : Subscription) :
    (noted ids i sub).enabled = sub.enabled := by
  unfold noted
  split <;> rfl

theorem noted_id (ids : List Int) (i : Instant) (sub : Subscription) :
    (noted ids i sub).id = sub.id := by
  unfold noted
  split <;> rfl

theorem ofSubscription_noted (ids : List Int) (i : Instant) (sub : Subscription) :
    Source.ofSubscription (noted ids i sub) = .ofSubscription sub := by
  unfold noted
  split <;> rfl

theorem After.subscriptions (h : After setting options s t sources) :
    t.store.database.subscriptions = s.store.database.subscriptions.map
      (noted ((turns setting options s sources).flatMap (Turn.marks setting options))
        setting.now) := by
  rw [h.store, State.pastAll_store]
  dsimp only [Database.stamped]
  rw [Database.putAll_subscriptions]
  rfl

theorem After.list (h : After setting options s t sources) :
    t.store.list = s.store.list.map (List.map
      (noted ((turns setting options s sources).flatMap (Turn.marks setting options))
        setting.now)) := by
  simp only [Store.list, Store.checkRefusal, Store.checkOpen, h.refusal, h.isOpen, h.subscriptions]
  cases s.store.refusal .list with
  | some message => rfl
  | none => cases s.store.isOpen <;> rfl

theorem After.get (h : After setting options s t sources) (id : Int) :
    t.store.get id = (s.store.get id).map
      (noted ((turns setting options s sources).flatMap (Turn.marks setting options))
        setting.now) := by
  have hfound : t.store.database.subscription? id = (s.store.database.subscription? id).map
      (noted ((turns setting options s sources).flatMap (Turn.marks setting options))
        setting.now) := by
    unfold Database.subscription?
    rw [h.subscriptions, List.find?_map]
    congr 2
    funext sub
    simp only [Function.comp, noted_id]
  simp only [Store.get, Store.checkRefusal, Store.checkOpen, h.refusal, h.isOpen, hfound]
  cases s.store.refusal .get with
  | some message => rfl
  | none =>
    cases s.store.isOpen with
    | false => rfl
    | true =>
      cases Store.checkInteger id with
      | error p => rfl
      | ok _ => cases s.store.database.subscription? id <;> rfl

/-- **A run leaves the sources that later runs select.** -/
theorem After.selected (h : After setting options s t sources) (other : Options.FetchOptions)
    (files : Files) : selected other files t.store = selected other files s.store := by
  unfold Run.selected
  rw [h.get, h.list]
  cases other.mode with
  | byId =>
    cases s.store.get (other.subscription.getD 0) with
    | error p => rfl
    | ok sub =>
      dsimp only [map_ok]
      rw [ofSubscription_noted]
  | byUrl => rfl
  | allEnabled =>
    cases s.store.list with
    | error p => rfl
    | ok subs =>
      simp only [map_ok, List.filter_map, List.map_map]
      generalize (turns setting options s sources).flatMap (Turn.marks setting options) = ids
      have hsource : Source.ofSubscription ∘ noted ids setting.now = Source.ofSubscription :=
        funext fun sub => ofSubscription_noted ..
      have henabled : (fun sub : Subscription => sub.enabled) ∘ noted ids setting.now =
          fun sub => sub.enabled := funext fun sub => noted_enabled ..
      rw [hsource, henabled]
  | byFile => rfl

end Run

end LinkHarvest
