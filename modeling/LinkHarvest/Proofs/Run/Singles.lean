import LinkHarvest.Proofs.Run.Orders
import LinkHarvest.Proofs.Run.Selection
import LinkHarvest.Proofs.Run.UrlFile
import LinkHarvest.Proofs.Store.Numbers

/-!
# A batch and its sources one by one

A run of several sources comes to what runs of its sources come to, one after the other, each from
the state that the one before it left: `batches_agree`. A run of a single source raises the problem
that the batch keeps in the outcome of the source, the store is the same in the end, and the totals
of the batch are the sums over the single runs that gave a result.
-/

namespace LinkHarvest

namespace Options.FetchOptions

/-! ## Options that differ in what they select -/

def ofSubscription (o : FetchOptions) (id : Int) : FetchOptions :=
  { o with subscription := some id, url := none, fetchAll := false, file := none }

def ofUrl (o : FetchOptions) (url : Text) : FetchOptions :=
  { o with subscription := none, url := some url, fetchAll := false, file := none }

def ofAll (o : FetchOptions) : FetchOptions :=
  { o with subscription := none, url := none, fetchAll := true, file := none }

def ofFile (o : FetchOptions) (path : FilePath) : FetchOptions :=
  { o with subscription := none, url := none, fetchAll := false, file := some path }

end Options.FetchOptions

namespace Run

open Fallible Database

variable {setting : Setting} {options batch : Options.FetchOptions} {s t : State} {source : Source}
  {sources : List Source} {files : Files} {singles : List Options.FetchOptions}
  {os : List Outcome}

/-- Runs one after the other. A run that ends with a problem does not keep the later ones back. -/
def runEach (setting : Setting) :
    List Options.FetchOptions → Files → State → List (Except Problem BatchResult) × Files × State
  | [], files, s => ([], files, s)
  | options :: rest, files, s =>
    let finished := run setting options files s
    let (results, files, s) := runEach setting rest finished.files finished.state
    (finished.result :: results, files, s)

/-- What a run of a single source gives, by the outcome that the source has in a batch. -/
def Outcome.alone (o : Outcome) : Except Problem BatchResult :=
  match o.problem with
  | some p => .error (.source p)
  | none => .ok (.ofOutcomes 1 [o])

/-- The result of a batch sums up the results of single runs: the outcome of a source has the
problem that ends the run of this source alone, and the totals are those of the runs that gave a
result. -/
structure SumsUp (results : List (Except Problem BatchResult)) (r : BatchResult) : Prop where
  each : results = r.outcomes.map Outcome.alone
  totalSources : r.totalSources = results.length
  failedSources : r.failedSources + (results.filterMap Except.toOption).length = results.length
  totalLinks : r.totalLinks = ((results.filterMap Except.toOption).map BatchResult.totalLinks).sum
  totalConfigs :
    r.totalConfigs = ((results.filterMap Except.toOption).map BatchResult.totalConfigs).sum
  configs : r.configs = (results.filterMap Except.toOption).flatMap BatchResult.configs

/-- A batch and runs of its sources one by one come to the same. When the sources of the batch take
their steps in turns, and numbers are left for their rows, the result is the same, and the rows in
the store are the same up to the numbers of new rows and the owner of a link that several
subscriptions serve. -/
structure Agree (setting : Setting) (batch : Options.FetchOptions)
    (singles : List Options.FetchOptions) (sources : List Source) (files : Files) (s : State) :
    Prop where
  store : (run setting batch files s).state.store = (runEach setting singles files s).2.2.store
  sums : ∃ r, (run setting batch files s).result = .ok r ∧
    SumsUp (runEach setting singles files s).1 r ∧
    (NumbersLeft setting batch s sources →
      ∀ schedule, Completes setting batch sources s schedule →
        (interleaved setting batch sources schedule s).1 = .ok r ∧
          Agreeing r s.store (interleaved setting batch sources schedule s).2.store
            (runEach setting singles files s).2.2.store)

/-! ## Single runs -/

/-- The options select one source and fetch it as a batch does. -/
structure Selects (batch : Options.FetchOptions) (files : Files) (store : Store)
    (options : Options.FetchOptions) (source : Source) : Prop where
  mode : isSingle options.mode = true
  agent : options.agent = batch.agent
  proxy : options.proxy = batch.proxy
  workers : options.workers = batch.workers
  output : options.output = none
  selected : selected options files store = .ok [source]

theorem resultOf_single {mode : Options.Mode} {o : Outcome} (hmode : isSingle mode = true) :
    resultOf mode (.ok [o]) = o.alone := by
  unfold resultOf Outcome.alone
  rw [hmode]
  cases hproblem : o.problem <;> simp [hproblem]

theorem run_alone {o : Outcome} (hworkers : WorkersInRange batch)
    (h : Selects batch files s.store options source)
    (hverdict : source.verdict setting batch s = .ok o) :
    (run setting options files s).result = o.alone ∧ (run setting options files s).files = files ∧
      After setting batch s (run setting options files s).state [source] := by
  have hworkers' : WorkersInRange options := by
    unfold WorkersInRange
    rw [h.workers]
    exact hworkers
  have hverdicts : [source].mapM (Source.verdict setting options s) = .ok [o] := by
    rw [List.mapM_cons, List.mapM_nil, Source.verdict_options h.agent h.proxy, hverdict]
    rfl
  obtain ⟨hresult, hfiles⟩ := @run_without_output setting options s files h.output
  refine ⟨?_, hfiles, ?_⟩
  · rw [hresult, (collect_of_selected hworkers' h.selected).1, mapM_verdict_singleton, hverdicts,
      resultOf_single h.mode]
  · exact (run_after hworkers' h.selected).congr_options h.agent h.proxy

theorem Selects.after {more : List Source} (h : Selects batch files s.store options source)
    (hafter : After setting batch s t more) : Selects batch files t.store options source := by
  refine ⟨h.mode, h.agent, h.proxy, h.workers, h.output, ?_⟩
  rw [hafter.selected]
  exact h.selected

/-- **Single runs come to the verdicts on their sources.** -/
theorem runEach_of_selects (hworkers : WorkersInRange batch)
    (h : List.Forall₂ (Selects batch files s.store) singles sources)
    (hverdicts :
      (turns setting batch s sources).mapM (Turn.verdict setting batch) = .ok os) :
    (runEach setting singles files s).1 = os.map Outcome.alone ∧
      After setting batch s (runEach setting singles files s).2.2 sources := by
  induction singles generalizing sources s os with
  | nil =>
    cases h
    cases hverdicts
    exact ⟨rfl, .nil rfl rfl⟩
  | cons options singles ih =>
    cases h with
    | @cons _ source _ sources hfirst hrest =>
    rw [turns, List.mapM_cons] at hverdicts
    obtain ⟨o, ho, hverdicts⟩ := bind_eq_ok.mp hverdicts
    obtain ⟨os, hos, hverdicts⟩ := bind_eq_ok.mp hverdicts
    cases hverdicts
    obtain ⟨hresult, hfiles, hafter⟩ := run_alone hworkers hfirst ho
    unfold runEach
    generalize run setting options files s = finished at hresult hfiles hafter ⊢
    dsimp only
    rw [hfiles]
    -- The later runs select and fetch the same sources as if this one had not been.
    have hselects : List.Forall₂ (Selects batch files finished.state.store) singles sources :=
      hrest.imp fun _ _ hone => hone.after hafter
    have hsame : (turns setting batch finished.state sources).mapM (Turn.verdict setting batch) =
        .ok os := by
      rw [← hos]
      exact mapM_verdict_congr (hafter.frame.trans (State.past_frame _).symm) hafter.store sources
    obtain ⟨hresults, hafter'⟩ := ih hselects hsame
    refine ⟨?_, ?_⟩
    · rw [List.map_cons, hresult]
      exact congrArg _ hresults
    · exact hafter.trans hafter'

/-! ## Sums -/

theorem filterMap_alone (os : List Outcome) :
    (os.map Outcome.alone).filterMap Except.toOption =
      (os.filter Outcome.ok).map fun o => .ofOutcomes 1 [o] := by
  induction os with
  | nil => rfl
  | cons o os ih =>
    rw [List.map_cons, List.filterMap_cons, ih]
    cases hproblem : o.problem with
    | some p =>
      have hok : o.ok = false := by simp [Outcome.ok, hproblem]
      simp [Outcome.alone, hproblem, hok, Except.toOption]
    | none =>
      have hok : o.ok = true := by simp [Outcome.ok, hproblem]
      simp [Outcome.alone, hproblem, hok, Except.toOption]

theorem ofOutcomes_of_ok {o : Outcome} (hok : o.ok = true) :
    (BatchResult.ofOutcomes 1 [o]).totalLinks = o.rawCount ∧
      (BatchResult.ofOutcomes 1 [o]).totalConfigs = o.configs.length ∧
      (BatchResult.ofOutcomes 1 [o]).configs = o.configs := by
  simp [BatchResult.ofOutcomes_eq, hok]

theorem sumsUp_ofOutcomes (os : List Outcome) :
    SumsUp (os.map Outcome.alone) (.ofOutcomes os.length os) := by
  have hok : ∀ o ∈ os.filter Outcome.ok, o.ok = true := fun o ho => (List.mem_filter.mp ho).2
  have hlinks : (os.filter Outcome.ok).map
      (BatchResult.totalLinks ∘ fun o => .ofOutcomes 1 [o]) =
        (os.filter Outcome.ok).map Outcome.rawCount :=
    List.map_congr_left fun o ho => (ofOutcomes_of_ok (hok o ho)).1
  have hconfigs : (os.filter Outcome.ok).map
      (BatchResult.totalConfigs ∘ fun o => .ofOutcomes 1 [o]) =
        (os.filter Outcome.ok).map fun o => o.configs.length :=
    List.map_congr_left fun o ho => (ofOutcomes_of_ok (hok o ho)).2.1
  have hall : (os.filter Outcome.ok).flatMap (fun o => (BatchResult.ofOutcomes 1 [o]).configs) =
      (os.filter Outcome.ok).flatMap Outcome.configs :=
    List.flatMap_congr fun o ho => (ofOutcomes_of_ok (hok o ho)).2.2
  have hsplit := List.length_eq_length_filter_add (l := os) Outcome.ok
  refine ⟨?_, ?_, ?_, ?_, ?_, ?_⟩
  · rw [BatchResult.ofOutcomes_outcomes]
  · rw [BatchResult.ofOutcomes_eq, List.length_map]
  · rw [filterMap_alone, BatchResult.ofOutcomes_eq, List.length_map, List.length_map]
    dsimp only
    omega
  · rw [filterMap_alone, List.map_map, hlinks, BatchResult.ofOutcomes_eq]
  · rw [filterMap_alone, List.map_map, hconfigs, BatchResult.ofOutcomes_eq]
  · rw [filterMap_alone, List.flatMap_map, hall, BatchResult.ofOutcomes_eq]

/-! ## Batches -/

/-- **A batch agrees with the runs of its sources**, if every source has an outcome. -/
theorem agree_of_selects (hworkers : WorkersInRange batch) (houtput : batch.output = none)
    (hmode : isSingle batch.mode = false) (hbatch : selected batch files s.store = .ok sources)
    (h : List.Forall₂ (Selects batch files s.store) singles sources)
    (hverdicts :
      (turns setting batch s sources).mapM (Turn.verdict setting batch) = .ok os) :
    Agree setting batch singles sources files s := by
  obtain ⟨hresults, hsingles⟩ := runEach_of_selects hworkers h hverdicts
  have hafter : After setting batch s (run setting batch files s).state sources :=
    run_after hworkers hbatch
  have hlength : sources.length = os.length := by
    rw [← (mapM_eq_ok hverdicts).length_eq, ← List.length_map Turn.source, turns_source]
  have hresult : (run setting batch files s).result = .ok (.ofOutcomes os.length os) := by
    rw [(run_without_output houtput).1, (collect_of_selected hworkers hbatch).1, hverdicts]
    unfold resultOf
    rw [hmode]
    rfl
  refine ⟨?_, .ofOutcomes os.length os, hresult, ?_, ?_⟩
  · rw [hafter.store, hsingles.store]
  · rw [hresults]
    exact sumsUp_ofOutcomes os
  · intro hnumbers schedule hcompletes
    obtain ⟨hsame, rows, ids, hrows, hids, hstore⟩ :=
      interleaved_complete hworkers hnumbers ((mapM_verdict_atOnce hnumbers).symm.trans hverdicts)
        hcompletes
    rw [← flatMap_writes_atOnce hnumbers] at hrows
    rw [← flatMap_marks_atOnce hnumbers] at hids
    refine ⟨hlength ▸ hsame, agreeing_of_perm (effected_of_verdicts hverdicts) hrows
      (List.Perm.refl _) hids ?_ ?_⟩
    · rw [hstore]
    · rw [hsingles.store, State.pastAll_store]

/-! ## All enabled subscriptions, and the URLs in a file -/

/-- The enabled subscriptions in the order of their numbers. -/
def enabled (store : Store) : List Subscription := store.database.subscriptions.filter (·.enabled)

theorem selected_ofSubscription (store : Store) (id : Int) :
    selected (options.ofSubscription id) files store =
      ((store.get id).map fun sub => [.ofSubscription sub]).mapError (.source ∘ .store) := by
  have hmode : (options.ofSubscription id).mode = .byId := rfl
  have hid : (options.ofSubscription id).subscription.getD 0 = id := rfl
  rw [selected, hmode]
  dsimp only
  rw [hid]
  cases store.get id <;> rfl

theorem selected_ofAll (store : Store) :
    selected options.ofAll files store =
      (store.list.map fun subs => (subs.filter (·.enabled)).map .ofSubscription).mapError
        (.source ∘ .store) := by
  have hmode : options.ofAll.mode = .allEnabled := rfl
  rw [selected, hmode]
  dsimp only
  cases store.list <;> rfl

theorem selected_ofFile (store : Store) (path : FilePath) :
    selected (options.ofFile path) files store = (urlsIn files path).map (List.map .ofUrl) := by
  have hmode : (options.ofFile path).mode = .byFile := rfl
  have hpath : (options.ofFile path).file.getD (.ofText []) = path := rfl
  rw [selected, hmode]
  dsimp only
  rw [hpath]
  cases urlsIn files path <;> rfl

theorem selects_subscription (houtput : options.output = none) (hkeyed : s.store.database.Keyed)
    (hopen : s.store.isOpen = true) (hget : s.store.refusal .get = none) {sub : Subscription}
    (hsub : sub ∈ enabled s.store) :
    Selects options.ofAll files s.store (options.ofSubscription sub.id) (.ofSubscription sub) := by
  have hmem : sub ∈ s.store.database.subscriptions := List.mem_of_mem_filter hsub
  refine ⟨rfl, rfl, rfl, rfl, houtput, ?_⟩
  rw [selected_ofSubscription, Store.get_of_mem hkeyed hopen hget hmem]
  rfl

theorem selects_url (houtput : options.output = none) (path : FilePath) (store : Store)
    (url : Text) : Selects (options.ofFile path) files store (options.ofUrl url) (.ofUrl url) :=
  ⟨rfl, rfl, rfl, rfl, houtput, rfl⟩

theorem list_eq (hlist : s.store.refusal .list = none) :
    s.store.list = if s.store.isOpen then .ok s.store.database.subscriptions
      else .error (.closed .reading) := by
  simp only [Store.list, Store.checkRefusal, Store.checkOpen, hlist]
  cases s.store.isOpen <;> rfl

theorem fits_of_keyed (hkeyed : s.store.database.Keyed) {sub : Subscription}
    (hsub : sub ∈ enabled s.store) : (Source.ofSubscription sub).Fits := by
  intro id hid
  cases hid
  exact hkeyed.fits sub (List.mem_of_mem_filter hsub)

theorem agree_ofAll (hworkers : WorkersInRange options) (hclock : setting.ClockInRange)
    (houtput : options.output = none) (hkeyed : s.store.database.Keyed)
    (hlist : s.store.refusal .list = none) (hget : s.store.refusal .get = none)
    (hopen : s.store.isOpen = true)
    (hremarks : ∀ sub ∈ enabled s.store,
      (Source.ofSubscription sub).RemarksStorable setting options s) :
    Agree setting options.ofAll ((enabled s.store).map fun sub => options.ofSubscription sub.id)
      ((enabled s.store).map .ofSubscription) files s := by
  have hstorable : ∀ source ∈ (enabled s.store).map Source.ofSubscription,
      ¬source.Breaks setting options.ofAll s := by
    intro source hsource
    obtain ⟨sub, hsub, rfl⟩ := List.mem_map.mp hsource
    exact Source.RemarksStorable.not_breaks (hremarks sub hsub)
  have hfits : ∀ source ∈ (enabled s.store).map Source.ofSubscription, source.Fits := by
    intro source hsource
    obtain ⟨sub, hsub, rfl⟩ := List.mem_map.mp hsource
    exact fits_of_keyed hkeyed hsub
  obtain ⟨os, hos⟩ := mapM_verdict_ok hclock hfits (not_breaks_of_mem_turns hstorable)
  have hselected : selected options.ofAll files s.store =
      .ok ((enabled s.store).map .ofSubscription) := by
    rw [selected_ofAll, list_eq hlist, if_pos hopen]
    rfl
  refine agree_of_selects hworkers houtput rfl hselected ?_ hos
  rw [List.forall₂_map_left_iff, List.forall₂_map_right_iff, List.forall₂_same]
  intro sub hsub
  exact selects_subscription houtput hkeyed hopen hget hsub

theorem agree_ofFile (hworkers : WorkersInRange options) (hclock : setting.ClockInRange)
    (houtput : options.output = none) {path : FilePath} {urls : List Text}
    (hurls : urlsIn files path = .ok urls)
    (hremarks : ∀ url ∈ urls, (Source.ofUrl url).RemarksStorable setting options s) :
    Agree setting (options.ofFile path) (urls.map options.ofUrl) (urls.map .ofUrl) files s := by
  have hstorable : ∀ source ∈ urls.map Source.ofUrl,
      ¬source.Breaks setting (options.ofFile path) s := by
    intro source hsource
    obtain ⟨url, hurl, rfl⟩ := List.mem_map.mp hsource
    exact Source.RemarksStorable.not_breaks (hremarks url hurl)
  have hfits : ∀ source ∈ urls.map Source.ofUrl, source.Fits := by
    intro source hsource
    obtain ⟨url, -, rfl⟩ := List.mem_map.mp hsource
    exact fits_ofUrl url
  obtain ⟨os, hos⟩ := mapM_verdict_ok hclock hfits (not_breaks_of_mem_turns hstorable)
  have hselected : selected (options.ofFile path) files s.store = .ok (urls.map .ofUrl) := by
    rw [selected_ofFile, hurls]
    rfl
  refine agree_of_selects hworkers houtput rfl hselected ?_ hos
  rw [List.forall₂_map_left_iff, List.forall₂_map_right_iff, List.forall₂_same]
  intro url _
  exact selects_url houtput path s.store url

/-! ## Stores that cannot be read -/

theorem run_closed (hlist : s.store.refusal .list = none) (hopen : s.store.isOpen = false) :
    run setting options.ofAll files s =
      ⟨.error (.source (.store (.closed .reading))), files, s⟩ := by
  apply run_of_selected_error
  rw [selected_ofAll, list_eq hlist, hopen]
  rfl

theorem runEach_closed (hget : s.store.refusal .get = none) (hopen : s.store.isOpen = false)
    (ids : List Int) :
    runEach setting (ids.map options.ofSubscription) files s =
      (ids.map fun _ => .error (.source (.store (.closed .reading))), files, s) := by
  have hclosed : ∀ id, s.store.get id = .error (.closed .reading) := by
    intro id
    simp only [Store.get, Store.checkRefusal, Store.checkOpen, hget, hopen]
    rfl
  have hone : ∀ id, run setting (options.ofSubscription id) files s =
      ⟨.error (.source (.store (.closed .reading))), files, s⟩ := by
    intro id
    apply run_of_selected_error
    rw [selected_ofSubscription, hclosed]
    rfl
  induction ids with
  | nil => rfl
  | cons id ids ih =>
    rw [List.map_cons, runEach, hone]
    dsimp only
    rw [ih]
    rfl

/-! ## Batches and single runs -/

/-- **A batch comes to what its sources come to one by one.** A run of all enabled subscriptions
agrees with runs of the enabled subscriptions in the order of their numbers, and a run of the URLs
in a file with runs of its non-blank lines. A store that is closed lets no run begin, and a file
without URLs is a problem. -/
theorem batches_agree (hworkers : WorkersInRange options) (hclock : setting.ClockInRange)
    (houtput : options.output = none) (hkeyed : s.store.database.Keyed)
    (hlist : s.store.refusal .list = none) (hget : s.store.refusal .get = none) :
    (s.store.isOpen = true →
      (∀ sub ∈ enabled s.store,
        (Source.ofSubscription sub).RemarksStorable setting options s) →
      Agree setting options.ofAll ((enabled s.store).map fun sub => options.ofSubscription sub.id)
        ((enabled s.store).map .ofSubscription) files s) ∧
    (s.store.isOpen = false →
      run setting options.ofAll files s =
          ⟨.error (.source (.store (.closed .reading))), files, s⟩ ∧
        runEach setting ((enabled s.store).map fun sub => options.ofSubscription sub.id) files s =
          ((enabled s.store).map fun _ => .error (.source (.store (.closed .reading))),
            files, s)) ∧
    ∀ path t, files.read path = .ok (Utf8.encode t) → '\r' ∉ t →
      (Text.nonBlankLines t ≠ [] →
        (∀ url ∈ Text.nonBlankLines t, (Source.ofUrl url).RemarksStorable setting options s) →
        Agree setting (options.ofFile path) ((Text.nonBlankLines t).map options.ofUrl)
          ((Text.nonBlankLines t).map .ofUrl) files s) ∧
      (Text.nonBlankLines t = [] →
        run setting (options.ofFile path) files s = ⟨.error (.noUrls path), files, s⟩) := by
  refine ⟨?_, ?_, ?_⟩
  · intro hopen hremarks
    exact agree_ofAll hworkers hclock houtput hkeyed hlist hget hopen hremarks
  · intro hopen
    refine ⟨run_closed hlist hopen, ?_⟩
    have hids := @runEach_closed setting options s files hget hopen
      ((enabled s.store).map Subscription.id)
    rw [List.map_map, List.map_map] at hids
    exact hids
  · intro path t hread hreturns
    have hurls := urlsIn_of_read hread
    rw [Text.withLineFeeds_of_not_mem hreturns] at hurls
    refine ⟨?_, ?_⟩
    · intro hlines hremarks
      rw [if_neg hlines] at hurls
      exact agree_ofFile hworkers hclock houtput hurls hremarks
    · intro hlines
      rw [if_pos hlines] at hurls
      apply run_of_selected_error
      rw [selected_ofFile, hurls]
      rfl

/-- Two URLs with a blank line between them. -/
def twoUrls : Text := "http://a/\n \nhttp://b/\n"

def urlFile : Files := ⟨[], [(["urls".toList], .file (Utf8.encode twoUrls))]⟩

theorem twoSubscriptions_reachable : twoSubscriptions.store.Reachable := .add (.add .new ..) ..

/-- Two subscriptions that serve the same link, and the same two URLs in a file. -/
theorem batches_agree_on_samePage :
    Agree samePage allSources.ofAll [allSources.ofSubscription 1, allSources.ofSubscription 2]
        twoSources urlFile twoSubscriptions ∧
      Agree samePage (allSources.ofFile (.ofText "urls"))
        [allSources.ofUrl "http://a/", allSources.ofUrl "http://b/"]
        [.ofUrl "http://a/", .ofUrl "http://b/"] urlFile twoSubscriptions := by
  have hsources : (enabled twoSubscriptions.store).map Source.ofSubscription = twoSources := by
    decide +kernel
  have hsubs : ∀ sub ∈ enabled twoSubscriptions.store,
      (Source.ofSubscription sub).RemarksStorable samePage allSources twoSubscriptions := by
    intro sub hsub
    apply samePage_storable
    rw [← hsources]
    exact List.mem_map_of_mem hsub
  have hsingles : (enabled twoSubscriptions.store).map
      (fun sub => allSources.ofSubscription sub.id) =
        [allSources.ofSubscription 1, allSources.ofSubscription 2] := by decide +kernel
  have hlines : Text.nonBlankLines twoUrls =
      ["http://a/".toList, "http://b/".toList] := by decide +kernel
  have hurls : ∀ url ∈ Text.nonBlankLines twoUrls,
      (Source.ofUrl url).RemarksStorable samePage allSources twoSubscriptions := by
    have hserved : ∀ url ∈ Text.nonBlankLines twoUrls,
        (Source.ofUrl url).served samePage allSources twoSubscriptions = .ok ["foo".toList] := by
      decide +kernel
    intro url hurl lines hserves link hlink
    rw [hserved url hurl] at hserves
    cases hserves
    rw [List.mem_singleton.mp hlink]
    exact foo_storable
  obtain ⟨hall, -, hfile⟩ := @batches_agree samePage allSources twoSubscriptions urlFile
    allSources_workers samePage_clock rfl twoSubscriptions_reachable.keyed rfl rfl
  have hread := (hfile (.ofText "urls") twoUrls (by decide +kernel) (by decide +kernel)).1
  refine ⟨?_, ?_⟩
  · rw [← hsources, ← hsingles]
    exact hall rfl hsubs
  · have hagree := hread (by rw [hlines]; exact List.cons_ne_nil _ _) hurls
    rw [hlines] at hagree
    exact hagree

end Run

end LinkHarvest
