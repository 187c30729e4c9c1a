import LinkHarvest.Proofs.Run.Containment
import LinkHarvest.Proofs.Run.Written
import LinkHarvest.Proofs.Store.Batch
import LinkHarvest.Proofs.Store.Reachable

/-!
# The effect of a run

What a run that gives a result has made of the sources that it selected, and what it leaves in the
store: `run_effect`. The four modes come to the same: the verdicts on the selected sources
(`effect_of_verdicts`), of which a failed one writes no row, marks no subscription and has no
configs.
-/

namespace LinkHarvest

namespace Run

open Fallible

/-- The sources that the options select. -/
def selected (options : Options.FetchOptions) (files : Files) (store : Store) :
    Except Problem (List Source) :=
  match options.mode with
  | .byId =>
    match store.get (options.subscription.getD 0) with
    | .error p => .error (.source (.store p))
    | .ok subscription => .ok [.ofSubscription subscription]
  | .byUrl => .ok [.ofUrl (options.url.getD [])]
  | .allEnabled =>
    match store.list with
    | .error p => .error (.source (.store p))
    | .ok subscriptions => .ok ((subscriptions.filter (·.enabled)).map .ofSubscription)
  | .byFile =>
    match urlsIn files (options.file.getD (.ofText [])) with
    | .error p => .error p
    | .ok urls => .ok (urls.map .ofUrl)

/-- A subscription served configs, and nothing kept the store from noting the time. -/
def BatchResult.fetched (r : BatchResult) (store : Store) (id : Int) : Bool :=
  (store.refusal .mark).isNone &&
    r.outcomes.any fun o => o.ok && o.subscription == some id && !o.configs.isEmpty

/-- What a run with the result `r` makes of its sources and of the store `s.store`, which it leaves
as `t`. -/
structure Effect (setting : Setting) (options : Options.FetchOptions) (s : State)
    (sources : List Source) (r : BatchResult) (t : Store) : Prop where
  outcomes : List.Forall₂ (Contained setting options s) sources r.outcomes
  failed : ∀ o ∈ r.outcomes, o.ok = false → o.configs = []
  configs : r.configs = (r.outcomes.filter Outcome.ok).flatMap Outcome.configs
  upserted : ∃ u, (Store.ofDatabase s.store.database).upsert setting.now r.configs = (.ok (), u) ∧
    t.database.configs = u.database.configs
  oneRow : ∀ link ∈ r.links, ∃ c, t.database.rowsOf link = [c] ∧ c.lastSeenAt = setting.now
  untouched : ∀ link, link ∉ r.links → t.database.rowsOf link = s.store.database.rowsOf link
  subscriptions : t.database.subscriptions = s.store.database.subscriptions.map fun sub =>
    if r.fetched s.store sub.id then { sub with lastFetchedAt := some setting.now } else sub
  surroundings : t.isOpen = s.store.isOpen ∧ t.refusal = s.store.refusal ∧
    t.database.lastSubscription = s.store.database.lastSubscription

variable {setting : Setting} {options : Options.FetchOptions} {s : State} {source : Source}
  {sources : List Source}

/-! ## All sources -/

theorem rowsOf_putAll_of_mem {db : Database} {vs : List ConfigValues} {link : Text} {now : Instant}
    (hdistinct : db.LinksDistinct) (hlink : link ∈ vs.map ConfigValues.link)
    (hnow : ∀ v ∈ vs, v.lastSeenAt = now) :
    ∃ c, (db.putAll vs).rowsOf link = [c] ∧ c.lastSeenAt = now := by
  obtain ⟨c, -, hrows⟩ := Database.rowsOf_putAll_eq hdistinct hlink
  have hvalues : Database.valuesOf vs link ≠ [] := fun hnil =>
    Database.valuesOf_eq_nil.mp hnil hlink
  have hlast : Database.lastGiven (some ∘ ConfigValues.lastSeenAt) (Database.valuesOf vs link) =
      some now :=
    Database.lastGiven_of_const hvalues fun v hv =>
      congrArg some (hnow v (List.mem_of_mem_filter hv))
  refine ⟨_, hrows, ?_⟩
  rw [Database.refreshedBy_eq, hlast]
  rfl

/-- The config of a successful outcome was stored, for a link and at the time of the run. -/
structure Seen (setting : Setting) (s : State) (d : Draft) : Prop where
  stored : Store.Stored s.store setting.now d
  link : ∃ link, d.link = some link
  lastSeenAt : (Store.values setting.now d).lastSeenAt = setting.now

theorem seen_of_mem {all : List Turn} {os : List Outcome}
    (h : List.Forall₂ (Effected setting options s) all os) {d : Draft}
    (hd : d ∈ os.flatMap Outcome.configs) : Seen setting s d := by
  obtain ⟨o, ho, hd⟩ := List.mem_flatMap.mp hd
  obtain ⟨turn, -, heffected⟩ := exists_mem_of_forall₂ h ho
  obtain ⟨link, hkept⟩ := heffected.kept d hd
  exact ⟨heffected.stored d hd, ⟨link, hkept.same⟩, heffected.seen d hd⟩

theorem mem_links {r : BatchResult} {link : Text}
    (h : ∀ d ∈ r.configs, ∃ link, d.link = some link) :
    link ∈ r.links ↔
      link ∈ (r.configs.map (Store.values setting.now)).map ConfigValues.link := by
  rw [BatchResult.links, List.mem_filterMap, List.map_map, List.mem_map]
  refine exists_congr fun d => and_congr_right fun hd => ?_
  obtain ⟨link', hlink'⟩ := h d hd
  simp [Store.values, hlink']

/-- **The verdicts on the turns of a run determine what the run does.** -/
theorem effect_of_verdicts {r : BatchResult} {t : Store} (hreach : s.store.Reachable)
    (hverdicts :
      (turns setting options s sources).mapM (Turn.verdict setting options) = .ok r.outcomes)
    (hconfigs : r.configs = (r.outcomes.filter Outcome.ok).flatMap Outcome.configs)
    (hstore : t = (s.pastAll setting options sources).store) :
    Effect setting options s sources r t := by
  have hall := effected_of_verdicts hverdicts
  have hfailed : ∀ o ∈ r.outcomes, o.ok = false → o.configs = [] := by
    intro o ho
    obtain ⟨turn, -, heffected⟩ := exists_mem_of_forall₂ hall ho
    exact heffected.failed
  -- A failed source has no configs, so the rows of all sources are those of the result.
  have hwrites : (turns setting options s sources).flatMap (Turn.writes setting options) =
      r.configs.map (Store.values setting.now) := by
    rw [flatMap_writes hall, hconfigs, flatMap_configs hfailed]
  have hleft : r.configs.length ≤ s.store.database.numbersLeft := by
    have hlength := @turns_writes_length_le setting options s sources
    rw [hwrites, List.length_map] at hlength
    exact hlength
  have hseen : ∀ d ∈ r.configs, Seen setting s d := by
    intro d hd
    rw [hconfigs, flatMap_configs hfailed] at hd
    exact seen_of_mem hall hd
  have hlinks : ∀ link, link ∈ r.links ↔
      link ∈ (r.configs.map (Store.values setting.now)).map ConfigValues.link :=
    fun link => mem_links fun d hd => (hseen d hd).link
  subst hstore
  rw [State.pastAll_store, hwrites]
  refine ⟨contained_of_verdicts hverdicts, hfailed, hconfigs, ?_, ?_, ?_, ?_, rfl, rfl,
    Database.putAll_lastSubscription⟩
  · refine ⟨.ofDatabase (s.store.database.putAll (r.configs.map (Store.values setting.now))), ?_,
      rfl⟩
    have hrows : (Store.ofDatabase s.store.database).rowsFor setting.now r.configs =
        .ok (r.configs.map (Store.values setting.now)) :=
      Store.rowsFor_of_rows rfl (fun _ => rfl) hleft fun d hd => (hseen d hd).stored.row
    rw [Store.upsert_eq, hrows]
    rfl
  · intro link hlink
    apply rowsOf_putAll_of_mem hreach.linksDistinct ((hlinks link).mp hlink)
    intro v hv
    obtain ⟨d, hd, rfl⟩ := List.mem_map.mp hv
    exact (hseen d hd).lastSeenAt
  · intro link hlink
    exact Database.rowsOf_putAll_of_not_mem (mt (hlinks link).mpr hlink)
  · have hsubscriptions := @Database.putAll_subscriptions s.store.database
      (r.configs.map (Store.values setting.now))
    unfold Database.stamped
    dsimp only
    rw [hsubscriptions]
    refine List.map_congr_left fun sub _ => if_congr ?_ rfl rfl
    rw [mem_flatMap_marks hall, BatchResult.fetched]
    simp [Option.isNone_iff_eq_none, List.isEmpty_eq_false_iff, and_assoc]

/-! ## The modes -/

section modes

variable {files : Files} {r : BatchResult} {t : Store}

theorem Effect.exported (h : Effect setting options s sources r t) (output : Option Text) :
    Effect setting options s sources { r with output } t :=
  ⟨h.outcomes, h.failed, h.configs, h.upserted, h.oneRow, h.untouched, h.subscriptions,
    h.surroundings⟩

theorem Effect.of_logged {events : List Log.Event}
    (h : Effect setting options (s.logged events) sources r t) :
    Effect setting options s sources r t :=
  ⟨h.outcomes.imp fun _ _ ho => ⟨ho.url, ho.label, ho.subscription, ho.unserved, ho.served⟩,
    h.failed, h.configs, h.upserted, h.oneRow, h.untouched, h.subscriptions, h.surroundings⟩

theorem single_effect (hreach : s.store.Reachable)
    (h : (single setting options source s).1 = .ok r) :
    Effect setting options s [source] r (single setting options source s).2.store := by
  obtain ⟨hresult, -, hstore⟩ := (Job.mk source "1/1").process_eq setting options s
  unfold single at h ⊢
  generalize (Job.mk source "1/1").process setting options s = result at hresult hstore h ⊢
  obtain ⟨result, t⟩ := result
  cases result with
  | error p => cases h
  | ok o =>
    dsimp only at h ⊢
    cases hproblem : o.problem with
    | some p =>
      rw [hproblem] at h
      cases h
    | none =>
      rw [hproblem] at h
      have hr : ((Accumulator.start 1).add 0 o).result = .ofOutcomes 1 [o] := by
        have hperm : [(0, o)].Perm (Accumulator.positioned [o]) := List.Perm.refl _
        exact Accumulator.result_addAll hperm
      rw [hr] at h
      cases h
      refine effect_of_verdicts hreach ?_ ?_ hstore
      · have hverdict : (Turn.mk source s).verdict setting options = .ok o := hresult.symm
        rw [BatchResult.ofOutcomes_outcomes, turns, turns, List.mapM_cons, List.mapM_nil, hverdict]
        rfl
      · rw [BatchResult.ofOutcomes_configs, BatchResult.ofOutcomes_outcomes]

theorem workersInRange_of_result (h : (fanOut setting options sources s).1 = .ok r) :
    WorkersInRange options := by
  by_contra hworkers
  have herror : Retrieval.workersFor options.workers sources.length = .error ⟨options.workers⟩ := by
    unfold WorkersInRange at hworkers
    exact if_pos (by omega)
  unfold fanOut at h
  rw [herror] at h
  cases h

theorem fanOut_effect (s : State) (hreach : s.store.Reachable)
    (h : (fanOut setting options sources s).1 = .ok r) :
    Effect setting options s sources r (fanOut setting options sources s).2.store := by
  have hworkers := workersInRange_of_result h
  rw [fanOut_result hworkers] at h
  cases hverdicts : (turns setting options s sources).mapM (Turn.verdict setting options) with
  | error e =>
    rw [hverdicts] at h
    cases h
  | ok os =>
    rw [hverdicts] at h
    cases h
    refine effect_of_verdicts hreach ?_ ?_ (fanOut_after hworkers sources).2
    · rw [BatchResult.ofOutcomes_outcomes]
      exact hverdicts
    · rw [BatchResult.ofOutcomes_configs, BatchResult.ofOutcomes_outcomes]

theorem allEnabled_effect (hreach : s.store.Reachable)
    (h : (allEnabled setting options s).1 = .ok r) :
    ∃ subscriptions, s.store.list = .ok subscriptions ∧
      Effect setting options s ((subscriptions.filter (·.enabled)).map .ofSubscription) r
        (allEnabled setting options s).2.store := by
  unfold allEnabled at h ⊢
  cases hlist : s.store.list with
  | error p =>
    rw [hlist] at h
    cases h
  | ok subscriptions =>
    rw [hlist] at h
    refine ⟨subscriptions, rfl, ?_⟩
    dsimp only at h ⊢
    split at h
    · rename_i hempty
      cases h
      rw [if_pos hempty, List.isEmpty_iff.mp hempty]
      exact effect_of_verdicts hreach rfl rfl rfl
    · rename_i hsome
      rw [if_neg hsome]
      exact fanOut_effect s hreach h

theorem collect_effect (hreach : s.store.Reachable)
    (h : (collect setting options files s).1 = .ok r) :
    ∃ sources, selected options files s.store = .ok sources ∧
      Effect setting options s sources r (collect setting options files s).2.store := by
  unfold collect at h ⊢
  unfold selected
  cases hmode : options.mode with
  | byId =>
    rw [hmode] at h
    dsimp only at h ⊢
    unfold byId at h ⊢
    cases hget : s.store.get (options.subscription.getD 0) with
    | error p =>
      rw [hget] at h
      cases h
    | ok subscription =>
      rw [hget] at h
      exact ⟨_, rfl, single_effect hreach h⟩
  | byUrl =>
    rw [hmode] at h
    exact ⟨_, rfl, single_effect hreach h⟩
  | allEnabled =>
    rw [hmode] at h
    obtain ⟨subscriptions, hlist, heffect⟩ := allEnabled_effect hreach h
    dsimp only
    rw [hlist]
    exact ⟨_, rfl, heffect⟩
  | byFile =>
    rw [hmode] at h
    dsimp only at h ⊢
    unfold byFile at h ⊢
    cases hurls : urlsIn files (options.file.getD (.ofText [])) with
    | error p =>
      rw [hurls] at h
      cases h
    | ok urls =>
      rw [hurls] at h
      have heffect := fanOut_effect (State.logged s _) hreach h
      exact ⟨_, rfl, heffect.of_logged⟩

end modes

/-- **The effect of a run that gives a result.** Of every selected source that did not fail, the
links are kept, each once, and are upserted in the order of the sources; the time is noted at its
subscription; and nothing else in the store changes. -/
theorem run_effect (s : State) {files : Files} {r : BatchResult} (hreach : s.store.Reachable)
    (h : (run setting options files s).result = .ok r) :
    ∃ sources, selected options files s.store = .ok sources ∧
      Effect setting options s sources r (run setting options files s).state.store := by
  have hcollect := @collect_effect setting options s files
  unfold run at h ⊢
  generalize collect setting options files s = part at hcollect h ⊢
  obtain ⟨result, t⟩ := part
  cases result with
  | error p => cases h
  | ok r' =>
    obtain ⟨sources, hsources, heffect⟩ := hcollect hreach rfl
    refine ⟨sources, hsources, ?_⟩
    dsimp only at h ⊢
    cases houtput : options.output with
    | none =>
      rw [houtput] at h
      cases h
      exact heffect
    | some path =>
      rw [houtput] at h
      dsimp only at h ⊢
      split at h
      · rename_i hlinks
        rw [if_pos hlinks]
        unfold exportResult at h ⊢
        split at h
        · cases h
        · cases h
          exact heffect.exported _
      · rename_i hlinks
        rw [if_neg hlinks]
        cases h
        exact heffect

/-- An empty store to which one subscription is added. -/
def oneSubscription : Store :=
  ((Store.ofDatabase .empty).add ⟨63839750400000000⟩ "http://a/" none none).2

theorem oneSubscription_reachable : oneSubscription.Reachable := .add .new ..

/-- A page of three lines: a link, and one that cannot be decoded, twice. -/
def threeLines : Setting := .serving [("http://a/", pageOf "trojan://pw@h:443#B\nfoo\nfoo")]

/-- A repeated link is kept once, and one that cannot be decoded is kept as well. -/
theorem run_effect_of_three_lines :
    ∃ r, r.links = ["trojan://pw@h:443#B".toList, "foo".toList] ∧
      ∃ sources, selected allSources ⟨[], []⟩ oneSubscription = .ok sources ∧
        Effect threeLines allSources (.start oneSubscription []) sources r
          (run threeLines allSources ⟨[], []⟩ (.start oneSubscription [])).state.store := by
  have hlinks : (run threeLines allSources ⟨[], []⟩
      (.start oneSubscription [])).result.toOption.map BatchResult.links =
        some ["trojan://pw@h:443#B".toList, "foo".toList] := by decide +kernel
  cases hresult : (run threeLines allSources ⟨[], []⟩ (.start oneSubscription [])).result with
  | error p =>
    rw [hresult] at hlinks
    cases hlinks
  | ok r =>
    rw [hresult] at hlinks
    exact ⟨r, Option.some.inj hlinks,
      run_effect (State.start oneSubscription []) oneSubscription_reachable hresult⟩

end Run

end LinkHarvest
