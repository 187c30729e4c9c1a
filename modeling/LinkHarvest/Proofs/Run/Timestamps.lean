import LinkHarvest.Proofs.Run.Orders
import LinkHarvest.Proofs.Run.Requests

/-!
# Runs whose timestamps fail

Whether the times can be noted at the subscriptions does not matter to a run. Two runs are compared
step by step, which differ in the call that notes a time: one takes the call of the store, and one a
call that fails. Their states differ in the times of subscriptions and in the log at most (`Alike`),
and `failing_timestamps` says that all the rest of the runs is equal. The step that counts is the
one after the rows of a source are stored (`mark_alike`): from then on its outcome is settled.
-/

namespace LinkHarvest

namespace Run

open Fallible

variable {setting : Setting} {options : Options.FetchOptions} {s t u : State} {j : Job}
  {files : Files}

/-! ## States that differ in times -/

/-- A subscription without the time at which it was fetched. -/
def unfetched (sub : Subscription) : Subscription := { sub with lastFetchedAt := none }

/-- Stores that differ in the times at which subscriptions were fetched at most. -/
structure SameButFetched (s t : Store) : Prop where
  configs : s.database.configs = t.database.configs
  subscriptions : s.database.subscriptions.map unfetched = t.database.subscriptions.map unfetched
  counters : s.database.lastSubscription = t.database.lastSubscription ∧
    s.database.lastConfig = t.database.lastConfig
  surroundings : s.isOpen = t.isOpen ∧ s.refusal = t.refusal

/-- States that differ in the times at which subscriptions were fetched, and in the log, at most. -/
structure Alike (s t : State) : Prop where
  clients : s.clients = t.clients
  sent : s.sent = t.sent
  store : SameButFetched s.store t.store

theorem SameButFetched.refl (s : Store) : SameButFetched s s := ⟨rfl, rfl, ⟨rfl, rfl⟩, ⟨rfl, rfl⟩⟩

theorem Alike.refl (s : State) : Alike s s := ⟨rfl, rfl, .refl s.store⟩

theorem Alike.logged (h : Alike s t) (events events' : List Log.Event) :
    Alike (s.logged events) (t.logged events') := ⟨h.clients, h.sent, h.store⟩

theorem map_unfetched {α : Type} {f : Subscription → α} (hf : ∀ sub, f (unfetched sub) = f sub)
    (subs : List Subscription) : (subs.map unfetched).map f = subs.map f := by
  rw [List.map_map]
  exact List.map_congr_left fun sub _ => hf sub

theorem SameButFetched.frame {s t : Store} (h : SameButFetched s t) : s.frame = t.frame := by
  have hids : s.database.subscriptions.map Subscription.id =
      t.database.subscriptions.map Subscription.id := by
    have hid : ∀ sub, (unfetched sub).id = sub.id := fun _ => rfl
    rw [← map_unfetched hid, h.subscriptions, map_unfetched hid]
  unfold Store.frame
  rw [hids, h.surroundings.1, h.surroundings.2]

theorem SameButFetched.numbersLeft {s t : Store} (h : SameButFetched s t) :
    s.database.numbersLeft = t.database.numbersLeft := by
  unfold Database.numbersLeft
  rw [h.counters.2]

theorem Alike.frame (h : Alike s t) (proxy : Option Text) : s.frame proxy = t.frame proxy := by
  unfold State.frame
  rw [h.clients, h.store.frame]

/-! ## What the store answers -/

theorem SameButFetched.get {s t : Store} (h : SameButFetched s t) (id : Int) :
    (s.get id).map Source.ofSubscription = (t.get id).map Source.ofSubscription := by
  have hfind : ∀ subs : List Subscription,
      (subs.find? fun sub => sub.id = id).map Source.ofSubscription =
        ((subs.map unfetched).find? fun sub => sub.id = id).map Source.ofSubscription := by
    intro subs
    rw [List.find?_map, Option.map_map]
    rfl
  have hfound : (s.database.subscription? id).map Source.ofSubscription =
      (t.database.subscription? id).map Source.ofSubscription := by
    unfold Database.subscription?
    rw [hfind, h.subscriptions, ← hfind]
  simp only [Store.get, Store.checkRefusal, Store.checkOpen, h.surroundings.1, h.surroundings.2]
  cases t.refusal .get with
  | some message => rfl
  | none =>
    cases t.isOpen with
    | false => rfl
    | true =>
      cases Store.checkInteger id with
      | error p => rfl
      | ok _ =>
        simp only [ok_bind, if_true]
        cases hs : s.database.subscription? id <;> cases ht : t.database.subscription? id <;>
          rw [hs, ht] at hfound
        · cases hfound
        · cases hfound
        · exact congrArg Except.ok (Option.some.inj hfound)

theorem SameButFetched.list {s t : Store} (h : SameButFetched s t) :
    s.list.map (fun subs => (subs.filter (·.enabled)).map Source.ofSubscription) =
      t.list.map (fun subs => (subs.filter (·.enabled)).map Source.ofSubscription) := by
  have hsources : ∀ subs : List Subscription,
      (subs.filter (·.enabled)).map Source.ofSubscription =
        ((subs.map unfetched).filter (·.enabled)).map Source.ofSubscription := by
    intro subs
    rw [List.filter_map, List.map_map]
    rfl
  simp only [Store.list, Store.checkRefusal, Store.checkOpen, h.surroundings.1, h.surroundings.2]
  cases t.refusal .list with
  | some message => rfl
  | none =>
    cases t.isOpen with
    | false => rfl
    | true =>
      have hsame : (s.database.subscriptions.filter (·.enabled)).map Source.ofSubscription =
          (t.database.subscriptions.filter (·.enabled)).map Source.ofSubscription := by
        rw [hsources, h.subscriptions, ← hsources]
      exact congrArg Except.ok hsame

/-! ## What the store keeps -/

theorem putAll_configs_congr {db db' : Database} (hconfigs : db.configs = db'.configs)
    (hlast : db.lastConfig = db'.lastConfig) (vs : List ConfigValues) :
    (db.putAll vs).configs = (db'.putAll vs).configs := by
  induction vs generalizing db db' with
  | nil => exact hconfigs
  | cons v vs ih =>
    rw [Database.putAll_cons, Database.putAll_cons]
    apply ih
    · unfold Database.put Database.config?
      dsimp only
      rw [hconfigs, hlast]
    · unfold Database.put
      dsimp only
      rw [hlast]

theorem SameButFetched.putAll {s t : Store} (h : SameButFetched s t) (vs : List ConfigValues) :
    SameButFetched { s with database := s.database.putAll vs }
      { t with database := t.database.putAll vs } := by
  refine ⟨putAll_configs_congr h.configs h.counters.2 vs, ?_, ⟨?_, ?_⟩, h.surroundings⟩
  · rw [Database.putAll_subscriptions, Database.putAll_subscriptions]
    exact h.subscriptions
  · rw [Database.putAll_lastSubscription, Database.putAll_lastSubscription]
    exact h.counters.1
  · rw [Database.putAll_lastConfig, Database.putAll_lastConfig, h.counters.2]

theorem SameButFetched.stamped {s t : Store} (h : SameButFetched s t) (ids : List Int)
    (i : Instant) : SameButFetched { s with database := s.database.stamped ids i } t := by
  refine ⟨h.configs, ?_, h.counters, h.surroundings⟩
  rw [← h.subscriptions]
  show (s.database.subscriptions.map _).map unfetched = _
  rw [List.map_map]
  apply List.map_congr_left
  intro sub _
  simp only [Function.comp]
  split <;> rfl

/-! ## The steps of a source -/

/-- Every call fails, with a problem that may depend on the number of the subscription. -/
def failing (fail : Int → StoreProblem) : Job.Noting := fun store id _ => (.error (fail id), store)

/-- Two steps that come to the same and leave states that are alike. -/
structure AlikeStep {α : Type} (x y : α × State) : Prop where
  result : x.1 = y.1
  state : Alike x.2 y.2

/-- The progress of two runs that have processed the same sources. -/
structure AlikeProgress (p q : Progress) : Prop where
  accumulator : p.accumulator = q.accumulator
  escaped : p.escaped = q.escaped
  state : Alike p.state q.state

theorem fetch_alike (h : Alike s t) :
    AlikeStep (j.fetch setting options s) (j.fetch setting options t) := by
  unfold Job.fetch
  rw [h.clients, h.sent]
  dsimp only
  split
  · exact ⟨rfl, rfl, rfl, h.store⟩
  · exact ⟨rfl, rfl, rfl, h.store⟩

theorem store_alike (h : Alike s t) (lines : List Text) :
    AlikeStep (j.store setting lines s) (j.store setting lines t) := by
  have hrows : j.source.rows setting s lines = j.source.rows setting t lines := by
    unfold Source.rows
    rw [Store.rowsFor_congr h.store.frame (Store.sameNumbers_of_eq h.store.numbersLeft)]
  rw [Job.store_eq, Job.store_eq, hrows]
  cases j.source.rows setting t lines with
  | ok rows => exact ⟨rfl, h.clients, h.sent, h.store.putAll rows⟩
  | error p =>
    dsimp only
    split
    · exact ⟨rfl, h.clients, h.sent, h.store⟩
    · exact ⟨rfl, h.clients, h.sent, h.store⟩

theorem Alike.trans (h : Alike s t) (h' : Alike t u) : Alike s u := by
  refine ⟨h.clients.trans h'.clients, h.sent.trans h'.sent, ?_⟩
  obtain ⟨hconfigs, hsubs, ⟨hlast, hlast'⟩, hopen, hrefusal⟩ := h.store
  obtain ⟨kconfigs, ksubs, ⟨klast, klast'⟩, kopen, krefusal⟩ := h'.store
  exact ⟨hconfigs.trans kconfigs, hsubs.trans ksubs, ⟨hlast.trans klast, hlast'.trans klast'⟩,
    hopen.trans kopen, hrefusal.trans krefusal⟩

/-- When the links of a source are stored, they are links that the store has taken. -/
def Phase.Settled (setting : Setting) (s : State) (source : Source) : Phase → Prop
  | .stored _ configs => ∃ lines, configs = source.drafts setting lines ∧
      ∀ d ∈ configs, Store.Stored s.store setting.now d
  | _ => True

theorem Job.advance_settled {phase : Phase} :
    (j.advance setting options phase s).1.Settled setting
      (j.advance setting options phase s).2 j.source := by
  have hkept := State.frame_store (@advance_frame setting options s j phase)
  cases hphase : (j.advance setting options phase s).1 with
  | stored rawCount configs =>
    cases phase with
    | waiting =>
      rw [advance, fetch_phase] at hphase
      split at hphase <;> cases hphase
    | fetched lines =>
      rw [advance, store_phase] at hphase
      split at hphase
      · rename_i rows hrows
        cases hphase
        exact ⟨lines, rfl, fun d hd => ((Source.rows_eq_ok hrows).2.2 d hd).congr hkept.symm⟩
      · split at hphase <;> cases hphase
    | stored rawCount' configs' =>
      have hremaining := @advance_remaining setting options j (.stored rawCount' configs') s
      rw [hphase] at hremaining
      simp [Phase.remaining] at hremaining
    | finished result => cases hphase
  | _ => trivial

section failing

variable {fail : Int → StoreProblem} (hfail : ∀ id, (fail id).isReported = true)

include hfail

theorem failing_mark (rawCount : Nat) (configs : List Draft) :
    (j.mark setting rawCount configs s (failing fail)).1 =
        .finished (.ok (j.source.outcome configs rawCount none)) ∧
      Alike s (j.mark setting rawCount configs s (failing fail)).2 := by
  unfold Job.mark
  cases j.source.subscription with
  | none => exact ⟨rfl, rfl, rfl, .refl s.store⟩
  | some id =>
    dsimp only
    split
    · exact ⟨rfl, rfl, rfl, .refl s.store⟩
    · simp only [failing, hfail, if_true]
      exact ⟨rfl, rfl, rfl, .refl s.store⟩

/-- **A mark that fails comes to what a mark comes to**: once the rows of a source are stored, the
outcome of the source is settled. -/
theorem mark_alike (h : Alike s t) {lines : List Text} (rawCount : Nat)
    (hstored : ∀ d ∈ j.source.drafts setting lines, Store.Stored s.store setting.now d) :
    AlikeStep (j.mark setting rawCount (j.source.drafts setting lines) s)
      (j.mark setting rawCount (j.source.drafts setting lines) t (failing fail)) := by
  obtain ⟨hphase, hstate⟩ := @failing_mark setting t j fail hfail rawCount
    (j.source.drafts setting lines)
  obtain ⟨hclients, hstore⟩ := @Job.mark_state setting s j lines rawCount
  have hmarked : Alike (j.mark setting rawCount (j.source.drafts setting lines) s).2 s := by
    refine ⟨hclients, Job.mark_sent rawCount _, ?_⟩
    rw [hstore]
    exact (SameButFetched.refl s.store).stamped _ _
  refine ⟨?_, (hmarked.trans h).trans hstate⟩
  rw [hphase]
  exact Job.mark_phase rawCount hstored

/-- **One step**, from any phase that the source can come to. -/
theorem advance_alike {phase : Phase} (h : Alike s t)
    (hsettled : phase.Settled setting s j.source) :
    AlikeStep (j.advance setting options phase s)
      (j.advance setting options phase t (failing fail)) := by
  cases phase with
  | waiting => exact fetch_alike h
  | fetched lines => exact store_alike h lines
  | stored rawCount configs =>
    obtain ⟨lines, rfl, hstored⟩ := hsettled
    exact mark_alike hfail h _ hstored
  | finished result => exact ⟨rfl, h⟩

/-- **Any number of steps.** -/
theorem advanceBy_alike (n : Nat) {phase : Phase} (h : Alike s t)
    (hsettled : phase.Settled setting s j.source) :
    AlikeStep (j.advanceBy setting options n phase s)
      (j.advanceBy setting options n phase t (failing fail)) := by
  induction n generalizing phase s t with
  | zero => exact ⟨rfl, h⟩
  | succ n ih =>
    have hstep := @advance_alike setting options s t j fail hfail phase h hsettled
    have hnext := @Job.advance_settled setting options s j phase
    rw [Job.advanceBy, Job.advanceBy]
    generalize j.advance setting options phase s = x at hstep hnext ⊢
    generalize j.advance setting options phase t (failing fail) = y at hstep ⊢
    obtain ⟨phase, s⟩ := x
    obtain ⟨phase', t⟩ := y
    obtain ⟨rfl, h⟩ := hstep
    exact ih h hnext

/-- **A source comes to the same**, whether its time can be noted or not. -/
theorem process_alike (j : Job) (h : Alike s t) :
    AlikeStep (j.process setting options s) (j.process setting options t (failing fail)) := by
  have hsteps : AlikeStep (j.advanceBy setting options 3 .waiting s)
      (j.advanceBy setting options 3 .waiting t (failing fail)) :=
    advanceBy_alike hfail 3 h trivial
  unfold Job.process
  generalize j.advanceBy setting options 3 .waiting s = x at hsteps ⊢
  generalize j.advanceBy setting options 3 .waiting t (failing fail) = y at hsteps ⊢
  obtain ⟨phase, s⟩ := x
  obtain ⟨phase', t⟩ := y
  obtain ⟨rfl, h⟩ := hsteps
  cases phase <;> exact ⟨rfl, h⟩

/-! ## Runs -/

theorem single_alike (h : Alike s t) (source : Source) :
    AlikeStep (single setting options source s)
      (single setting options source t (failing fail)) := by
  have hstep := @process_alike setting options s t fail hfail ⟨source, "1/1"⟩ h
  unfold single
  generalize (Job.mk source "1/1").process setting options s = x at hstep ⊢
  generalize (Job.mk source "1/1").process setting options t (failing fail) = y at hstep ⊢
  obtain ⟨result, s⟩ := x
  obtain ⟨result', t⟩ := y
  obtain ⟨rfl, h⟩ := hstep
  cases result with
  | error p => exact ⟨rfl, h⟩
  | ok outcome =>
    dsimp only
    cases outcome.problem with
    | some p => exact ⟨rfl, h⟩
    | none => exact ⟨rfl, h⟩

theorem next_alike {p q : Progress} (h : AlikeProgress p q) (job : Job × Nat) :
    AlikeProgress (p.next setting options job) (q.next setting options job (failing fail)) := by
  have hstep := @process_alike setting options p.state q.state fail hfail job.1 h.state
  unfold Progress.next
  generalize job.1.process setting options p.state = x at hstep ⊢
  generalize job.1.process setting options q.state (failing fail) = y at hstep ⊢
  obtain ⟨result, s⟩ := x
  obtain ⟨result', t⟩ := y
  obtain ⟨rfl, hstate⟩ := hstep
  cases result with
  | error problem =>
    refine ⟨h.accumulator, ?_, hstate⟩
    show (p.escaped.orElse fun _ => some problem) = q.escaped.orElse fun _ => some problem
    rw [h.escaped]
  | ok outcome =>
    refine ⟨?_, h.escaped, hstate⟩
    show p.accumulator.add job.2 outcome = q.accumulator.add job.2 outcome
    rw [h.accumulator]

theorem foldl_alike {p q : Progress} (h : AlikeProgress p q) (js : List (Job × Nat)) :
    AlikeProgress (js.foldl (fun p job => p.next setting options job) p)
      (js.foldl (fun p job => p.next setting options job (failing fail)) q) := by
  induction js generalizing p q with
  | nil => exact h
  | cons job js ih => exact ih (next_alike hfail h job)

theorem fanOut_alike (h : Alike s t) (sources : List Source) :
    AlikeStep (fanOut setting options sources s)
      (fanOut setting options sources t (failing fail)) := by
  unfold fanOut
  cases Retrieval.workersFor options.workers sources.length with
  | error p => exact ⟨rfl, h⟩
  | ok workers =>
    dsimp only
    have hend := @foldl_alike setting options fail hfail _ _
      (⟨rfl, rfl, h.logged _ _⟩ : AlikeProgress
        ⟨.start sources.length, none, s.logged [.batchStarted sources.length workers.toNat]⟩
        ⟨.start sources.length, none, t.logged [.batchStarted sources.length workers.toNat]⟩)
      (jobs sources).zipIdx
    rw [hend.escaped, hend.accumulator]
    split
    · exact ⟨rfl, hend.state⟩
    · exact ⟨rfl, hend.state⟩

theorem byId_alike (h : Alike s t) (id : Int) :
    AlikeStep (byId setting options id s) (byId setting options id t (failing fail)) := by
  have hget := h.store.get id
  unfold byId
  cases hs : s.store.get id <;> cases ht : t.store.get id <;> rw [hs, ht] at hget
  · cases hget
    exact ⟨rfl, h⟩
  · cases hget
  · cases hget
  · dsimp only
    rw [Except.ok.inj hget]
    exact single_alike hfail h _

theorem allEnabled_alike (h : Alike s t) :
    AlikeStep (allEnabled setting options s) (allEnabled setting options t (failing fail)) := by
  have hlist := h.store.list
  unfold allEnabled
  cases hs : s.store.list <;> cases ht : t.store.list <;> rw [hs, ht] at hlist
  · cases hlist
    exact ⟨rfl, h⟩
  · cases hlist
  · cases hlist
  · rename_i subs subs'
    have hsources : (subs.filter (·.enabled)).map Source.ofSubscription =
        (subs'.filter (·.enabled)).map Source.ofSubscription := Except.ok.inj hlist
    have hempty : (subs.filter (·.enabled)).isEmpty = (subs'.filter (·.enabled)).isEmpty := by
      rw [← List.isEmpty_map (f := Source.ofSubscription), hsources, List.isEmpty_map]
    dsimp only
    rw [hempty, hsources]
    split
    · exact ⟨rfl, h.logged _ _⟩
    · exact fanOut_alike hfail h _

theorem byFile_alike (h : Alike s t) (path : FilePath) :
    AlikeStep (byFile setting options files path s)
      (byFile setting options files path t (failing fail)) := by
  unfold byFile
  cases urlsIn files path with
  | error p => exact ⟨rfl, h⟩
  | ok urls => exact fanOut_alike hfail (h.logged _ _) _

theorem collect_alike (h : Alike s t) :
    AlikeStep (collect setting options files s)
      (collect setting options files t (failing fail)) := by
  unfold collect
  cases options.mode with
  | byId => exact byId_alike hfail h _
  | byUrl => exact single_alike hfail h _
  | allEnabled => exact allEnabled_alike hfail h
  | byFile => exact byFile_alike hfail h _

end failing

/-- Two runs that come to the same, and leave the same files and states that are alike. -/
structure AlikeRuns (f g : Finished) : Prop where
  result : f.result = g.result
  files : f.files = g.files
  state : Alike f.state g.state

theorem export_alike (h : Alike s t) (r : BatchResult) (path : FilePath) :
    AlikeRuns (exportResult r files path s) (exportResult r files path t) := by
  unfold exportResult
  split
  · exact ⟨rfl, rfl, h⟩
  · exact ⟨rfl, rfl, h.logged _ _⟩

theorem run_alike {fail : Int → StoreProblem} (hfail : ∀ id, (fail id).isReported = true)
    (h : Alike s t) :
    AlikeRuns (run setting options files s) (run setting options files t (failing fail)) := by
  have hcollect := @collect_alike setting options s t files fail hfail h
  unfold run
  generalize collect setting options files s = x at hcollect ⊢
  generalize collect setting options files t (failing fail) = y at hcollect ⊢
  obtain ⟨result, s⟩ := x
  obtain ⟨result', t⟩ := y
  obtain ⟨rfl, h⟩ := hcollect
  cases result with
  | error p => exact ⟨rfl, rfl, h⟩
  | ok r =>
    have hlogged := h.logged [summaryEvent options.mode r] [summaryEvent options.mode r]
    dsimp only
    cases options.output with
    | none => exact ⟨rfl, rfl, hlogged⟩
    | some path =>
      dsimp only
      split
      · exact export_alike hlogged r path
      · exact ⟨rfl, rfl, hlogged⟩

/-- A problem of the store itself, such as a record that is missing. -/
def OfStore (p : StoreProblem) : Prop := p.family = .store ∨ p.family = .notFound

theorem OfStore.isReported {p : StoreProblem} (h : OfStore p) : p.isReported = true := by
  unfold StoreProblem.isReported
  rcases h with h | h <;> rw [h]

/-- **Timestamps that cannot be noted do not matter to a run.** When every call that notes a time
fails with a problem of the store, the run gives the same result or problem, sends the same requests
and leaves the same files; the store differs in the times at which subscriptions were fetched at
most. -/
theorem failing_timestamps (setting : Setting) (options : Options.FetchOptions) (files : Files)
    (s : State) {fail : Int → StoreProblem} (hfail : ∀ id, OfStore (fail id)) :
    (run setting options files s (failing fail)).result =
        (run setting options files s).result ∧
      (run setting options files s (failing fail)).state.sent =
        (run setting options files s).state.sent ∧
      (run setting options files s (failing fail)).files =
        (run setting options files s).files ∧
      SameButFetched (run setting options files s).state.store
        (run setting options files s (failing fail)).state.store := by
  have hreported : ∀ id, (fail id).isReported = true := fun id => (hfail id).isReported
  have hruns := @run_alike setting options s s files fail hreported (Alike.refl s)
  exact ⟨hruns.result.symm, hruns.state.sent.symm, hruns.files.symm, hruns.state.store⟩

/-- The subscriptions are gone when their times are to be noted. -/
theorem failing_timestamps_of_samePage :
    (∀ id, OfStore (.noSubscription id)) ∧
      (run samePage allSources ⟨[], []⟩ twoSubscriptions (failing .noSubscription)).result =
        (run samePage allSources ⟨[], []⟩ twoSubscriptions).result ∧
      SameButFetched (run samePage allSources ⟨[], []⟩ twoSubscriptions).state.store
        (run samePage allSources ⟨[], []⟩ twoSubscriptions
          (failing .noSubscription)).state.store := by
  have hfail : ∀ id, OfStore (.noSubscription id) := fun _ => .inr rfl
  obtain ⟨hresult, -, -, hstore⟩ :=
    failing_timestamps samePage allSources ⟨[], []⟩ twoSubscriptions hfail
  exact ⟨hfail, hresult, hstore⟩

end Run

end LinkHarvest
