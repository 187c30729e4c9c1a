import LinkHarvest.Proofs.Retrieval.Requests
import LinkHarvest.Proofs.Run.Failure
import LinkHarvest.Proofs.Run.Pool

/-!
# The requests of a run

Where no server redirects, a run sends at most one request for each source that it selects, and
which one is a matter of the source, the options and the setting alone: `request?`. A source sends
its request with its first step and nothing after it (`advance_sent`), so one source after the other
sends its request in its turn (`fanOut_sent`), and sources that take their steps in turns send what
those of them send that have started (`interleaved_sent`). `run_requests` puts this together for all
modes. Nothing is sent before the sources are selected.
-/

namespace LinkHarvest

namespace Run

open Fallible

/-- The request that a source sends, if it sends one. -/
def Source.request? (setting : Setting) (options : Options.FetchOptions) (s : State)
    (source : Source) : Option Http.Sent :=
  Retrieval.asked? setting.method s.clients ((Job.mk source []).request setting options)

/-- What a request for a source looks like: it goes to the trimmed URL, which is absolute, and names
the agent of the options, or else that of the subscription. An empty agent counts as none. -/
structure Asked (setting : Setting) (options : Options.FetchOptions) (source : Source)
    (q : Http.Sent) : Prop where
  valid : Retrieval.checkUrl source.url = .ok (Text.trim source.url)
  url : ∃ u, Http.targetUrl (Text.trim source.url) = .ok u ∧ q.url = u.text
  method : q.method = Text.upper setting.method
  agent : q.agent =
    match Retrieval.nonEmpty? options.agent with
    | some agent => some agent
    | none => Retrieval.nonEmpty? source.agent

variable {setting : Setting} {options : Options.FetchOptions} {s t : State} {source : Source}
  {sources : List Source} {files : Files} {j : Job} {phase : Phase}

theorem agent_request (source : Source) :
    Retrieval.nonEmpty? ((Job.mk source []).request setting options).agent =
      match Retrieval.nonEmpty? options.agent with
      | some agent => some agent
      | none => Retrieval.nonEmpty? source.agent := by
  have hchosen : ((Job.mk source []).request setting options).agent =
      (Retrieval.nonEmpty? options.agent).orElse fun _ => source.agent := rfl
  rw [hchosen]
  rcases options.agent with _ | _ | ⟨c, agent⟩ <;> rfl

/-- **Every request of a source asks for the source.** -/
theorem Source.asked_of_request {q : Http.Sent}
    (h : source.request? setting options s = some q) : Asked setting options source q := by
  obtain ⟨hvalid, u, hu, rfl⟩ := Retrieval.asked?_eq_some h
  exact ⟨hvalid, ⟨u, hu, rfl⟩, congrArg Text.upper (ite_self setting.method), agent_request source⟩

theorem Source.request?_of_invalid {p : Retrieval.Problem}
    (h : Retrieval.checkUrl source.url = .error p) :
    source.request? setting options s = none := Retrieval.asked?_of_invalid h

theorem Source.request?_congr (h : s.frame options.proxy = t.frame options.proxy) :
    source.request? setting options s = source.request? setting options t := by
  have hproxy : ((Job.mk source []).request setting options).proxy = options.proxy := rfl
  unfold request? Retrieval.asked?
  rw [hproxy, State.frame_client h]

/-! ## One step -/

/-- The source has taken its first step. -/
def Phase.started : Phase → Bool
  | .waiting => false
  | _ => true

theorem Job.advance_started (j : Job) (phase : Phase) (t : State) :
    (j.advance setting options phase t).1.started = true := by
  have hremaining := @Job.advance_remaining setting options j phase t
  have hbound : phase.remaining ≤ 3 := by cases phase <;> simp [Phase.remaining]
  cases hphase : (j.advance setting options phase t).1 with
  | waiting =>
    rw [hphase, Phase.remaining] at hremaining
    omega
  | _ => rfl

theorem Job.store_sent (lines : List Text) : (j.store setting lines t).2.sent = t.sent := by
  unfold store
  dsimp only
  split
  · rfl
  · split
    · rfl
    · split <;> rfl

theorem Job.mark_sent (rawCount : Nat) (configs : List Draft) :
    (j.mark setting rawCount configs t).2.sent = t.sent := by
  unfold mark
  dsimp only
  split
  · rfl
  · split
    · rfl
    · split
      · rfl
      · split <;> rfl

theorem Job.fetch_sent (hroutes : setting.routes.NoRedirects) :
    (j.fetch setting options t).2.sent =
      t.sent ++ (j.source.request? setting options t).toList := by
  have hrequest : (Job.mk j.source []).request setting options = j.request setting options := rfl
  have hsent := @Retrieval.fetch_sent _ setting.method t.clients (j.request setting options) hroutes
  unfold Source.request?
  rw [hrequest, ← hsent]
  unfold fetch
  dsimp only
  split <;> rfl

/-- **A source sends its request with its first step**, and nothing with its later ones. -/
theorem Job.advance_sent (hroutes : setting.routes.NoRedirects) (j : Job) (phase : Phase)
    (t : State) :
    (j.advance setting options phase t).2.sent =
      t.sent ++ if phase.started then [] else (j.source.request? setting options t).toList := by
  cases phase with
  | waiting => exact fetch_sent hroutes
  | fetched lines => exact (store_sent lines).trans (List.append_nil _).symm
  | stored rawCount configs => exact (mark_sent rawCount configs).trans (List.append_nil _).symm
  | finished result => exact (List.append_nil _).symm

theorem Job.advanceBy_sent (hroutes : setting.routes.NoRedirects) (n : Nat)
    (h : phase.started = true) : (j.advanceBy setting options n phase t).2.sent = t.sent := by
  induction n generalizing phase t with
  | zero => rfl
  | succ n ih =>
    have hstep := @Job.advance_sent setting options hroutes j phase t
    rw [h, if_pos rfl, List.append_nil] at hstep
    rw [advanceBy, ← hstep]
    exact ih (j.advance_started phase t)

/-! ## One source after the other -/

theorem Job.process_sent (hroutes : setting.routes.NoRedirects) (j : Job) (t : State) :
    (j.process setting options t).2.sent =
      t.sent ++ (j.source.request? setting options t).toList := by
  have hfirst := @Job.advance_sent setting options hroutes j .waiting t
  have hrest := @Job.advanceBy_sent setting options
    (j.advance setting options .waiting t).2 j (j.advance setting options .waiting t).1 hroutes 2
    (j.advance_started .waiting t)
  have hthree : j.advanceBy setting options 3 .waiting t =
      j.advanceBy setting options 2 (j.advance setting options .waiting t).1
        (j.advance setting options .waiting t).2 := rfl
  rw [hfirst, ← hthree] at hrest
  unfold process
  split <;> rename_i hend <;> rw [hend] at hrest <;> exact hrest

theorem Progress.next_state (p : Progress) (e : Job × Nat) :
    (p.next setting options e).state = (e.1.process setting options p.state).2 := by
  unfold next
  split <;> rename_i hprocess <;> rw [hprocess]

theorem filterMap_cons_toList {α β : Type} (f : α → Option β) (a : α) (l : List α) :
    (a :: l).filterMap f = (f a).toList ++ l.filterMap f := by
  rw [List.filterMap_cons]
  cases f a <;> rfl

theorem foldl_next_sent (hroutes : setting.routes.NoRedirects) (es : List (Job × Nat))
    (p : Progress) :
    (es.foldl (Progress.next setting options) p).state.sent =
      p.state.sent ++ es.filterMap fun e => e.1.source.request? setting options p.state := by
  induction es generalizing p with
  | nil => exact (List.append_nil _).symm
  | cons e es ih =>
    have hframe : (p.next setting options e).state.frame options.proxy =
        p.state.frame options.proxy := by
      rw [Progress.next_state]
      exact (e.1.process_eq setting options p.state).2.1
    have hsame : (fun e' : Job × Nat =>
        e'.1.source.request? setting options (p.next setting options e).state) =
          fun e' => e'.1.source.request? setting options p.state :=
      funext fun e' => Source.request?_congr hframe
    rw [List.foldl_cons, ih, hsame, Progress.next_state, Job.process_sent hroutes,
      filterMap_cons_toList, List.append_assoc]

/-- **Sources one after the other send their requests in their order.** -/
theorem fanOut_sent (hworkers : WorkersInRange options) (hroutes : setting.routes.NoRedirects)
    (sources : List Source) (s : State) :
    (fanOut setting options sources s).2.sent =
      s.sent ++ sources.filterMap (Source.request? setting options s) := by
  have hjobs : ((jobs sources).zipIdx.filterMap fun e => e.1.source.request? setting options s) =
      sources.filterMap (Source.request? setting options s) := by
    conv_rhs => rw [← jobs_source sources, ← List.zipIdx_map_fst 0 (jobs sources)]
    rw [List.map_map, List.filterMap_map]
    rfl
  have hall := @foldl_next_sent setting options hroutes (jobs sources).zipIdx
    ⟨.start sources.length, none, s.logged [.batchStarted sources.length
      (max Retrieval.minWorkers (min options.workers sources.length)).toNat]⟩
  unfold fanOut
  rw [workersFor_eq hworkers, ← hjobs]
  dsimp only
  split <;> exact hall

/-! ## Sources that take turns -/

/-- The requests that a source has sent so far. -/
def Worker.requests (setting : Setting) (options : Options.FetchOptions) (s : State) (w : Worker) :
    List Http.Sent :=
  if w.phase.started then (w.job.source.request? setting options s).toList else []

/-- What is known of a pool after any steps, as far as requests go. -/
structure Requested (setting : Setting) (options : Options.FetchOptions) (s : State)
    (sources : List Source) (p : Pool) : Prop where
  jobs : p.workers.map Worker.job = jobs sources
  started : ∀ w ∈ p.workers, w.collected = true → w.phase.started = true
  frame : p.progress.state.frame options.proxy = s.frame options.proxy
  sent : p.progress.state.sent.Perm
    (s.sent ++ gathered (fun w _ => w.requests setting options s) p.workers)

/-- What one step of a worker comes to, as far as requests go. -/
structure Sending (setting : Setting) (options : Options.FetchOptions) (s : State) (w : Worker)
    (p : Progress) (r : Worker × Progress) : Prop where
  job : r.1.job = w.job
  started : r.1.collected = true → r.1.phase.started = true
  frame : r.2.state.frame options.proxy = s.frame options.proxy
  sent : ∃ more, r.1.requests setting options s = w.requests setting options s ++ more ∧
    r.2.state.sent = p.state.sent ++ more

section turns

variable {w : Worker} {p : Progress} {index : Nat}

theorem Progress.collect_state (p : Progress) (index : Nat)
    (result : Except StoreProblem Outcome) : (p.collect index result).state = p.state := by
  cases result <;> rfl

/-- **A worker sends the request of its source once**, when it takes its first step. -/
theorem Worker.step_sending (hroutes : setting.routes.NoRedirects)
    (hframe : p.state.frame options.proxy = s.frame options.proxy)
    (hstarted : w.collected = true → w.phase.started = true) :
    Sending setting options s w p (w.step setting options index p) := by
  by_cases hphase : ∃ result, w.phase = .finished result
  · obtain ⟨result, hphase⟩ := hphase
    have hended : w.phase.started = true := by rw [hphase]; rfl
    cases hcollected : w.collected with
    | true =>
      rw [step_done hphase hcollected]
      exact ⟨rfl, hstarted, hframe, [], (List.append_nil _).symm, (List.append_nil _).symm⟩
    | false =>
      rw [step_collect hphase hcollected]
      refine ⟨rfl, fun _ => hended, ?_, [], (List.append_nil _).symm, ?_⟩
      · rw [Progress.collect_state]
        exact hframe
      · rw [Progress.collect_state, List.append_nil]
  · have hkept := @Job.advance_frame setting options p.state w.job w.phase
    have hnow := @Job.advance_started setting options w.job w.phase p.state
    have hsent := @Job.advance_sent setting options hroutes w.job w.phase p.state
    rw [Source.request?_congr hframe] at hsent
    rw [step_advance fun result hresult => hphase ⟨result, hresult⟩]
    refine ⟨rfl, fun _ => hnow, hkept.trans hframe, _, ?_, hsent⟩
    unfold Worker.requests
    rw [hnow, if_pos rfl]
    cases w.phase.started <;> simp

variable {p : Pool}

theorem Requested.start (sources : List Source) :
    Requested setting options s sources (Pool.start options sources s) := by
  have hnone : gathered (fun w _ => w.requests setting options s)
      (Pool.start options sources s).workers = [] := by
    rw [gathered_fst, List.flatMap_eq_nil_iff]
    intro w hw
    obtain ⟨job, rfl⟩ := waiting_of_mem_start hw
    rfl
  refine ⟨map_job_start options sources s, ?_, rfl, ?_⟩
  · intro w hw hcollected
    obtain ⟨job, rfl⟩ := waiting_of_mem_start hw
    cases hcollected
  · rw [hnone, List.append_nil]
    exact List.Perm.refl _

theorem Requested.step (h : Requested setting options s sources p)
    (hroutes : setting.routes.NoRedirects) (i : Nat) :
    Requested setting options s sources (p.step setting options i) := by
  unfold Pool.step
  cases hw : p.workers[i]? with
  | none => exact h
  | some w =>
    have hmem : w ∈ p.workers := List.mem_of_getElem? hw
    have hstep := @Worker.step_sending setting options s w p.progress i hroutes h.frame
      (h.started w hmem)
    dsimp only
    generalize w.step setting options i p.progress = r at hstep ⊢
    obtain ⟨w', progress⟩ := r
    obtain ⟨more, hrequests, hsent⟩ := hstep.sent
    refine ⟨(map_job_set hw hstep.job).trans h.jobs, ?_, hstep.frame, ?_⟩
    · intro v hv
      rcases List.mem_or_eq_of_mem_set hv with hv | rfl
      · exact h.started v hv
      · exact hstep.started
    · have hgathered := gathered_set (f := fun w _ => w.requests setting options s) hw hrequests
      have hmore := h.sent.append_right more
      rw [List.append_assoc] at hmore
      dsimp only at hsent ⊢
      rw [hsent]
      exact hmore.trans (hgathered.symm.append_left s.sent)

theorem Requested.run (h : Requested setting options s sources p)
    (hroutes : setting.routes.NoRedirects) (schedule : List Nat) :
    Requested setting options s sources (p.run setting options schedule) := by
  induction schedule generalizing p with
  | nil => exact h
  | cons i schedule ih => exact ih (h.step hroutes i)

def Pool.started (p : Pool) : List Source :=
  (p.workers.filter fun w => w.phase.started).map fun w => w.job.source

theorem gathered_requests (workers : List Worker) :
    gathered (fun w _ => w.requests setting options s) workers =
      ((workers.filter fun w => w.phase.started).map fun w => w.job.source).filterMap
        (Source.request? setting options s) := by
  rw [gathered_fst]
  induction workers with
  | nil => rfl
  | cons w workers ih =>
    rw [List.flatMap_cons, ih, Worker.requests]
    cases hstarted : w.phase.started with
    | false =>
      rw [List.filter_cons_of_neg (by simp [hstarted])]
      rfl
    | true =>
      rw [List.filter_cons_of_pos (by simp [hstarted]), List.map_cons, filterMap_cons_toList]
      rfl

theorem Requested.started_sublist (h : Requested setting options s sources p) :
    p.started.Sublist sources := by
  rw [← sources_of_jobs h.jobs]
  exact List.filter_sublist.map _

theorem Requested.started_complete (h : Requested setting options s sources p) (hp : p.Complete) :
    p.started = sources := by
  unfold Pool.started
  rw [List.filter_eq_self.mpr fun w hw => h.started w hw (hp w hw), sources_of_jobs h.jobs]

/-- **Whatever turns the sources take, those of them that have started have sent their requests.**
In the end these are all. -/
theorem interleaved_sent (hworkers : WorkersInRange options)
    (hroutes : setting.routes.NoRedirects) (sources : List Source) (schedule : List Nat)
    (s : State) :
    ∃ started, started.Sublist sources ∧
      (Completes setting options sources s schedule → started = sources) ∧
      (interleaved setting options sources schedule s).2.sent.Perm
        (s.sent ++ started.filterMap (Source.request? setting options s)) := by
  have hrequested := (@Requested.start setting options s sources).run hroutes schedule
  refine ⟨_, hrequested.started_sublist, hrequested.started_complete, ?_⟩
  have hsent := hrequested.sent
  rw [gathered_requests] at hsent
  unfold interleaved
  rw [workersFor_eq hworkers]
  dsimp only
  split <;> exact hsent

end turns

/-! ## Runs -/

theorem single_sent (hroutes : setting.routes.NoRedirects) (source : Source) (s : State) :
    (single setting options source s).2.sent =
      s.sent ++ [source].filterMap (Source.request? setting options s) := by
  have hsent := @Job.process_sent setting options hroutes (Job.mk source "1/1") s
  have hone : (source.request? setting options s).toList =
      [source].filterMap (Source.request? setting options s) := by
    rw [filterMap_cons_toList, List.filterMap_nil, List.append_nil]
  dsimp only at hsent
  rw [hone] at hsent
  unfold single
  split
  · rename_i hprocess
    rw [hprocess] at hsent
    exact hsent
  · rename_i hprocess
    rw [hprocess] at hsent
    split <;> exact hsent

theorem collect_sent (hworkers : WorkersInRange options) (hroutes : setting.routes.NoRedirects)
    (h : selected options files s.store = .ok sources) :
    (collect setting options files s).2.sent =
      s.sent ++ sources.filterMap (Source.request? setting options s) := by
  unfold selected at h
  unfold collect
  cases hmode : options.mode with
  | byId =>
    rw [hmode] at h
    dsimp only at h ⊢
    unfold byId
    cases hget : s.store.get (options.subscription.getD 0) <;> rw [hget] at h <;> cases h
    exact single_sent hroutes _ s
  | byUrl =>
    rw [hmode] at h
    cases h
    exact single_sent hroutes _ s
  | allEnabled =>
    rw [hmode] at h
    dsimp only at h ⊢
    unfold allEnabled
    cases hlist : s.store.list <;> rw [hlist] at h <;> cases h
    dsimp only
    split
    · rename_i hempty
      rw [List.isEmpty_iff.mp hempty]
      exact (List.append_nil _).symm
    · exact fanOut_sent hworkers hroutes _ s
  | byFile =>
    rw [hmode] at h
    dsimp only at h ⊢
    unfold byFile
    cases hurls : urlsIn files (options.file.getD (.ofText [])) <;> rw [hurls] at h <;> cases h
    exact fanOut_sent hworkers hroutes _ (s.logged _)

/-- A problem of the options, or of the file with the URLs. -/
def Problem.isConfiguration : Problem → Bool
  | .urlFile _ p => p.fault != .nullCharacter
  | .noUrls _ => true
  | .workers _ => true
  | _ => false

theorem run_sent (hworkers : WorkersInRange options) (hroutes : setting.routes.NoRedirects)
    (h : selected options files s.store = .ok sources) :
    (run setting options files s).state.sent =
      s.sent ++ sources.filterMap (Source.request? setting options s) := by
  obtain ⟨events, hstate⟩ := run_state setting options files s
  rw [hstate]
  exact collect_sent hworkers hroutes h

theorem run_of_configuration {p : Problem} (hworkers : WorkersInRange options)
    (h : (run setting options files s).result = .error p) (hp : p.isConfiguration = true) :
    run setting options files s = ⟨.error p, files, s⟩ := by
  obtain ⟨hcollect, -⟩ | ⟨q, rfl⟩ := run_of_error h
  · cases hselected : selected options files s.store with
    | error q =>
      rw [collect_of_selected_error hselected] at hcollect
      cases hcollect
      exact run_of_selected_error hselected
    | ok sources =>
      rw [(collect_of_selected hworkers hselected).1] at hcollect
      unfold resultOf at hcollect
      split at hcollect
      · cases hcollect
        cases hp
      · split at hcollect <;> cases hcollect
        cases hp
  · cases hp

/-- **The requests of a run.** Where no server redirects, a run sends at most one request for each
source that it selects, in the order of the sources, and in any other order that workers take turns
in. A request goes to the trimmed URL of its source, and there is none for a source whose URL is
invalid. In a run of all subscriptions the sources are the enabled ones. A run that cannot select its
sources, and one that ends for its configuration or a missing record, sends nothing. -/
theorem run_requests (setting : Setting) (options : Options.FetchOptions) (files : Files)
    (s : State) (hworkers : WorkersInRange options) (hroutes : setting.routes.NoRedirects) :
    (∀ sources, selected options files s.store = .ok sources →
        (run setting options files s).state.sent =
            s.sent ++ sources.filterMap (Source.request? setting options s) ∧
          (options.mode = .allEnabled → ∃ subs, s.store.list = .ok subs ∧
            sources = (subs.filter (·.enabled)).map .ofSubscription) ∧
          ∀ schedule, ∃ started, started.Sublist sources ∧
            (Completes setting options sources s schedule → started = sources) ∧
            (interleaved setting options sources schedule s).2.sent.Perm
              (s.sent ++ started.filterMap (Source.request? setting options s))) ∧
      (∀ (source : Source) q, source.request? setting options s = some q →
        Asked setting options source q) ∧
      (∀ (source : Source) p, Retrieval.checkUrl source.url = .error p →
        source.request? setting options s = none) ∧
      (∀ p, selected options files s.store = .error p →
        (run setting options files s).state.sent = s.sent) ∧
      ∀ p, (run setting options files s).result = .error p →
        p.isConfiguration = true ∨ p.isNotFound = true →
          (run setting options files s).state.sent = s.sent := by
  refine ⟨?_, fun _ _ => Source.asked_of_request, fun _ _ => Source.request?_of_invalid, ?_, ?_⟩
  · intro sources hselected
    refine ⟨run_sent hworkers hroutes hselected, ?_, ?_⟩
    · intro hmode
      unfold selected at hselected
      rw [hmode] at hselected
      dsimp only at hselected
      cases hlist : s.store.list with
      | error p =>
        rw [hlist] at hselected
        cases hselected
      | ok subs =>
        rw [hlist] at hselected
        cases hselected
        exact ⟨subs, rfl, rfl⟩
    · exact fun schedule => interleaved_sent hworkers hroutes sources schedule s
  · intro p hselected
    rw [run_of_selected_error hselected]
  · rintro p hresult (hconfiguration | hmissing)
    · rw [run_of_configuration hworkers hresult hconfiguration]
    · rw [run_of_notFound hworkers hresult hmissing]

/-- Two enabled subscriptions, of which the first has an agent of its own, and one that is not
enabled. -/
def threeSubscriptions : Store :=
  let now : Instant := ⟨63839750400000000⟩
  let first := (oneSubscription.update 1 ⟨none, none, some "curl/8", none⟩).2
  let second := (first.add now "http://b/" none none).2
  let third := (second.add now " http://c/list " none none).2
  (third.update 2 ⟨none, none, none, some false⟩).2

def oneDown : Setting :=
  .serving [("http://a/", pageOf "trojan://pw@h:443"), ("http://c/list", .reply ⟨503, none, []⟩)]

/-- One request for each enabled subscription, with its own agent, and no second try. -/
theorem run_requests_of_three :
    (run oneDown allSources ⟨[], []⟩ (.start threeSubscriptions [])).state.sent =
        [⟨"GET", "http://a/", some "curl/8"⟩, ⟨"GET", "http://c/list", none⟩] ∧
      ∃ sources, selected allSources ⟨[], []⟩ threeSubscriptions = .ok sources ∧
        sources.map Source.url = ["http://a/".toList, "http://c/list".toList] ∧
        sources.filterMap (Source.request? oneDown allSources (.start threeSubscriptions [])) =
          [⟨"GET", "http://a/", some "curl/8"⟩, ⟨"GET", "http://c/list", none⟩] := by
  obtain ⟨hsent, -⟩ := run_requests oneDown allSources ⟨[], []⟩ (.start threeSubscriptions [])
    allSources_workers (by decide)
  have hurls : (selected allSources ⟨[], []⟩ threeSubscriptions).toOption.map
      (List.map Source.url) = some ["http://a/".toList, "http://c/list".toList] := by
    decide +kernel
  have hrequests : (run oneDown allSources ⟨[], []⟩ (.start threeSubscriptions [])).state.sent =
      [⟨"GET", "http://a/", some "curl/8"⟩, ⟨"GET", "http://c/list", none⟩] := by decide +kernel
  cases hselected : selected allSources ⟨[], []⟩ threeSubscriptions with
  | error p =>
    rw [hselected] at hurls
    cases hurls
  | ok sources =>
    rw [hselected] at hurls
    exact ⟨hrequests, sources, rfl, Option.some.inj hurls,
      (hsent sources hselected).1.symm.trans hrequests⟩

end Run

end LinkHarvest
