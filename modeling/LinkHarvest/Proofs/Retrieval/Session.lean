import LinkHarvest.Proofs.Retrieval.Clients
import LinkHarvest.Proofs.Retrieval.Firsts
import Mathlib.Data.List.Induction

/-!
# The clients of a session

A session is the use of one fetcher for many requests. Its clients are the first occurrences of the
proxies that are wanted and can be built (`one_client_per_proxy`), whether one request follows the
other or several workers take turns. Then a call takes three steps: the URL is checked, the client
is looked up under the lock or built, and the request is made. Only the second step touches what
the calls share, and it leaves the same clients as a whole retrieval (`Stage.next_next_clients`), so
that the order of the lock is an order of retrievals. What a call comes to does not depend on the
clients, as long as all of them could be built (`Stage.next_congr`).
-/

namespace LinkHarvest.Retrieval

/-! ## The clients that are wanted -/

/-- The name of the client for a request: no proxy and the empty one are the same. -/
def FetchRequest.key (request : FetchRequest) : Option Text := nonEmpty? request.proxy

/-- A client with a name can be built. -/
def buildable : Option Text → Bool
  | none => true
  | some proxy => (Http.checkProxy proxy).toBool

/-- The names of the buildable clients for the requests of which the URL is accepted. -/
def wanted (requests : List FetchRequest) : List (Option Text) :=
  ((requests.filter fun r => (checkUrl r.url).toBool).map FetchRequest.key).filter buildable

variable {routes : Http.Routes} {method : Text} {clients : Clients} {request : FetchRequest}
  {requests : List FetchRequest} {proxy : Option Text}

theorem clientFor_of_buildable (h : buildable (nonEmpty? proxy) = true) :
    clientFor clients proxy = .ok (if nonEmpty? proxy ∈ clients then clients
      else clients ++ [nonEmpty? proxy]) := by
  unfold clientFor
  generalize nonEmpty? proxy = key at h ⊢
  by_cases hmem : key ∈ clients
  · simp [hmem]
  · cases key with
    | none => simp [hmem]
    | some p =>
      have hcheck : Http.checkProxy p = .ok () := by
        cases hp : Http.checkProxy p with
        | error problem => simp [buildable, hp, Except.toBool] at h
        | ok u => rfl
      simp [hmem, hcheck]

theorem clientFor_of_not_buildable (h : buildable (nonEmpty? proxy) = false) :
    ∃ p, ∀ clients : Clients, nonEmpty? proxy ∉ clients → clientFor clients proxy = .error p := by
  unfold clientFor
  generalize nonEmpty? proxy = key at h ⊢
  cases key with
  | none => cases h
  | some p =>
    cases hp : Http.checkProxy p with
    | error problem => exact ⟨problem, fun clients hmem => by simp [hmem, hp]⟩
    | ok u => simp [buildable, hp, Except.toBool] at h

theorem wanted_concat_of_error {p : Problem} (h : checkUrl request.url = .error p) :
    wanted (requests ++ [request]) = wanted requests := by
  simp [wanted, h, Except.toBool]

theorem wanted_concat_of_buildable {url : Text} (hurl : checkUrl request.url = .ok url)
    (h : buildable request.key = true) :
    wanted (requests ++ [request]) = wanted requests ++ [request.key] := by
  simp [wanted, hurl, h, Except.toBool]

theorem wanted_concat_of_not_buildable (h : buildable request.key = false) :
    wanted (requests ++ [request]) = wanted requests := by
  rw [wanted, List.filter_append, List.map_append, List.filter_append, wanted]
  by_cases hurl : (checkUrl request.url).toBool = true <;> simp [hurl, h]

theorem buildable_of_mem_wanted {key : Option Text} (h : key ∈ wanted requests) :
    buildable key = true := (List.mem_filter.mp h).2

/-! ## Sound clients -/

/-- All clients could be built. -/
def Sound (clients : Clients) : Prop := ∀ key ∈ clients, buildable key = true

theorem sound_firsts_wanted (requests : List FetchRequest) : Sound (firsts (wanted requests)) :=
  fun _ h => buildable_of_mem_wanted (mem_firsts.mp h)

theorem Sound.not_mem (h : Sound clients) {key : Option Text} (hkey : buildable key = false) :
    key ∉ clients := by
  intro hmem
  rw [h key hmem] at hkey
  cases hkey

theorem clientProblem?_of_sound (h : Sound clients) (proxy : Option Text) :
    clientProblem? clients proxy = clientProblem? [] proxy := by
  unfold clientProblem?
  cases hkey : buildable (nonEmpty? proxy) with
  | true => rw [clientFor_of_buildable hkey, clientFor_of_buildable hkey]
  | false =>
    obtain ⟨p, hp⟩ := clientFor_of_not_buildable hkey
    rw [hp clients (h.not_mem hkey), hp [] (by simp)]

/-- **The step under the lock.** It adds the client that is wanted, unless it is there or cannot be
built. -/
theorem clientFor_firsts_wanted {url : Text} (hurl : checkUrl request.url = .ok url) :
    (clientFor (firsts (wanted requests)) request.proxy).toOption.getD (firsts (wanted requests)) =
      firsts (wanted (requests ++ [request])) := by
  cases hkey : buildable request.key with
  | true =>
    rw [wanted_concat_of_buildable hurl hkey, firsts_concat, clientFor_of_buildable hkey]
    have hmem : nonEmpty? request.proxy ∈ firsts (wanted requests) ↔
        request.key ∈ wanted requests := mem_firsts
    by_cases h : request.key ∈ wanted requests
    · rw [if_pos h, if_pos (hmem.mpr h)]
      rfl
    · rw [if_neg h, if_neg (mt hmem.mp h)]
      rfl
  | false =>
    obtain ⟨p, hp⟩ := clientFor_of_not_buildable hkey
    rw [wanted_concat_of_not_buildable hkey,
      hp _ ((sound_firsts_wanted requests).not_mem hkey)]
    rfl

/-! ## One request after the other -/

/-- The clients after a list of requests, each made when the one before it has ended. -/
def clientsAfter (routes : Http.Routes) (method : Text) (requests : List FetchRequest) : Clients :=
  requests.foldl (fun clients request => (fetch routes method clients request).clients) []

theorem fetch_clients {url : Text} (hurl : checkUrl request.url = .ok url) :
    (fetch routes method clients request).clients =
      (clientFor clients request.proxy).toOption.getD clients := by
  unfold fetch
  rw [hurl]
  dsimp only
  cases clientFor clients request.proxy with
  | error p => rfl
  | ok clients' =>
    dsimp only
    split
    · rfl
    · exact exchange_clients routes url _

theorem fetch_clients_of_error {p : Problem} (hurl : checkUrl request.url = .error p) :
    (fetch routes method clients request).clients = clients := by rw [fetch, hurl]

theorem clientsAfter_concat (before : List FetchRequest) :
    clientsAfter routes method (before ++ [request]) =
      (fetch routes method (clientsAfter routes method before) request).clients := by
  simp [clientsAfter]

/-- **The clients of a session are the first occurrences of those wanted.** -/
theorem clientsAfter_eq (routes : Http.Routes) (method : Text) (requests : List FetchRequest) :
    clientsAfter routes method requests = firsts (wanted requests) := by
  induction requests using List.reverseRec with
  | nil => rfl
  | append_singleton before request ih =>
    rw [clientsAfter_concat, ih]
    cases hurl : checkUrl request.url with
    | error p => rw [fetch_clients_of_error hurl, wanted_concat_of_error hurl]
    | ok url => rw [fetch_clients hurl, clientFor_firsts_wanted hurl]

theorem sound_clientsAfter (routes : Http.Routes) (method : Text) (requests : List FetchRequest) :
    Sound (clientsAfter routes method requests) := by
  rw [clientsAfter_eq]
  exact sound_firsts_wanted requests

theorem prefix_clientFor {clients' : Clients} (h : clientFor clients proxy = .ok clients') :
    clients <+: clients' := by
  cases hkey : buildable (nonEmpty? proxy) with
  | true =>
    rw [clientFor_of_buildable hkey] at h
    cases h
    split
    · exact List.prefix_rfl
    · exact List.prefix_append clients _
  | false =>
    by_cases hmem : nonEmpty? proxy ∈ clients
    · rw [clientFor_of_contains (List.contains_iff_mem.mpr hmem)] at h
      cases h
      exact List.prefix_rfl
    · obtain ⟨p, hp⟩ := clientFor_of_not_buildable hkey
      rw [hp clients hmem] at h
      cases h

theorem prefix_fetch_clients : clients <+: (fetch routes method clients request).clients := by
  cases hurl : checkUrl request.url with
  | error p =>
    simp [fetch_clients_of_error hurl]
  | ok url =>
    rw [fetch_clients hurl]
    cases hclient : clientFor clients request.proxy with
    | error p => exact List.prefix_rfl
    | ok clients' => exact prefix_clientFor hclient

theorem fetch_of_not_buildable (h : buildable request.key = false) (hsound : Sound clients) :
    ∃ p, (fetch routes method clients request).result = .error p := by
  unfold fetch
  cases checkUrl request.url with
  | error p => exact ⟨p, rfl⟩
  | ok url =>
    obtain ⟨p, hp⟩ := clientFor_of_not_buildable h
    dsimp only
    rw [hp clients (hsound.not_mem h)]
    exact ⟨problemOf url p, rfl⟩

/-! ## The steps of a call -/

/-- How far a call has come: it was asked for, its URL was accepted, it has its client, or it has
ended. -/
inductive Stage
  | asked
  | checked (url : Text)
  | equipped (url : Text)
  | ended (result : Except Problem Fetched)

/-- The next step of a call, and what it makes of the clients. -/
def Stage.next (routes : Http.Routes) (method : Text) (request : FetchRequest)
    (clients : Clients) : Stage → Stage × Clients
  | .asked =>
    match checkUrl request.url with
    | .error p => (.ended (.error p), clients)
    | .ok url => (.checked url, clients)
  | .checked url =>
    match clientFor clients request.proxy with
    | .error p => (.ended (.error (problemOf url p)), clients)
    | .ok clients => (.equipped url, clients)
  | .equipped url =>
    match Http.Request.build (if request.method.isEmpty then method else request.method) url
        (nonEmpty? request.agent) with
    | .error p => (.ended (.error (problemOf url p)), clients)
    | .ok r => (.ended (exchange routes clients url r).result, clients)
  | .ended result => (.ended result, clients)

/-- **Three steps of a call are a retrieval** with the clients that the second one finds. -/
theorem Stage.next_next_next (first second third : Clients) :
    (((asked.next routes method request first).1.next routes method request second).1.next
      routes method request third).1 = .ended (fetch routes method second request).result := by
  unfold fetch
  cases hurl : checkUrl request.url with
  | error p => simp [next, hurl]
  | ok url =>
    cases hclient : clientFor second request.proxy with
    | error p => simp [next, hurl, hclient]
    | ok clients =>
      simp only [next, hurl, hclient]
      cases Http.Request.build (if request.method.isEmpty then method else request.method) url
        (nonEmpty? request.agent) with
      | error p => rfl
      | ok r => exact congrArg ended (exchange_congr routes url r).1

theorem Stage.next_next_clients (first second : Clients) :
    ((asked.next routes method request first).1.next routes method request second).2 =
      (fetch routes method second request).clients := by
  cases hurl : checkUrl request.url with
  | error p => simp [next, hurl, fetch_clients_of_error hurl]
  | ok url =>
    rw [fetch_clients hurl]
    cases hclient : clientFor second request.proxy <;> simp [next, hurl, hclient, Except.toOption]

theorem Stage.next_clients {stage : Stage} (h : ∀ url, stage ≠ .checked url) :
    (stage.next routes method request clients).2 = clients := by
  cases stage with
  | asked =>
    unfold next
    cases checkUrl request.url <;> rfl
  | checked url => exact absurd rfl (h url)
  | equipped url =>
    dsimp only [next]
    split <;> rfl
  | ended result => rfl

theorem Stage.next_ne_asked (stage : Stage) :
    (stage.next routes method request clients).1 ≠ .asked := by
  cases stage <;> dsimp only [next]
  case ended => exact Stage.noConfusion
  all_goals split <;> exact Stage.noConfusion

theorem Stage.next_ne_checked {stage : Stage} (h : stage ≠ .asked) (url : Text) :
    (stage.next routes method request clients).1 ≠ .checked url := by
  cases stage with
  | asked => exact absurd rfl h
  | checked u =>
    dsimp only [next]
    split <;> exact Stage.noConfusion
  | equipped u =>
    dsimp only [next]
    split <;> exact Stage.noConfusion
  | ended result => exact Stage.noConfusion

theorem Stage.next_checked (clients : Clients) (url : Text) :
    ((checked url).next routes method request clients).1 =
      match clientProblem? clients request.proxy with
      | none => equipped url
      | some p => ended (.error (problemOf url p)) := by
  dsimp only [next, clientProblem?]
  cases clientFor clients request.proxy <;> rfl

/-- Sound clients do not show in the stage that a step leads to. -/
theorem Stage.next_congr (h : Sound clients) (stage : Stage) :
    (stage.next routes method request clients).1 = (stage.next routes method request []).1 := by
  cases stage with
  | asked =>
    dsimp only [next]
    cases checkUrl request.url <;> rfl
  | checked url => rw [next_checked, next_checked, clientProblem?_of_sound h]
  | equipped url =>
    dsimp only [next]
    split
    · rfl
    · exact congrArg ended (exchange_congr routes url _).1
  | ended result => rfl

/-- The stage of a call after some steps, as if it were the only one. -/
def FetchRequest.alone (routes : Http.Routes) (method : Text) (request : FetchRequest) :
    Nat → Stage
  | 0 => .asked
  | steps + 1 => ((request.alone routes method steps).next routes method request []).1

theorem FetchRequest.alone_of_three_le {steps : Nat} (h : 3 ≤ steps) :
    request.alone routes method steps = .ended (fetch routes method [] request).result := by
  induction h with
  | refl => exact Stage.next_next_next [] [] []
  | step h ih => rw [alone, ih]; rfl

/-- After its second step a call is past the clients, and before its first one not yet there. -/
theorem FetchRequest.alone_ne_checked {steps : Nat} (h : steps ≠ 1) (url : Text) :
    request.alone routes method steps ≠ .checked url := by
  match steps with
  | 0 => exact Stage.noConfusion
  | 1 => exact absurd rfl h
  | steps + 2 => exact Stage.next_ne_checked (Stage.next_ne_asked _) url

/-! ## Calls that take turns -/

/-- A call for a request, and how far it has come. -/
structure Call where
  request : FetchRequest
  stage : Stage

/-- A fetcher with the calls that are made of it. -/
structure Session where
  clients : Clients
  calls : List Call

namespace Session

/-- No call has taken a step. -/
def start (requests : List FetchRequest) : Session := ⟨[], requests.map fun r => ⟨r, .asked⟩⟩

/-- Takes the next step of the call at an index. -/
def step (routes : Http.Routes) (method : Text) (s : Session) (i : Nat) : Session :=
  match s.calls[i]? with
  | none => s
  | some ⟨request, stage⟩ =>
    let (stage, clients) := stage.next routes method request s.clients
    ⟨clients, s.calls.set i ⟨request, stage⟩⟩

def run (routes : Http.Routes) (method : Text) (s : Session) (schedule : List Nat) : Session :=
  schedule.foldl (step routes method) s

end Session

/-- The calls of a schedule that come to the lock, in order, where `seen` came before: each of them
comes there at its second step. -/
def atLockAfter (seen : List Nat) : List Nat → List Nat
  | [] => []
  | i :: rest =>
    if seen.count i = 1 then i :: atLockAfter (i :: seen) rest else atLockAfter (i :: seen) rest

/-- The requests of a schedule in the order in which their calls come to the lock. -/
def lookedUp (requests : List FetchRequest) (schedule : List Nat) : List FetchRequest :=
  (atLockAfter [] schedule).filterMap (requests[·]?)

theorem atLockAfter_concat (seen schedule : List Nat) (i : Nat) :
    atLockAfter seen (schedule ++ [i]) =
      if seen.count i + schedule.count i = 1 then atLockAfter seen schedule ++ [i]
      else atLockAfter seen schedule := by
  induction schedule generalizing seen with
  | nil =>
    rw [List.nil_append, atLockAfter, List.count_nil, Nat.add_zero]
    rfl
  | cons j rest ih =>
    have hcount : (j :: seen).count i + rest.count i = seen.count i + (j :: rest).count i := by
      rw [List.count_cons, List.count_cons]
      omega
    rw [List.cons_append, atLockAfter, atLockAfter, ih, hcount]
    split <;> split <;> rfl

theorem mem_atLockAfter {seen schedule : List Nat} {i : Nat} :
    i ∈ atLockAfter seen schedule ↔
      seen.count i ≤ 1 ∧ 2 ≤ seen.count i + schedule.count i := by
  induction schedule generalizing seen with
  | nil =>
    simp only [atLockAfter, List.not_mem_nil, List.count_nil, false_iff]
    omega
  | cons j rest ih =>
    rw [atLockAfter]
    by_cases hj : j = i
    · subst hj
      rw [List.count_cons_self]
      split
      · exact iff_of_true List.mem_cons_self (by omega)
      · rw [ih, List.count_cons_self]
        omega
    · rw [List.count_cons_of_ne hj]
      split <;> simp only [List.mem_cons, ih, List.count_cons_of_ne hj, Ne.symm hj, false_or]

theorem lookedUp_concat {schedule : List Nat} {i : Nat} (hi : requests[i]? = some request)
    (h : schedule.count i = 1) :
    lookedUp requests (schedule ++ [i]) = lookedUp requests schedule ++ [request] := by
  simp [lookedUp, atLockAfter_concat, h, hi]

theorem lookedUp_concat_of_ne {schedule : List Nat} {i : Nat}
    (h : requests[i]? = none ∨ schedule.count i ≠ 1) :
    lookedUp requests (schedule ++ [i]) = lookedUp requests schedule := by
  unfold lookedUp
  rw [atLockAfter_concat, List.count_nil, Nat.zero_add]
  split <;> rename_i hcount
  · simp [h.resolve_right (not_not_intro hcount)]
  · rfl

/-- A schedule that takes every call to its second step makes all requests look for a client. -/
theorem mem_lookedUp {schedule : List Nat} (h : ∀ i < requests.length, 2 ≤ schedule.count i) :
    request ∈ lookedUp requests schedule ↔ request ∈ requests := by
  rw [lookedUp, List.mem_filterMap]
  constructor
  · rintro ⟨i, -, hi⟩
    exact List.mem_of_getElem? hi
  · intro hmem
    obtain ⟨i, hi⟩ := List.mem_iff_getElem?.mp hmem
    obtain ⟨hlt, -⟩ := List.getElem?_eq_some_iff.mp hi
    exact ⟨i, mem_atLockAfter.mpr (by simpa using h i hlt), hi⟩

/-- What a session has come to by a schedule: its clients are those that the requests leave in the
order of the lock, and every call stands where it would stand alone. -/
structure Session.Follows (routes : Http.Routes) (method : Text) (requests : List FetchRequest)
    (schedule : List Nat) (s : Session) : Prop where
  clients : s.clients = clientsAfter routes method (lookedUp requests schedule)
  calls : ∀ i, s.calls[i]? =
    requests[i]?.map fun r => Call.mk r (r.alone routes method (schedule.count i))

namespace Session

variable {s : Session} {stage : Stage} {schedule : List Nat} {i : Nat}

theorem step_of_none (h : s.calls[i]? = none) : s.step routes method i = s := by
  rw [step, h]

theorem step_of_getElem? (h : s.calls[i]? = some ⟨request, stage⟩) :
    s.step routes method i = ⟨(stage.next routes method request s.clients).2,
      s.calls.set i ⟨request, (stage.next routes method request s.clients).1⟩⟩ := by
  rw [step, h]

theorem Follows.call (h : s.Follows routes method requests schedule)
    (hi : requests[i]? = some request) :
    s.calls[i]? = some ⟨request, request.alone routes method (schedule.count i)⟩ := by
  rw [h.calls, hi, Option.map_some]

theorem Follows.no_call (h : s.Follows routes method requests schedule)
    (hi : requests[i]? = none) : s.calls[i]? = none := by
  rw [h.calls, hi, Option.map_none]

theorem Follows.clients_step (h : s.Follows routes method requests schedule) (i : Nat) :
    (s.step routes method i).clients =
      clientsAfter routes method (lookedUp requests (schedule ++ [i])) := by
  cases hi : requests[i]? with
  | none =>
    rw [step_of_none (h.no_call hi), lookedUp_concat_of_ne (.inl hi)]
    exact h.clients
  | some request =>
    rw [step_of_getElem? (h.call hi)]
    by_cases hone : schedule.count i = 1
    · rw [lookedUp_concat hi hone, clientsAfter_concat, ← h.clients, hone]
      exact Stage.next_next_clients [] s.clients
    · rw [lookedUp_concat_of_ne (.inr hone), ← h.clients]
      exact Stage.next_clients (FetchRequest.alone_ne_checked hone)

theorem Follows.calls_step (h : s.Follows routes method requests schedule) (i j : Nat) :
    (s.step routes method i).calls[j]? = requests[j]?.map fun r =>
      Call.mk r (r.alone routes method ((schedule ++ [i]).count j)) := by
  have hsound : Sound s.clients := h.clients ▸ sound_clientsAfter routes method _
  by_cases hj : i = j
  · subst hj
    cases hi : requests[i]? with
    | none =>
      rw [step_of_none (h.no_call hi), h.no_call hi]
      rfl
    | some request =>
      have hlt : i < s.calls.length := (List.getElem?_eq_some_iff.mp (h.call hi)).1
      rw [step_of_getElem? (h.call hi), List.getElem?_set_self hlt, Stage.next_congr hsound,
        List.count_append, List.count_singleton_self]
      rfl
  · have hcount : (schedule ++ [i]).count j = schedule.count j := by
      rw [List.count_append, List.count_singleton, if_neg (by simpa using hj), Nat.add_zero]
    rw [hcount, ← h.calls]
    cases hi : requests[i]? with
    | none => rw [step_of_none (h.no_call hi)]
    | some request => rw [step_of_getElem? (h.call hi), List.getElem?_set_ne hj]

theorem Follows.step (h : s.Follows routes method requests schedule) (i : Nat) :
    (s.step routes method i).Follows routes method requests (schedule ++ [i]) :=
  ⟨h.clients_step i, h.calls_step i⟩

end Session

/-- **Calls do not see each other.** -/
theorem Session.follows_run (routes : Http.Routes) (method : Text) (requests : List FetchRequest)
    (schedule : List Nat) :
    ((start requests).run routes method schedule).Follows routes method requests schedule := by
  induction schedule using List.reverseRec with
  | nil => exact ⟨rfl, fun i => by simp [run, start, FetchRequest.alone]⟩
  | append_singleton before i ih =>
    rw [run, List.foldl_append]
    exact ih.step i

/-- **One client for each proxy.** Whether requests follow each other or their calls take turns, the
clients are the first occurrences of those that are wanted, in the order in which the calls come to
the lock. A client that cannot be built is never there, so that requests for it fail, and every
result is the one that the request has alone. -/
theorem one_client_per_proxy (routes : Http.Routes) (method : Text)
    (requests : List FetchRequest) :
    (let clients := clientsAfter routes method requests
    clients = firsts (wanted requests) ∧ clients.Nodup ∧
      ∀ request,
        clients <+: (fetch routes method clients request).clients ∧
        (fetch routes method clients request).result = (fetch routes method [] request).result ∧
        (buildable request.key = false →
          request.key ∉ clients ∧ ∃ p, (fetch routes method clients request).result = .error p) ∧
        fetch routes method clients { request with proxy := some [] } =
          fetch routes method clients { request with proxy := none }) ∧
    ∀ schedule,
      let s := (Session.start requests).run routes method schedule
      s.clients = firsts (wanted (lookedUp requests schedule)) ∧ s.clients.Nodup ∧
        (∀ i request, requests[i]? = some request → 3 ≤ schedule.count i →
          s.calls[i]? = some ⟨request, .ended (fetch routes method [] request).result⟩) ∧
        ((∀ i < requests.length, 2 ≤ schedule.count i) →
          s.clients.Perm (clientsAfter routes method requests)) := by
  refine ⟨?_, fun schedule => ?_⟩
  · have hsound := sound_clientsAfter routes method requests
    have heq := clientsAfter_eq routes method requests
    refine ⟨heq, heq ▸ firsts_nodup _, fun request => ⟨prefix_fetch_clients, ?_, fun h => ?_, rfl⟩⟩
    · exact (fetch_congr routes method request (clientProblem?_of_sound hsound _)).1
    · exact ⟨hsound.not_mem h, fetch_of_not_buildable h hsound⟩
  · obtain ⟨hclients, hcalls⟩ := Session.follows_run routes method requests schedule
    have heq := hclients.trans (clientsAfter_eq routes method _)
    refine ⟨heq, heq ▸ firsts_nodup _, fun i request hi hcount => ?_, fun h => ?_⟩
    · rw [hcalls, hi, Option.map_some, FetchRequest.alone_of_three_le hcount]
    · -- Every request has come to the lock, so the same clients are wanted.
      rw [heq, clientsAfter_eq]
      refine (List.perm_ext_iff_of_nodup (firsts_nodup _) (firsts_nodup _)).mpr fun key => ?_
      simp only [mem_firsts, wanted, List.mem_filter, List.mem_map, mem_lookedUp h]

/-- Requests for a proxy that cannot be built, with a URL that is refused, with the empty proxy, for
another proxy and with none. -/
def mixedRequests : List FetchRequest :=
  [⟨"http://a/1", none, some "ftp://q:1", []⟩, ⟨"a/2", none, some "http://q:2", []⟩,
    ⟨"http://a/3", none, some [], []⟩, ⟨"http://a/4", none, some "http://q:3", []⟩,
    ⟨"http://a/5", none, none, []⟩]

/-- All calls for them, three steps each; the second steps come in the order 3, 4, 0, 2, 1. -/
def mixedSchedule : List Nat := [4, 3, 0, 3, 4, 1, 0, 2, 2, 1, 3, 4, 0, 1, 2]

/-- The order of the lock decides which of the two clients is built first. -/
theorem clients_of_mixedRequests :
    clientsAfter [] "GET" mixedRequests = [none, some "http://q:3".toList] ∧
      ((Session.start mixedRequests).run [] "GET" mixedSchedule).clients =
        [some "http://q:3".toList, none] ∧
      ∃ p, (fetch [] "GET" (clientsAfter [] "GET" mixedRequests)
        ⟨"http://a/1", none, some "ftp://q:1", []⟩).result = .error p := by
  obtain ⟨⟨hclients, -, hrequest⟩, hschedule⟩ := one_client_per_proxy [] "GET" mixedRequests
  refine ⟨?_, ?_, ((hrequest _).2.2.1 (by decide +kernel)).2⟩
  · rw [hclients]
    decide +kernel
  · rw [(hschedule mixedSchedule).1]
    decide +kernel

end LinkHarvest.Retrieval
