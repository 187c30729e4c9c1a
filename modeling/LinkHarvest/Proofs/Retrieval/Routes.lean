import LinkHarvest.Retrieval.Fetcher

/-!
# A retrieval sees only what it asks for

A retrieval learns of the network what is answered for the URLs that it sends requests to. Where two
networks answer these alike, the retrieval does not tell them apart (`fetch_congr_routes`); and to
know that they are answered alike it is enough to look at the requests in one of the networks.
-/

namespace LinkHarvest

namespace Http

variable {routes routes' : Routes}

theorem Routes.answer_set_of_ne {url other : Text} (h : other ≠ url) (route : Route) :
    (routes.set url route).answer other = routes.answer other := by
  induction routes with
  | nil =>
    have hnone : ¬url = other := Ne.symm h
    simp [set, answer, hnone]
  | cons first rest ih =>
    obtain ⟨u, r⟩ := first
    rw [set]
    by_cases hu : u = url
    · subst hu
      have hnone : ¬u = other := Ne.symm h
      simp [answer, hnone]
    · rw [if_neg hu]
      unfold answer at ih ⊢
      by_cases hother : u = other
      · simp [hother]
      · simpa [hother] using ih

theorem Request.mem_send (r : Request) (redirects : Nat) :
    r.url.text ∈ (r.send routes redirects).sent.map Sent.url := by
  have hhead : ∀ rest : List Sent, r.url.text ∈ (r.sent :: rest).map Sent.url :=
    fun rest => List.mem_map.mpr ⟨r.sent, List.mem_cons_self, rfl⟩
  unfold send
  cases r.sendOnce routes with
  | error p => exact hhead []
  | ok reply =>
    dsimp only
    cases r.next? reply with
    | none => exact hhead []
    | some next =>
      cases next with
      | error p => exact hhead []
      | ok next => cases redirects <;> exact hhead _

theorem Request.answer_of_sendOnce {r : Request} {reply : Reply}
    (h : r.sendOnce routes = .ok reply) : routes.answer r.url.text = .reply reply := by
  unfold sendOnce at h
  split at h
  · cases h
  · split at h <;> cases h
    assumption

theorem Request.sendOnce_congr {r : Request}
    (h : routes.answer r.url.text = routes'.answer r.url.text) :
    r.sendOnce routes = r.sendOnce routes' := by
  unfold sendOnce
  rw [h]

theorem Request.send_congr {r : Request} {redirects : Nat}
    (h : ∀ url ∈ (r.send routes redirects).sent.map Sent.url,
      routes.answer url = routes'.answer url) :
    r.send routes redirects = r.send routes' redirects := by
  induction redirects generalizing r with
  | zero =>
    have honce := sendOnce_congr (h _ (r.mem_send 0))
    unfold send
    rw [honce]
  | succ redirects ih =>
    have honce := sendOnce_congr (h _ (r.mem_send (redirects + 1)))
    unfold send at h ⊢
    rw [honce] at h ⊢
    cases hreply : r.sendOnce routes' with
    | error p => rfl
    | ok reply =>
      rw [hreply] at h
      dsimp only at h ⊢
      cases hnext : r.next? reply with
      | none => rfl
      | some next =>
        rw [hnext] at h
        cases next with
        | error p => rfl
        | ok next =>
          have hrest := ih fun url hurl => h url (List.mem_cons_of_mem _ hurl)
          dsimp only
          rw [hrest]

end Http

namespace Retrieval

variable {routes routes' : Http.Routes} {clients : Clients} {method : Text}

theorem exchange_sent (url : Text) (request : Http.Request) :
    (exchange routes clients url request).sent = (request.send routes Http.redirectLimit).sent := by
  unfold exchange
  dsimp only
  split <;> rfl

/-- **Networks that answer the requests of a retrieval alike are alike to it.** -/
theorem fetch_congr_routes {request : FetchRequest}
    (h : ∀ url ∈ (fetch routes method clients request).sent.map Http.Sent.url,
      routes.answer url = routes'.answer url) :
    fetch routes method clients request = fetch routes' method clients request := by
  unfold fetch at h ⊢
  cases hurl : checkUrl request.url with
  | error p => rfl
  | ok url =>
    rw [hurl] at h
    dsimp only at h ⊢
    cases hclient : clientFor clients request.proxy with
    | error p => rfl
    | ok clients' =>
      rw [hclient] at h
      dsimp only at h ⊢
      cases hbuild : Http.Request.build (if request.method.isEmpty then method else request.method) url
          (nonEmpty? request.agent) with
      | error p => rfl
      | ok r =>
        rw [hbuild] at h
        dsimp only at h ⊢
        rw [exchange_sent] at h
        unfold exchange
        rw [Http.Request.send_congr h]

end Retrieval

end LinkHarvest
