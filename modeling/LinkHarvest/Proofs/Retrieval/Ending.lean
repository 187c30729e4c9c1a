import LinkHarvest.Proofs.Fallible
import LinkHarvest.Proofs.Retrieval.Forms
import LinkHarvest.Proofs.Retrieval.Routes
import LinkHarvest.Proofs.Retrieval.SourceUrl

/-!
# How a retrieval ends

A retrieval ends in exactly one of four ways (`fetch_ends`): the URL is refused before anything
happens, there is no response, the server refuses, or the links of the response are read. What
decides is the check of the URL and then `response`: the final reply of the network, or the first
problem of building a client, building the request and sending it. Each of these problems counts as
one of three, so nothing but a problem of retrieval leaves a retrieval.
-/

namespace LinkHarvest

namespace Http

variable {routes : Routes} {r : Request} {response : Response} {redirects : Nat}

/-- The response to requests that went out: the reply to the last one, which leads nowhere else. -/
structure Final (routes : Routes) (sent : List Sent) (response : Response) : Prop where
  last : sent.getLast?.map Sent.url = some response.url
  answered : ∃ location,
    routes.answer response.url = .reply ⟨response.status, location, response.body⟩ ∧
      (isRedirect response.status = true → location = none)

theorem Request.send_eq_ok (h : (r.send routes redirects).result = .ok response) :
    (∃ reply, r.sendOnce routes = .ok reply ∧ r.next? reply = none ∧
      (r.send routes redirects).sent = [r.sent] ∧
        response = ⟨r.url.text, reply.status, reply.body⟩) ∨
    ∃ (left : Nat) (next : Request), redirects = left + 1 ∧
      (r.send routes redirects).sent = r.sent :: (next.send routes left).sent ∧
        (next.send routes left).result = .ok response := by
  rw [send] at h ⊢
  cases hreply : r.sendOnce routes with
  | error p => simp [hreply] at h
  | ok reply =>
    rw [hreply] at h
    dsimp only at h ⊢
    cases hnext : r.next? reply with
    | none =>
      rw [hnext] at h
      exact .inl ⟨reply, rfl, hnext, rfl, (Except.ok.inj h).symm⟩
    | some next =>
      rw [hnext] at h
      cases next with
      | error p => simp at h
      | ok next =>
        cases redirects with
        | zero => simp at h
        | succ left => exact .inr ⟨left, next, rfl, rfl, h⟩

theorem Request.location_of_next? {reply : Reply} (h : r.next? reply = none) :
    isRedirect reply.status = true → reply.location = none := by
  intro hredirect
  rw [next?, if_pos hredirect] at h
  exact Option.map_eq_none_iff.mp h

/-- **The response of a chain of requests is its final reply.** -/
theorem Request.final_send (h : (r.send routes redirects).result = .ok response) :
    Final routes (r.send routes redirects).sent response := by
  induction redirects using Nat.strong_induction_on generalizing r with
  | _ redirects ih =>
    rcases send_eq_ok h with ⟨reply, honce, hnext, hsent, rfl⟩ | ⟨left, next, rfl, hsent, hrest⟩
    · rw [hsent]
      exact ⟨rfl, reply.location, answer_of_sendOnce honce, location_of_next? hnext⟩
    · obtain ⟨hlast, hanswered⟩ := ih left (by omega) hrest
      refine ⟨?_, hanswered⟩
      obtain ⟨q, hq, hurl⟩ := Option.map_eq_some_iff.mp hlast
      rw [hsent, List.getLast?_cons, hq]
      simpa using hurl

end Http

namespace Retrieval

variable {routes : Http.Routes} {method : Text} {clients : Clients} {request : FetchRequest}
  {url : Text}

/-! ## Causes and effects -/

/-- The response to a request for a checked URL, or what fails before there is one: building the
client, building the request, or sending it. -/
def response (routes : Http.Routes) (method : Text) (clients : Clients) (request : FetchRequest)
    (url : Text) : Except Http.Problem Http.Response := do
  let _ ← clientFor clients request.proxy
  let r ← Http.Request.build (if request.method.isEmpty then method else request.method) url
    (nonEmpty? request.agent)
  (r.send routes Http.redirectLimit).result

/-- How a retrieval can end. -/
inductive Ending
  /-- The URL is refused. -/
  | invalid (fault : UrlFault)
  /-- There is no response. -/
  | unanswered (url : Text) (problem : Http.Problem)
  /-- The status of the response is no success. -/
  | refused (url : Text) (response : Http.Response)
  /-- The links of the response are read. -/
  | read (url : Text) (response : Http.Response)

def Ending.Cause (routes : Http.Routes) (method : Text) (clients : Clients)
    (request : FetchRequest) : Ending → Prop
  | .invalid fault => checkUrl request.url = .error (.invalidUrl request.url fault)
  | .unanswered url problem =>
    checkUrl request.url = .ok url ∧ response routes method clients request url = .error problem
  | .refused url r =>
    checkUrl request.url = .ok url ∧ response routes method clients request url = .ok r ∧
      ¬(200 ≤ r.status ∧ r.status < 300)
  | .read url r =>
    checkUrl request.url = .ok url ∧ response routes method clients request url = .ok r ∧
      200 ≤ r.status ∧ r.status < 300

/-- What a retrieval that ends in a way has done. -/
def Ending.Effect (routes : Http.Routes) (clients : Clients) (request : FetchRequest)
    (x : Transfer) : Ending → Prop
  | .invalid fault =>
    x.result = .error (.invalidUrl request.url fault) ∧ x.sent = [] ∧ x.clients = clients
  | .unanswered url p =>
    ∃ problem ∈ [.invalidUrl url (.refused p.message), .transport url p.message,
      .rejected url p.message], x.result = .error problem ∧ problem.status? = none
  | .refused url r => x.result = .error (.status url r.status) ∧ Http.Final routes x.sent r
  | .read _ r =>
    x.result = .ok ⟨r.url, r.status, r.body.length, readBody r.body⟩ ∧
      Http.Final routes x.sent r ∧
        ∀ link ∈ (readBody r.body).links, link ≠ [] ∧ Text.trim link = link ∧ '\n' ∉ link

/-! ## The parts of a retrieval -/

theorem problemOf_mem (url : Text) (p : Http.Problem) :
    problemOf url p ∈ [.invalidUrl url (.refused p.message), .transport url p.message,
      .rejected url p.message] ∧ (problemOf url p).status? = none := by
  unfold problemOf
  cases p.kind <;> exact ⟨by simp, rfl⟩

theorem fetch_unanswered {p : Http.Problem} (hurl : checkUrl request.url = .ok url)
    (h : response routes method clients request url = .error p) :
    (fetch routes method clients request).result = .error (problemOf url p) := by
  unfold fetch
  unfold response at h
  rw [hurl]
  dsimp only
  cases hclient : clientFor clients request.proxy with
  | error q =>
    rw [hclient] at h
    cases h
    rfl
  | ok clients' =>
    rw [hclient, Fallible.ok_bind] at h
    dsimp only
    cases hbuild : Http.Request.build (if request.method.isEmpty then method else request.method)
        url (nonEmpty? request.agent) with
    | error q =>
      rw [hbuild] at h
      cases h
      rfl
    | ok r =>
      rw [hbuild, Fallible.ok_bind] at h
      dsimp only
      unfold exchange
      dsimp only
      rw [h]

theorem fetch_answered {r : Http.Response} (hurl : checkUrl request.url = .ok url)
    (h : response routes method clients request url = .ok r) :
    (fetch routes method clients request).result = (readResponse url r).2 ∧
      Http.Final routes (fetch routes method clients request).sent r := by
  obtain ⟨clients', hclient, h⟩ := Fallible.bind_eq_ok.mp h
  obtain ⟨q, hbuild, hsend⟩ := Fallible.bind_eq_ok.mp h
  unfold fetch
  rw [hurl]
  dsimp only
  rw [hclient]
  dsimp only
  rw [hbuild]
  dsimp only
  rw [exchange_sent]
  refine ⟨?_, Http.Request.final_send hsend⟩
  unfold exchange
  dsimp only
  rw [hsend]

theorem readResponse_of_success {r : Http.Response} (h : 200 ≤ r.status ∧ r.status < 300) :
    (readResponse url r).2 = .ok ⟨r.url, r.status, r.body.length, readBody r.body⟩ := by
  rw [readResponse, if_pos (by simpa [Http.isSuccess] using h)]

theorem readResponse_of_failure {r : Http.Response} (h : ¬(200 ≤ r.status ∧ r.status < 300)) :
    (readResponse url r).2 = .error (.status url r.status) := by
  rw [readResponse, if_neg (by simpa [Http.isSuccess] using h)]

theorem fetch_body {fetched : Fetched}
    (h : (fetch routes method clients request).result = .ok fetched) :
    ∃ bytes, fetched.body = readBody bytes := by
  cases hurl : checkUrl request.url with
  | error p =>
    rw [fetch, hurl] at h
    cases h
  | ok url =>
    cases hresponse : response routes method clients request url with
    | error p =>
      rw [fetch_unanswered hurl hresponse] at h
      cases h
    | ok r =>
      rw [(fetch_answered hurl hresponse).1] at h
      by_cases hstatus : 200 ≤ r.status ∧ r.status < 300
      · rw [readResponse_of_success hstatus] at h
        cases h
        exact ⟨r.body, rfl⟩
      · rw [readResponse_of_failure hstatus] at h
        cases h

/-! ## Endings -/

theorem Ending.exists_cause (routes : Http.Routes) (method : Text) (clients : Clients)
    (request : FetchRequest) : ∃ e : Ending, e.Cause routes method clients request := by
  cases hurl : checkUrl request.url with
  | error p =>
    obtain ⟨fault, rfl⟩ := checkUrl_eq_error hurl
    exact ⟨.invalid fault, hurl⟩
  | ok url =>
    cases hresponse : response routes method clients request url with
    | error p => exact ⟨.unanswered url p, hurl, hresponse⟩
    | ok r =>
      by_cases hstatus : 200 ≤ r.status ∧ r.status < 300
      · exact ⟨.read url r, hurl, hresponse, hstatus⟩
      · exact ⟨.refused url r, hurl, hresponse, hstatus⟩

theorem Ending.Cause.unique {e e' : Ending} (h : e.Cause routes method clients request)
    (h' : e'.Cause routes method clients request) : e = e' := by
  unfold Cause at h h'
  cases e <;> cases e' <;> grind

theorem Ending.Cause.effect {e : Ending} (h : e.Cause routes method clients request) :
    e.Effect routes clients request (fetch routes method clients request) := by
  cases e with
  | invalid fault =>
    have hurl : checkUrl request.url = .error (.invalidUrl request.url fault) := h
    have hfetch : fetch routes method clients request =
        ⟨clients, [], [], .error (.invalidUrl request.url fault)⟩ := by rw [fetch, hurl]
    rw [hfetch]
    exact ⟨rfl, rfl, rfl⟩
  | unanswered url p =>
    obtain ⟨hurl, hresponse⟩ := h
    obtain ⟨hmem, hstatus⟩ := problemOf_mem url p
    exact ⟨problemOf url p, hmem, fetch_unanswered hurl hresponse, hstatus⟩
  | refused url r =>
    obtain ⟨hurl, hresponse, hstatus⟩ := h
    obtain ⟨hresult, hfinal⟩ := fetch_answered hurl hresponse
    exact ⟨hresult.trans (readResponse_of_failure hstatus), hfinal⟩
  | read url r =>
    obtain ⟨hurl, hresponse, hstatus⟩ := h
    obtain ⟨hresult, hfinal⟩ := fetch_answered hurl hresponse
    refine ⟨hresult.trans (readResponse_of_success hstatus), hfinal, fun link hlink => ?_⟩
    have honLine := onLine_links hlink
    exact ⟨honLine.filled, Text.trim_of_tight honLine.tight, honLine.unbroken⟩

/-- **A retrieval ends in exactly one way**, with the cause and the effect of this way; and it ends
with the status of a response exactly when this status is no success. -/
theorem fetch_ends (routes : Http.Routes) (method : Text) (clients : Clients)
    (request : FetchRequest) :
    (∃! e : Ending, e.Cause routes method clients request ∧
      e.Effect routes clients request (fetch routes method clients request)) ∧
    ∀ code, (∃ p, (fetch routes method clients request).result = .error p ∧
        p.status? = some code) ↔
      ∃ url r, (Ending.refused url r).Cause routes method clients request ∧ r.status = code := by
  obtain ⟨e, he⟩ := Ending.exists_cause routes method clients request
  refine ⟨⟨e, ⟨he, he.effect⟩, fun e' he' => he'.1.unique he⟩, fun code => ⟨?_, ?_⟩⟩
  · rintro ⟨p, hp, hcode⟩
    have heffect := he.effect
    -- Only a refusal has a status to tell.
    cases e with
    | invalid fault =>
      rw [heffect.1] at hp
      cases hp
      cases hcode
    | unanswered url q =>
      obtain ⟨problem, -, hresult, hnone⟩ := heffect
      rw [hresult] at hp
      cases hp
      rw [hnone] at hcode
      cases hcode
    | refused url r =>
      rw [heffect.1] at hp
      cases hp
      exact ⟨url, r, he, Option.some.inj hcode⟩
    | read url r =>
      rw [heffect.1] at hp
      cases hp
  · rintro ⟨url, r, hcause, rfl⟩
    exact ⟨.status url r.status, hcause.effect.1, rfl⟩

end Retrieval

end LinkHarvest
