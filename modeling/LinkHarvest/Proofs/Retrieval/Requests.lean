import LinkHarvest.Proofs.Retrieval.Clients
import LinkHarvest.Proofs.Retrieval.Routes
import LinkHarvest.Proofs.Retrieval.SourceUrl

/-!
# The request of a retrieval

Where no server redirects, a retrieval sends one request or none (`fetch_sent`). Which one it is
does not depend on what the servers answer: `asked?` says it in terms of the URL, the clients, the
method and the agent.
-/

namespace LinkHarvest

namespace Http

/-- The reply asks for another request. -/
def Route.redirects : Route → Bool
  | .reply r => isRedirect r.status && r.location.isSome
  | .breakdown _ _ => false

def Routes.NoRedirects (routes : Routes) : Prop := ∀ e ∈ routes, e.2.redirects = false

instance (routes : Routes) : Decidable routes.NoRedirects :=
  inferInstanceAs (Decidable (∀ e ∈ routes, e.2.redirects = false))

variable {routes : Routes} {r : Request}

theorem Routes.NoRedirects.answer (h : routes.NoRedirects) (url : Text) :
    (routes.answer url).redirects = false := by
  unfold Routes.answer
  cases hfound : routes.find? fun r => r.1 = url with
  | none => rfl
  | some e => exact h e (List.mem_of_find?_eq_some hfound)

theorem Request.next?_eq_none {reply : Reply} (h : (Route.reply reply).redirects = false) :
    r.next? reply = none := by
  have hnot : (isRedirect reply.status && reply.location.isSome) = false := h
  unfold next?
  cases hlocation : reply.location with
  | none => exact ite_self none
  | some location =>
    rw [hlocation, Option.isSome_some, Bool.and_true] at hnot
    rw [hnot]
    rfl

/-- **Without redirects, one request is all that goes out.** -/
theorem Request.sent_send (h : routes.NoRedirects) (r : Request) (redirects : Nat) :
    (r.send routes redirects).sent = [r.sent] := by
  unfold send
  cases hreply : r.sendOnce routes with
  | error p => rfl
  | ok reply =>
    have hroute := answer_of_sendOnce hreply
    have hlast : r.next? reply = none := next?_eq_none (hroute ▸ h.answer r.url.text)
    dsimp only
    rw [hlast]

theorem Request.build_eq_ok {method url : Text} {agent : Option Text}
    (h : Request.build method url agent = .ok r) :
    ∃ u, targetUrl url = .ok u ∧ r = ⟨Text.upper method, u, agent⟩ := by
  obtain ⟨u, hu, h⟩ := Fallible.bind_eq_ok.mp h
  refine ⟨u, Fallible.mapError_eq_ok.mp hu, ?_⟩
  cases agent with
  | none =>
    cases h
    rfl
  | some a =>
    dsimp only at h
    split at h <;> cases h
    rfl

end Http

namespace Retrieval

/-- The request that goes out for a retrieval, if it comes to that. -/
def asked? (method : Text) (clients : Clients) (request : FetchRequest) : Option Http.Sent :=
  match checkUrl request.url with
  | .error _ => none
  | .ok url =>
    match clientProblem? clients request.proxy with
    | some _ => none
    | none =>
      let method := if request.method.isEmpty then method else request.method
      (Http.Request.build method url (nonEmpty? request.agent)).toOption.map Http.Request.sent

variable {routes : Http.Routes} {method : Text} {clients : Clients} {request : FetchRequest}

theorem asked?_of_invalid {p : Problem} (h : checkUrl request.url = .error p) :
    asked? method clients request = none := by
  unfold asked?
  rw [h]

theorem asked?_eq_some {q : Http.Sent} (h : asked? method clients request = some q) :
    checkUrl request.url = .ok (Text.trim request.url) ∧
      ∃ u, Http.targetUrl (Text.trim request.url) = .ok u ∧
        q = ⟨Text.upper (if request.method.isEmpty then method else request.method), u.text,
          nonEmpty? request.agent⟩ := by
  unfold asked? at h
  cases hchecked : checkUrl request.url with
  | error p =>
    rw [hchecked] at h
    cases h
  | ok url =>
    rw [hchecked] at h
    obtain ⟨-, rfl⟩ := checkUrl_eq_ok.mp hchecked
    dsimp only at h
    split at h
    · cases h
    · obtain ⟨r, hr, rfl⟩ := Option.map_eq_some_iff.mp h
      obtain ⟨u, hu, rfl⟩ := Http.Request.build_eq_ok (Fallible.toOption_eq_some.mp hr)
      exact ⟨rfl, u, hu, rfl⟩

/-- **A retrieval sends its request, or nothing.** -/
theorem fetch_sent (h : routes.NoRedirects) :
    (fetch routes method clients request).sent = (asked? method clients request).toList := by
  unfold fetch asked? clientProblem?
  cases checkUrl request.url with
  | error p => rfl
  | ok url =>
    dsimp only
    cases clientFor clients request.proxy with
    | error p => rfl
    | ok clients' =>
      dsimp only
      split
      · rename_i hbuild
        rw [hbuild]
        rfl
      · rename_i r hbuild
        rw [hbuild, exchange_sent, Http.Request.sent_send h]
        rfl

end Retrieval

end LinkHarvest
