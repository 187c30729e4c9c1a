import LinkHarvest.Proofs.Fallible
import LinkHarvest.Retrieval.Fetcher

/-!
# Clients and the result of a retrieval

The clients that were built before matter to a retrieval only in one way: whether there is a client
for the proxy, or why none can be built. No retrieval through a proxy changes the answer to this
question (`clientProblem?_fetch`), so the results of retrievals do not depend on their order
(`fetch_congr`).
-/

namespace LinkHarvest.Retrieval

open Fallible

/-- Why there is no client for a proxy, if there is none and none can be built. -/
def clientProblem? (clients : Clients) (proxy : Option Text) : Option Http.Problem :=
  match clientFor clients proxy with
  | .ok _ => none
  | .error p => some p

variable {clients clients' : Clients} {proxy : Option Text}

theorem clientFor_of_contains (h : clients.contains (nonEmpty? proxy) = true) :
    clientFor clients proxy = .ok clients := if_pos h

theorem contains_of_clientFor (h : clientFor clients proxy = .ok clients') :
    clients'.contains (nonEmpty? proxy) = true := by
  unfold clientFor at h
  generalize nonEmpty? proxy = p at h ⊢
  dsimp only at h
  split at h
  · cases h
    assumption
  · cases p with
    | none =>
      cases h
      simp
    | some p =>
      dsimp only at h
      cases hcheck : Http.checkProxy p <;> rw [hcheck] at h
      · cases h
      · cases h
        simp

theorem clientProblem?_of_clientFor (h : clientFor clients proxy = .ok clients') :
    clientProblem? clients' proxy = clientProblem? clients proxy := by
  rw [clientProblem?, clientFor_of_contains (contains_of_clientFor h), clientProblem?, h]

theorem exchange_clients (routes : Http.Routes) (url : Text) (request : Http.Request) :
    (exchange routes clients url request).clients = clients := by
  unfold exchange
  dsimp only
  split <;> rfl

theorem exchange_congr (routes : Http.Routes) (url : Text) (request : Http.Request) :
    (exchange routes clients url request).result = (exchange routes clients' url request).result ∧
      (exchange routes clients url request).sent = (exchange routes clients' url request).sent := by
  unfold exchange
  dsimp only
  split <;> exact ⟨rfl, rfl⟩

theorem clientProblem?_fetch (routes : Http.Routes) (method : Text) (request : FetchRequest) :
    clientProblem? (fetch routes method clients request).clients request.proxy =
      clientProblem? clients request.proxy := by
  unfold fetch
  cases checkUrl request.url with
  | error p => rfl
  | ok url =>
    dsimp only
    cases hclient : clientFor clients request.proxy with
    | error p => rfl
    | ok clients' =>
      have hsame := clientProblem?_of_clientFor hclient
      dsimp only
      split
      · exact hsame
      · rw [exchange_clients]
        exact hsame

/-- **A retrieval does not depend on the retrievals before it.** -/
theorem fetch_congr (routes : Http.Routes) (method : Text) (request : FetchRequest)
    (h : clientProblem? clients request.proxy = clientProblem? clients' request.proxy) :
    (fetch routes method clients request).result = (fetch routes method clients' request).result ∧
      (fetch routes method clients request).sent = (fetch routes method clients' request).sent := by
  unfold fetch
  unfold clientProblem? at h
  cases checkUrl request.url with
  | error p => exact ⟨rfl, rfl⟩
  | ok url =>
    dsimp only
    cases hclient : clientFor clients request.proxy <;>
      cases hclient' : clientFor clients' request.proxy <;>
      rw [hclient, hclient'] at h <;> simp only [Option.some.injEq, reduceCtorEq] at h
    · subst h
      exact ⟨rfl, rfl⟩
    · dsimp only
      split
      · exact ⟨rfl, rfl⟩
      · exact exchange_congr routes url _

end LinkHarvest.Retrieval
