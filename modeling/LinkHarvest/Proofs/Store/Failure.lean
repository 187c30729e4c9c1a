import LinkHarvest.Proofs.Store.Connection
import LinkHarvest.Proofs.Store.Sound

/-!
# Requests that fail

A request that fails changes neither the store nor what is committed on a connection that serves it,
so whatever is asked later is answered as if it had never been made (`failed_request_unmade`). That
an upsert writes all its rows or none is said by `upsert_eq`. It remains to be shown that a call
that reads a row back, after it has committed it, does not fail in doing so.
-/

namespace LinkHarvest

open Fallible Database

namespace Store

variable {s : Store} {p : StoreProblem}

/-- A number that is left for a new subscription fits into its column, so the row can be read. -/
theorem add_failed (h : s.Reachable)
    (hread : ∀ message, s.refusal .get = some message → p ≠ .refused message) {now : Instant}
    {url : Text} {remark agent : Option Text}
    (hfail : (s.add now url remark agent).1 = .error p) :
    (s.add now url remark agent).2 = s := by
  rcases s.add_cases now url remark agent with
    ⟨q, hadd⟩ | ⟨checked, db, -, hopen, hleft, -, hdb, hadd⟩
  · rw [hadd]
  · exfalso
    rw [hadd] at hfail
    cases hrefusal : s.refusal .get with
    | some message =>
      have hrefused :
          { s with database := db }.get db.lastSubscription = .error (.refused message) := by
        simp [get, checkRefusal, hrefusal]
      cases hfail.symm.trans hrefused
      exact hread message hrefusal rfl
    | none =>
      have hlast : 0 ≤ s.database.lastSubscription := h.leadsTo.grows.lastSubscription
      have hinteger : checkInteger db.lastSubscription = .ok () := by
        have hfits : fitsColumn (s.database.lastSubscription + 1) = true := by
          unfold greatestNumber at hleft
          simp only [fitsColumn, Bool.and_eq_true, decide_eq_true_eq]
          omega
        rw [hdb]
        exact if_pos hfits
      obtain ⟨found, hfound⟩ : ∃ found, db.subscription? db.lastSubscription = some found := by
        apply Option.isSome_iff_exists.mp
        rw [isSome_subscription?, hdb]
        simp [inserted]
      have hget := get_eq_ok (s := { s with database := db }).mpr
        ⟨hrefusal, hopen, hinteger, hfound⟩
      cases hfail.symm.trans hget

/-- An update has read the row that it changes before. -/
theorem update_failed {id : Int} {c : Changes} (hfail : (s.update id c).1 = .error p) :
    (s.update id c).2 = s := by
  rcases s.update_cases id c with ⟨q, hupdate⟩ | ⟨url, db, -, -, ⟨found, hfound⟩, hdb, hupdate⟩
  · rw [hupdate]
  · exfalso
    rw [hupdate] at hfail
    obtain ⟨hrefusal, hopen, hinteger, hthere⟩ := get_eq_ok.mp hfound
    obtain ⟨changed, hchanged⟩ : ∃ changed, db.subscription? id = some changed := by
      apply Option.isSome_iff_exists.mp
      rw [isSome_subscription?, (update_eq_ok.mp hdb).2, ids_amended, ← isSome_subscription?, hthere]
      rfl
    have hget := get_eq_ok (s := { s with database := db }).mpr
      ⟨hrefusal, hopen, hinteger, hchanged⟩
    cases hfail.symm.trans hget

theorem delete_failed {id : Int} (hfail : (s.delete id).1 = .error p) : (s.delete id).2 = s := by
  unfold delete at hfail ⊢
  dsimp only at hfail ⊢
  split at hfail
  · rfl
  · cases hfail

theorem mark_failed {id : Int} {fetchedAt : Option Timestamp}
    (hfail : (s.mark id fetchedAt).1 = .error p) : (s.mark id fetchedAt).2 = s := by
  rw [mark_eq] at hfail ⊢
  cases hstamp : s.stampFor id fetchedAt with
  | error q => rfl
  | ok at? =>
    rw [hstamp] at hfail
    cases hfail

theorem upsert_failed {now : Instant} {drafts : List Draft}
    (hfail : (s.upsert now drafts).1 = .error p) : (s.upsert now drafts).2 = s := by
  rw [upsert_eq] at hfail ⊢
  cases hrows : s.rowsFor now drafts with
  | error q => rfl
  | ok rows =>
    rw [hrows] at hfail
    cases hfail

theorem perform_failed (h : s.Reachable) {r : Request}
    (hread : ∀ message, s.refusal .get = some message → p ≠ .refused message)
    (hfail : (s.perform r).1 = .error p) : (s.perform r).2 = s := by
  cases r with
  | add now url remark agent => exact add_failed h hread (map_eq_error.mp hfail)
  | update id c => exact update_failed (map_eq_error.mp hfail)
  | delete id => exact delete_failed (map_eq_error.mp hfail)
  | mark id fetchedAt => exact mark_failed (map_eq_error.mp hfail)
  | upsert now drafts => exact upsert_failed (map_eq_error.mp hfail)
  | close => cases hfail
  | list | get | configs | config | count => rfl

end Store

/-- **A request that fails might as well not have been made.** The one failure that is left out is
that the surroundings refuse to read: what was added and committed cannot be read back then. -/
theorem failed_request_unmade {s : Store} {c : Connection} {r : Request} {p : StoreProblem}
    (h : s.Reachable) (hserves : c.Serves s)
    (hread : ∀ message, s.refusal .get = some message → p ≠ .refused message)
    (hfail : (c.perform r).1 = .error p) :
    (s.perform r).1 = .error p ∧ (s.perform r).2 = s ∧
      (c.perform r).2.committed = c.committed ∧
      ∀ later, (c.perform r).2.answers later = c.answers later ∧
        c.answers later = s.answers later := by
  obtain ⟨hanswer, hleft⟩ := hserves.perform r
  have hfailed : (s.perform r).1 = .error p := hanswer ▸ hfail
  have hsame : (s.perform r).2 = s := Store.perform_failed h hread hfailed
  rw [hsame] at hleft
  refine ⟨hfailed, hsame, hleft.committed.trans hserves.committed.symm, fun later => ?_⟩
  exact ⟨(hleft.answers later).trans (hserves.answers later).symm, hserves.answers later⟩

def addedOnce : Store := ((Store.ofDatabase .empty).add ⟨63839750400000000⟩ "http://a/" none none).2

def addAgain : Request := .add ⟨63839750400000000⟩ "http://a/" none none

/-- A batch with a row for the subscription, and one for an owner that no column can hold. -/
def tooLargeOwner : Request :=
  .upsert ⟨63839750400000000⟩
    [⟨some 1, some "a".toList, none, none, none, none⟩,
      ⟨some 9223372036854775808, some "b".toList, none, none, none, none⟩]

/-- Adding a subscription again leaves a transaction open, in which the batch then fails at its
second row. -/
theorem tooLargeOwner_unmade :
    let c := (addedOnce.connection.perform addAgain).2
    c.pending ≠ none ∧ (c.perform tooLargeOwner).1 = .error .integerTooLarge ∧
      ∀ later, (c.perform tooLargeOwner).2.answers later = c.answers later := by
  have hreachable : addedOnce.Reachable := .add .new ..
  have hunrefused : ∀ (p : StoreProblem) (message : Text),
      addedOnce.refusal .get = some message → p ≠ .refused message := by
    intro p message hmessage
    cases hmessage
  have hagain : (addedOnce.perform addAgain).2 = addedOnce :=
    Store.perform_failed (p := .duplicateUrl "http://a/") hreachable (hunrefused _)
      (by decide +kernel)
  have hserves : (addedOnce.connection.perform addAgain).2.Serves addedOnce :=
    hagain ▸ (addedOnce.serves_connection.perform addAgain).serves
  have hfail : ((addedOnce.connection.perform addAgain).2.perform tooLargeOwner).1 =
      .error .integerTooLarge := by decide +kernel
  have hunmade := failed_request_unmade hreachable hserves (hunrefused _) hfail
  exact ⟨by decide +kernel, hfail, fun later => (hunmade.2.2.2 later).1⟩

end LinkHarvest
