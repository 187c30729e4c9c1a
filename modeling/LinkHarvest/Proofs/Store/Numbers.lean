import LinkHarvest.Proofs.Store.Reachable
import LinkHarvest.Proofs.Store.Sound

/-!
# The numbers of subscriptions

A number is the key of its subscription: subscriptions are listed by ascending numbers, each of
which fits into a column (`Reachable.keyed`). So a store that reads gives every subscription by its
number (`get_of_mem`).
-/

namespace LinkHarvest

/-- The numbers of subscriptions are keys of their table. -/
structure Database.Keyed (db : Database) : Prop where
  ascending : (db.subscriptions.map Subscription.id).Pairwise (· < ·)
  fits : ∀ s ∈ db.subscriptions, Store.fitsColumn s.id = true

namespace Store

open Database

variable {s : Store}

theorem fitsColumn_of_le {n : Int} (h : 0 ≤ n) (h' : n ≤ greatestNumber) : fitsColumn n = true := by
  unfold greatestNumber at h'
  simp only [fitsColumn, Bool.and_eq_true, decide_eq_true_eq]
  omega

theorem Reachable.numbers (h : s.Reachable) :
    0 ≤ s.database.lastSubscription ∧ s.database.lastSubscription ≤ greatestNumber ∧
      ∀ t ∈ s.database.subscriptions, 0 < t.id := by
  induction h with
  | new => simp [ofDatabase, Database.empty, greatestNumber]
  | surroundings _ _ _ ih => exact ih
  | @add s _ now url remark agent ih =>
    obtain ⟨hlow, hhigh, hids⟩ := ih
    rcases s.add_cases now url remark agent with ⟨p, h⟩ | ⟨checked, db, -, -, hleft, -, rfl, h⟩
    · rw [h]
      exact ⟨hlow, hhigh, hids⟩
    · rw [h]
      simp only [inserted, List.mem_append, List.mem_singleton]
      refine ⟨by omega, by omega, ?_⟩
      rintro t (ht | rfl)
      · exact hids t ht
      · show 0 < s.database.lastSubscription + 1
        omega
  | @update s _ id c ih =>
    rcases s.update_cases id c with ⟨p, h⟩ | ⟨url, db, -, -, -, hdb, h⟩
    · rw [h]
      exact ih
    · obtain ⟨-, rfl⟩ := update_eq_ok.mp hdb
      rw [h]
      refine ⟨ih.1, ih.2.1, ?_⟩
      simp only [amended, List.forall_mem_map]
      intro t ht
      split
      · rw [changed_id]
        exact ih.2.2 t ht
      · exact ih.2.2 t ht
  | @delete s _ id ih =>
    rcases s.delete_changes id with h | h
    · rw [h]
      exact ih
    · rw [h]
      exact ⟨ih.1, ih.2.1, fun t ht => ih.2.2 t (List.mem_of_mem_filter ht)⟩
  | @mark s _ id fetchedAt ih =>
    rcases s.mark_changes id fetchedAt with h | ⟨at?, h⟩
    · rw [h]
      exact ih
    · rw [h]
      refine ⟨ih.1, ih.2.1, ?_⟩
      simp only [setFetched, List.forall_mem_map]
      intro t ht
      split <;> exact ih.2.2 t ht
  | @upsert s _ now drafts ih =>
    rcases s.upsert_changes now drafts with h | ⟨rows, -, -, h⟩
    · rw [h]
      exact ih
    · rw [h]
      simpa using ih

/-- **Calls give subscriptions keys.** -/
theorem Reachable.keyed (h : s.Reachable) : s.database.Keyed := by
  have hsound : s.database.Sound := sound_empty.leadsTo h.leadsTo
  obtain ⟨-, hhigh, hids⟩ := h.numbers
  refine ⟨hsound.subscriptionNumbers, ?_⟩
  intro t ht
  have hpositive := hids t ht
  have hbound := hsound.subscriptionBound t ht
  apply fitsColumn_of_le <;> omega

end Store

/-! ## Getting a subscription -/

namespace Database

variable {db : Database} {sub : Subscription}

theorem Keyed.subscription? (h : db.Keyed) (hsub : sub ∈ db.subscriptions) :
    db.subscription? sub.id = some sub := by
  have hsome : (db.subscription? sub.id).isSome = true := by
    simp only [Database.subscription?, List.find?_isSome, decide_eq_true_eq]
    exact ⟨sub, hsub, rfl⟩
  obtain ⟨found, hfound⟩ := Option.isSome_iff_exists.mp hsome
  have hid : found.id = sub.id := by
    have htest := List.find?_some hfound
    simpa using htest
  have hnodup : (db.subscriptions.map Subscription.id).Nodup := h.ascending.imp Int.ne_of_lt
  rw [hfound, List.inj_on_of_nodup_map hnodup (List.mem_of_find?_eq_some hfound) hsub hid]

end Database

theorem Store.get_of_mem {s : Store} {sub : Subscription} (hkeyed : s.database.Keyed)
    (hopen : s.isOpen = true) (hget : s.refusal .get = none)
    (hsub : sub ∈ s.database.subscriptions) : s.get sub.id = .ok sub := by
  have hinteger : checkInteger sub.id = .ok () := if_pos (hkeyed.fits sub hsub)
  have hfound := hkeyed.subscription? hsub
  simp only [get, checkRefusal, checkOpen, hget, hopen, hinteger, hfound, if_true,
    Fallible.ok_bind]
  rfl

end LinkHarvest
