import LinkHarvest.Proofs.Store.Listing
import LinkHarvest.Proofs.Time.Written

/-!
# Stored times

A time is stored as the text of its universal time. `stored_times` says that the text is read back
as the same time, that texts of times compare as the times do, whatever their offsets are, and that
configs are therefore listed by the times at which they were seen. The times that a store has taken
lie in the years 1 to 9999 (`Reachable.seen`), which is where texts compare rightly.
-/

namespace LinkHarvest

namespace Timestamp

/-- The microseconds from the beginning of the year 1 to a timestamp, in universal time. -/
def utc (t : Timestamp) : Int := t.dateTime.micros - t.offset.getD 0

/-- A date and time of the years 1 to 9999 that is a timestamp's universal time. -/
structure IsUtc (t : Timestamp) (d : DateTime) : Prop where
  valid : d.problem? = none
  micros : d.micros = t.utc

variable {t : Timestamp} {d : DateTime}

theorem IsUtc.lt_limit (h : t.IsUtc d) : d.micros < Instant.limit :=
  DateTime.micros_lt_end (DateTime.problem?_eq_none.mp h.valid)

theorem IsUtc.instant (h : t.IsUtc d) : Store.instant t = .ok ⟨d.micros⟩ := by
  have hlimit := h.lt_limit
  have hmicros := h.micros
  have hsome : Instant.ofTimestamp? t = some ⟨d.micros⟩ := by
    unfold Instant.ofTimestamp?
    unfold utc at hmicros
    dsimp only
    rw [← hmicros, if_pos ⟨by omega, by omega⟩]
    rfl
  exact Store.instant_of_eq_some hsome

theorem IsUtc.text (h : t.IsUtc d) :
    Instant.text ⟨d.micros⟩ = d.text 'T' ++ "+00:00".toList := by
  rw [Instant.text, DateTime.ofMicros_micros (DateTime.problem?_eq_none.mp h.valid)]

variable {u : Timestamp} {e : DateTime}

theorem IsUtc.text_lt_iff (h : t.IsUtc d) (h' : u.IsUtc e) :
    Instant.text ⟨d.micros⟩ < Instant.text ⟨e.micros⟩ ↔ t.utc < u.utc := by
  have horder := Instant.text_lt_iff (i := ⟨d.micros⟩) (j := ⟨e.micros⟩) h.lt_limit h'.lt_limit
  rw [horder, ← h.micros, ← h'.micros]
  exact Int.ofNat_lt.symm

theorem IsUtc.text_inj (h : t.IsUtc d) (h' : u.IsUtc e) :
    Instant.text ⟨d.micros⟩ = Instant.text ⟨e.micros⟩ ↔ t.utc = u.utc := by
  have hsame := Instant.text_inj (i := ⟨d.micros⟩) (j := ⟨e.micros⟩) h.lt_limit h'.lt_limit
  rw [hsame, ← h.micros, ← h'.micros, Instant.mk.injEq]
  exact Int.ofNat_inj.symm

end Timestamp

namespace Database

variable {db : Database} {vs : List ConfigValues} {p : Instant → Prop}

theorem seen_putAll (h : ∀ c ∈ db.configs, p c.lastSeenAt) (hvalues : ∀ v ∈ vs, p v.lastSeenAt) :
    ∀ c ∈ (db.putAll vs).configs, p c.lastSeenAt := by
  induction vs generalizing db with
  | nil => exact h
  | cons v vs ih =>
    obtain ⟨hv, hrest⟩ := List.forall_mem_cons.mp hvalues
    refine ih (fun c hc => ?_) hrest
    rcases mem_put hc with ⟨e, he, rfl | rfl⟩ | rfl
    · exact h _ he
    · exact hv
    · exact hv

end Database

namespace Store

open Database

variable {s : Store}

theorem Stored.lt_limit {now : Instant} {d : Draft} (h : Stored s now d) :
    (values now d).lastSeenAt.micros < Instant.limit := by
  obtain ⟨i, hi⟩ := h.seen
  have hsome := instant_eq_ok hi
  rw [values, hsome]
  exact Instant.lt_limit_of_ofTimestamp? hsome

theorem Reachable.seen (h : s.Reachable) :
    ∀ c ∈ s.database.configs, c.lastSeenAt.micros < Instant.limit := by
  induction h with
  | new => exact fun c hc => absurd hc List.not_mem_nil
  | surroundings _ _ _ ih => exact ih
  | add _ now url remark agent ih => rwa [add_configs]
  | update _ id c ih => rwa [update_configs]
  | delete _ id ih => exact fun c hc => ih c ((delete_configs id).subset hc)
  | mark _ id fetchedAt ih => rwa [mark_configs]
  | @upsert s _ now drafts ih =>
    rw [upsert_eq]
    cases hrows : s.rowsFor now drafts with
    | error p => exact ih
    | ok rows =>
      obtain ⟨rfl, -, hstored⟩ := rowsFor_eq_ok hrows
      refine seen_putAll (p := fun i => i.micros < Instant.limit) ih
        (List.forall_mem_map.mpr fun d hd => ?_)
      exact (hstored d hd).lt_limit

/-- **Configs are listed by the times at which they were seen**, the latest first. -/
theorem configs_newestFirst (h : s.Reachable) {owner : Option Int} {protocol : Option Text}
    {limit : Option Int} {rows : List Config} (hrows : s.configs owner protocol limit = .ok rows) :
    rows.Pairwise fun a b => b.lastSeenAt.micros ≤ a.lastSeenAt.micros := by
  have hsublist : rows.Sublist (sorted s.database.configs) := by
    rw [configs_eq_ok h hrows]
    exact (cut_sublist limit _).trans List.filter_sublist
  have hseen : ∀ c ∈ sorted s.database.configs, c.lastSeenAt.micros < Instant.limit :=
    fun c hc => h.seen c ((sorted_perm _).mem_iff.mp hc)
  refine (List.Pairwise.imp_of_mem ?_ (sorted_descends h.configNumbers)).sublist hsublist
  intro a b ha hb habove
  rcases habove with hless | ⟨hsame, -⟩
  · exact Nat.le_of_lt ((Instant.text_lt_iff (hseen b hb) (hseen a ha)).mp hless)
  · rw [(Instant.text_inj (hseen a ha) (hseen b hb)).mp hsame]

/-- **Stored times compare as times do.** A timestamp is stored as the text of its universal time,
which is read back as the same time. Of two such texts the one of the earlier time is less, and texts
of one time are the same. So configs are listed by the times at which they were seen. -/
theorem stored_times {t u : Timestamp} {d e : DateTime} (ht : t.IsUtc d) (hu : u.IsUtc e) :
    (∃ i j, instant t = .ok i ∧ instant u = .ok j ∧
      i.text = d.text 'T' ++ "+00:00".toList ∧
      (∃ r, Timestamp.read? i.text = some r ∧ r.offset = some 0 ∧ r.utc = t.utc) ∧
      Instant.read? i.text = some i ∧
      (i.text < j.text ↔ t.utc < u.utc) ∧ (i.text = j.text ↔ t.utc = u.utc)) ∧
    ∀ s : Store, s.Reachable → ∀ owner protocol limit rows,
      s.configs owner protocol limit = .ok rows →
        rows.Pairwise fun a b => b.lastSeenAt.micros ≤ a.lastSeenAt.micros := by
  refine ⟨⟨⟨d.micros⟩, ⟨e.micros⟩, ht.instant, hu.instant, ht.text, ⟨⟨d, some 0⟩, ?_, rfl, ?_⟩,
    Instant.read?_text ht.lt_limit, ht.text_lt_iff hu, ht.text_inj hu⟩,
    fun s h owner protocol limit rows hrows => configs_newestFirst h hrows⟩
  · rw [ht.text]
    exact Timestamp.read?_text (DateTime.problem?_eq_none.mp ht.valid)
  · rw [← ht.micros, Timestamp.utc]
    exact Int.sub_zero _

/-- The last half hour of a year in a zone behind universal time, where the new year has begun, and
a whole second of universal time just before it. -/
theorem stored_times_acrossNewYear :
    let t : Timestamp := ⟨⟨⟨2024, 12, 31⟩, ⟨23, 30, 0, 1⟩⟩, some (-3600000000)⟩
    let u : Timestamp := ⟨⟨⟨2025, 1, 1⟩, ⟨0, 30, 0, 0⟩⟩, none⟩
    t.IsUtc ⟨⟨2025, 1, 1⟩, ⟨0, 30, 0, 1⟩⟩ ∧ u.IsUtc ⟨⟨2025, 1, 1⟩, ⟨0, 30, 0, 0⟩⟩ ∧
      (∃ i j, instant t = .ok i ∧ instant u = .ok j ∧
        i.text = "2025-01-01T00:30:00.000001+00:00".toList ∧ j.text < i.text) ∧
      ∀ rows, twoOwned.configs none none none = .ok rows →
        rows.Pairwise fun a b => b.lastSeenAt.micros ≤ a.lastSeenAt.micros := by
  intro t u
  have ht : t.IsUtc ⟨⟨2025, 1, 1⟩, ⟨0, 30, 0, 1⟩⟩ := ⟨by decide +kernel, by decide +kernel⟩
  have hu : u.IsUtc ⟨⟨2025, 1, 1⟩, ⟨0, 30, 0, 0⟩⟩ := ⟨by decide +kernel, by decide +kernel⟩
  obtain ⟨⟨j, i, hj, hi, -, -, -, horder, -⟩, hlists⟩ := stored_times hu ht
  obtain ⟨⟨i', -, hi', -, htext, -⟩, -⟩ := stored_times ht hu
  cases hi.symm.trans hi'
  refine ⟨ht, hu, ⟨i, j, hi, hj, htext.trans (by decide +kernel), horder.mpr (by decide +kernel)⟩,
    fun rows hrows => hlists _ reachable_twoOwned none none none rows hrows⟩

end Store

end LinkHarvest
