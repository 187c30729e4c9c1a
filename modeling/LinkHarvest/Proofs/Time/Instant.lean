import LinkHarvest.Time.Instant

/-!
# Instants and their timestamps

The timestamp of an instant is read back as that instant (`ofTimestamp?_timestamp`). The search for
a year and a month only has to find one that starts no later than the day; that it finds the latest
one plays no part.
-/

namespace LinkHarvest

theorem Calendar.start_latest_le {start : Nat → Nat} {n : Nat} (h : start 1 ≤ n) (k : Nat) :
    start (latest start n k) ≤ n := by
  induction k with
  | zero => exact h
  | succ k ih =>
    rw [latest]
    split
    · assumption
    · exact ih

theorem Date.dayNumber_ofDayNumber (n : Nat) : (Date.ofDayNumber n).dayNumber = n := by
  unfold ofDayNumber dayNumber
  have hyear :
      Calendar.daysBeforeYear (Calendar.latest Calendar.daysBeforeYear n (n / 365 + 1)) ≤ n :=
    Calendar.start_latest_le (by simp [Calendar.daysBeforeYear]) _
  generalize Calendar.latest Calendar.daysBeforeYear n (n / 365 + 1) = year at hyear ⊢
  have hmonth : Calendar.daysBeforeMonth year (Calendar.latest (Calendar.daysBeforeMonth year)
      (n - Calendar.daysBeforeYear year) 12) ≤ n - Calendar.daysBeforeYear year :=
    Calendar.start_latest_le (Nat.zero_le _) 12
  dsimp only
  omega

theorem TimeOfDay.micros_ofMicros (n : Nat) : (TimeOfDay.ofMicros n).micros = n := by
  simp only [ofMicros, micros]
  omega

theorem DateTime.micros_ofMicros (n : Nat) : (DateTime.ofMicros n).micros = n := by
  rw [ofMicros, micros, Date.dayNumber_ofDayNumber, TimeOfDay.micros_ofMicros]
  exact Nat.div_add_mod' n microsPerDay

/-- The timestamp of an instant of the years 1 to 9999 stands for it; that of a later one is
out of range. -/
theorem Instant.ofTimestamp?_timestamp (i : Instant) :
    Instant.ofTimestamp? i.timestamp = if i.micros < Instant.limit then some i else none := by
  have hmicros : ((DateTime.ofMicros i.micros).micros : Int) - (some (0 : Int)).getD 0 =
      i.micros := by
    rw [DateTime.micros_ofMicros]
    simp
  unfold ofTimestamp? timestamp
  dsimp only
  rw [hmicros]
  by_cases h : i.micros < Instant.limit
  · rw [if_pos h, if_pos ⟨by omega, by omega⟩]
    rfl
  · rw [if_neg h, if_neg (by omega)]

theorem Instant.lt_limit_of_ofTimestamp? {t : Timestamp} {i : Instant}
    (h : Instant.ofTimestamp? t = some i) : i.micros < Instant.limit := by
  unfold ofTimestamp? at h
  dsimp only at h
  split at h
  · cases h
    dsimp only
    omega
  · cases h

theorem Instant.eq_of_ofTimestamp?_timestamp {i i' : Instant}
    (h : Instant.ofTimestamp? i.timestamp = some i') : i' = i := by
  rw [ofTimestamp?_timestamp] at h
  split at h
  · exact (Option.some.inj h).symm
  · cases h

end LinkHarvest
