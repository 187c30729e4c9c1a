import LinkHarvest.Proofs.Time.Instant
import Mathlib.Tactic.SplitIfs

/-!
# Days in order

Years and months begin one after the other, so that a date comes before another exactly when it has
fewer days before it (`Date.dayNumber_lt_iff`), and times of day compare likewise. With this, the
date that is found for a number of days is a date of the years 1 to 9999
(`Date.valid_ofDayNumber`), and a date and time is found back from its microseconds
(`DateTime.ofMicros_micros`).
-/

namespace LinkHarvest

namespace Calendar

/-! ## Years and months -/

theorem daysBeforeMonth_end (year : Nat) :
    daysBeforeMonth year 13 = if isLeap year then 366 else 365 := by
  simp only [daysBeforeMonth, daysInMonth]
  split <;> rfl

theorem daysBeforeYear_succ {year : Nat} (h : 1 ≤ year) :
    daysBeforeYear (year + 1) = daysBeforeYear year + daysBeforeMonth year 13 := by
  obtain ⟨p, rfl⟩ : ∃ p, year = p + 1 := ⟨year - 1, by omega⟩
  have hfour : (p + 1) / 4 = p / 4 + if (p + 1) % 4 = 0 then 1 else 0 := by split <;> omega
  have hcentury : (p + 1) / 100 = p / 100 + if (p + 1) % 100 = 0 then 1 else 0 := by
    split <;> omega
  have hera : (p + 1) / 400 = p / 400 + if (p + 1) % 400 = 0 then 1 else 0 := by split <;> omega
  have hfewer : p / 100 ≤ p / 4 := Nat.div_le_div_left (by decide) (by decide)
  have hleap : isLeap (p + 1) = true ↔
      (p + 1) % 4 = 0 ∧ ((p + 1) % 100 ≠ 0 ∨ (p + 1) % 400 = 0) := by
    simp [isLeap]
  have hcenturies : (p + 1) % 100 = 0 → (p + 1) % 4 = 0 := by omega
  have heras : (p + 1) % 400 = 0 → (p + 1) % 100 = 0 := by omega
  rw [daysBeforeMonth_end, daysBeforeYear, daysBeforeYear, Nat.add_sub_cancel, Nat.add_sub_cancel,
    hfour, hcentury, hera]
  simp only [hleap]
  clear hfour hcentury hera hleap
  generalize p / 4 = fours at hfewer ⊢
  generalize p / 100 = centuries at hfewer ⊢
  split_ifs <;> omega

theorem daysBeforeYear_le {year later : Nat} (h : 1 ≤ year) (hlater : year < later) :
    daysBeforeYear year + daysBeforeMonth year 13 ≤ daysBeforeYear later := by
  induction later with
  | zero => omega
  | succ later ih =>
    rcases Nat.lt_or_eq_of_le (Nat.lt_succ_iff.mp hlater) with hlt | rfl
    · have hstep := daysBeforeYear_succ (show 1 ≤ later by omega)
      have hbefore := ih hlt
      omega
    · exact Nat.le_of_eq (daysBeforeYear_succ h).symm

theorem daysBeforeMonth_succ (year : Nat) {month : Nat} (h : 1 ≤ month) :
    daysBeforeMonth year (month + 1) = daysBeforeMonth year month + daysInMonth year month := by
  cases month with
  | zero => cases h
  | succ month => rfl

theorem daysBeforeMonth_le (year : Nat) {month later : Nat} (h : 1 ≤ month)
    (hlater : month < later) :
    daysBeforeMonth year month + daysInMonth year month ≤ daysBeforeMonth year later := by
  induction later with
  | zero => omega
  | succ later ih =>
    rcases Nat.lt_or_eq_of_le (Nat.lt_succ_iff.mp hlater) with hlt | rfl
    · have hstep := daysBeforeMonth_succ year (show 1 ≤ later by omega)
      have hbefore := ih hlt
      omega
    · exact Nat.le_of_eq (daysBeforeMonth_succ year h).symm

/-! ## Searching -/

variable {start : Nat → Nat} {n k : Nat}

theorem one_le_latest (start : Nat → Nat) (n k : Nat) : 1 ≤ latest start n k := by
  induction k with
  | zero => exact Nat.le_refl 1
  | succ k ih =>
    rw [latest]
    split
    · omega
    · exact ih

theorem latest_le (start : Nat → Nat) (n k : Nat) : latest start n (k + 1) ≤ k + 1 := by
  induction k with
  | zero =>
    rw [latest]
    split <;> exact Nat.le_refl 1
  | succ k ih =>
    rw [latest]
    split <;> omega

theorem lt_start_of_latest_lt {m : Nat} (h : latest start n k < m) (hm : m ≤ k) : n < start m := by
  induction k with
  | zero => omega
  | succ k ih =>
    rw [latest] at h
    split at h
    · omega
    · rename_i hlate
      rcases Nat.lt_or_eq_of_le hm with hlt | rfl
      · exact ih h (by omega)
      · omega

end Calendar

open Calendar

/-! ## Dates -/

namespace Date

/-- A date of the years 1 to 9999. -/
structure Valid (d : Date) : Prop where
  year : 1 ≤ d.year ∧ d.year ≤ 9999
  month : 1 ≤ d.month ∧ d.month ≤ 12
  day : 1 ≤ d.day ∧ d.day ≤ daysInMonth d.year d.month

theorem problem?_eq_none {d : Date} : d.problem? = none ↔ d.Valid := by
  unfold problem?
  split_ifs with hyear hmonth hday
  · exact iff_of_false nofun fun h => by have hvalid := h.year; omega
  · exact iff_of_false nofun fun h => by have hvalid := h.month; omega
  · exact iff_of_false nofun fun h => by have hvalid := h.day; omega
  · exact iff_of_true rfl ⟨by omega, by omega, by omega⟩

/-- Whether one date comes before another: by the year, then the month, then the day. -/
def Before (d e : Date) : Prop :=
  d.year < e.year ∨ d.year = e.year ∧
    (d.month < e.month ∨ d.month = e.month ∧ d.day < e.day)

theorem before_or_eq_or_before (d e : Date) : d.Before e ∨ d = e ∨ e.Before d := by
  obtain ⟨year, month, day⟩ := d
  obtain ⟨year', month', day'⟩ := e
  simp only [Before, mk.injEq]
  omega

variable {d e : Date}

theorem Valid.lt_end (h : d.Valid) :
    daysBeforeMonth d.year d.month + (d.day - 1) < daysBeforeMonth d.year 13 := by
  have hmonth : daysBeforeMonth d.year d.month + daysInMonth d.year d.month ≤
      daysBeforeMonth d.year 13 :=
    daysBeforeMonth_le d.year h.month.1 (Nat.lt_succ_of_le h.month.2)
  have hday := h.day
  omega

theorem dayNumber_lt (hd : d.Valid) (he : e.Valid) (h : d.Before e) :
    d.dayNumber < e.dayNumber := by
  obtain ⟨year, month, day⟩ := d
  obtain ⟨year', month', day'⟩ := e
  have hday := hd.day
  have hday' := he.day
  unfold dayNumber
  dsimp only at hday hday' ⊢
  rcases h with hyear | ⟨hyear, hmonth | ⟨hmonth, hless⟩⟩
  · have hlast := hd.lt_end
    have hyears := daysBeforeYear_le hd.year.1 hyear
    dsimp only at hlast hyears
    omega
  · dsimp only at hyear hmonth
    subst hyear
    have hmonths := daysBeforeMonth_le year hd.month.1 hmonth
    dsimp only at hmonths
    omega
  · dsimp only at hyear hmonth hless
    subst hyear hmonth
    omega

/-- **Dates compare as the numbers of days before them.** -/
theorem dayNumber_lt_iff (hd : d.Valid) (he : e.Valid) :
    d.dayNumber < e.dayNumber ↔ d.Before e := by
  refine ⟨fun h => ?_, dayNumber_lt hd he⟩
  rcases before_or_eq_or_before d e with hbefore | rfl | hafter
  · exact hbefore
  · exact absurd h (Nat.lt_irrefl _)
  · exact absurd h (Nat.lt_asymm (dayNumber_lt he hd hafter))

theorem eq_of_dayNumber (hd : d.Valid) (he : e.Valid) (h : d.dayNumber = e.dayNumber) : d = e := by
  rcases before_or_eq_or_before d e with hbefore | rfl | hafter
  · exact absurd h (Nat.ne_of_lt (dayNumber_lt hd he hbefore))
  · rfl
  · exact absurd h (Nat.ne_of_gt (dayNumber_lt he hd hafter))

theorem daysBeforeYear_end : daysBeforeYear 10000 = 3652059 := rfl

theorem dayNumber_lt_end (h : d.Valid) : d.dayNumber < 3652059 := by
  have hlast := h.lt_end
  have hyears : daysBeforeYear d.year + daysBeforeMonth d.year 13 ≤ daysBeforeYear 10000 :=
    daysBeforeYear_le h.year.1 (Nat.lt_succ_of_le h.year.2)
  rw [daysBeforeYear_end] at hyears
  unfold dayNumber
  omega

theorem lt_daysBeforeYear_succ (n : Nat) :
    n < daysBeforeYear (latest daysBeforeYear n (n / 365 + 1) + 1) := by
  rcases Nat.lt_or_ge (latest daysBeforeYear n (n / 365 + 1)) (n / 365 + 1) with hlt | hge
  · exact lt_start_of_latest_lt (Nat.lt_succ_self _) hlt
  -- the search goes up to a year after which the day lies in any case
  · have hdays : ∀ years, years * 365 ≤ daysBeforeYear (years + 1) := by
      intro years
      have hfewer : years / 100 ≤ years / 4 := Nat.div_le_div_left (by decide) (by decide)
      rw [daysBeforeYear, Nat.add_sub_cancel]
      omega
    have hyears := hdays (latest daysBeforeYear n (n / 365 + 1))
    omega

/-- **The date found for a number of days is a date of the years 1 to 9999.** -/
theorem valid_ofDayNumber {n : Nat} (h : n < 3652059) : (ofDayNumber n).Valid := by
  have hone := one_le_latest daysBeforeYear n (n / 365 + 1)
  have hyear : daysBeforeYear (latest daysBeforeYear n (n / 365 + 1)) ≤ n :=
    start_latest_le (by simp [daysBeforeYear]) _
  have hnext := lt_daysBeforeYear_succ n
  unfold ofDayNumber
  dsimp only
  generalize latest daysBeforeYear n (n / 365 + 1) = year at hone hyear hnext ⊢
  rw [daysBeforeYear_succ hone] at hnext
  have hlast : year ≤ 9999 := by
    apply Nat.le_of_not_lt
    intro hlater
    rcases Nat.lt_or_eq_of_le hlater with hbeyond | hsame
    · have hyears := daysBeforeYear_le (by decide) hbeyond
      rw [daysBeforeYear_end] at hyears
      omega
    · rw [← hsame, daysBeforeYear_end] at hyear
      omega
  have hmonth : daysBeforeMonth year
      (latest (daysBeforeMonth year) (n - daysBeforeYear year) 12) ≤ n - daysBeforeYear year :=
    start_latest_le (Nat.zero_le _) 12
  have honeMonth := one_le_latest (daysBeforeMonth year) (n - daysBeforeYear year) 12
  have hlastMonth := latest_le (daysBeforeMonth year) (n - daysBeforeYear year) 11
  have hnextMonth : n - daysBeforeYear year < daysBeforeMonth year
      (latest (daysBeforeMonth year) (n - daysBeforeYear year) 12 + 1) := by
    rcases Nat.lt_or_eq_of_le hlastMonth with hlt | heq
    · exact lt_start_of_latest_lt (Nat.lt_succ_self _) hlt
    · rw [heq]
      show n - daysBeforeYear year < daysBeforeMonth year 13
      omega
  generalize latest (daysBeforeMonth year) (n - daysBeforeYear year) 12 = month
    at hmonth honeMonth hlastMonth hnextMonth ⊢
  rw [daysBeforeMonth_succ year honeMonth] at hnextMonth
  exact ⟨⟨hone, hlast⟩, ⟨honeMonth, hlastMonth⟩, by dsimp only; omega⟩

end Date

/-! ## Times of day -/

namespace TimeOfDay

/-- A time of day that clocks show. -/
structure Valid (t : TimeOfDay) : Prop where
  hour : t.hour ≤ 23
  minute : t.minute ≤ 59
  second : t.second ≤ 59
  micro : t.micro ≤ 999999

theorem problem?_eq_none {t : TimeOfDay} : t.problem? = none ↔ t.Valid := by
  unfold problem?
  split_ifs with hhour hminute hsecond hmicro
  · exact iff_of_false nofun fun h => by have hvalid := h.hour; omega
  · exact iff_of_false nofun fun h => by have hvalid := h.minute; omega
  · exact iff_of_false nofun fun h => by have hvalid := h.second; omega
  · exact iff_of_false nofun fun h => by have hvalid := h.micro; omega
  · exact iff_of_true rfl ⟨by omega, by omega, by omega, by omega⟩

/-- Whether one time comes before another: by the hour, then the minute, then the second, then the
microsecond. -/
def Before (t u : TimeOfDay) : Prop :=
  t.hour < u.hour ∨ t.hour = u.hour ∧ (t.minute < u.minute ∨ t.minute = u.minute ∧
    (t.second < u.second ∨ t.second = u.second ∧ t.micro < u.micro))

variable {t u : TimeOfDay}

/-- **Times of day compare as the microseconds since midnight.** -/
theorem micros_lt_iff (ht : t.Valid) (hu : u.Valid) : t.micros < u.micros ↔ t.Before u := by
  obtain ⟨hhour, hminute, hsecond, hmicro⟩ := ht
  obtain ⟨hhour', hminute', hsecond', hmicro'⟩ := hu
  unfold micros Before
  omega

theorem eq_of_micros (ht : t.Valid) (hu : u.Valid) (h : t.micros = u.micros) : t = u := by
  obtain ⟨hour, minute, second, micro⟩ := t
  obtain ⟨hour', minute', second', micro'⟩ := u
  obtain ⟨hhour, hminute, hsecond, hmicro⟩ := ht
  obtain ⟨hhour', hminute', hsecond', hmicro'⟩ := hu
  simp only [micros, mk.injEq] at *
  omega

theorem micros_lt_day (h : t.Valid) : t.micros < DateTime.microsPerDay := by
  obtain ⟨hhour, hminute, hsecond, hmicro⟩ := h
  unfold micros DateTime.microsPerDay
  omega

theorem valid_ofMicros {n : Nat} (h : n < DateTime.microsPerDay) : (ofMicros n).Valid := by
  unfold DateTime.microsPerDay at h
  unfold ofMicros
  constructor <;> dsimp only <;> omega

end TimeOfDay

/-! ## Dates and times -/

namespace DateTime

/-- A date and time of the years 1 to 9999. -/
structure Valid (t : DateTime) : Prop where
  date : t.date.Valid
  time : t.time.Valid

variable {t u : DateTime}

theorem problem?_eq_none : t.problem? = none ↔ t.Valid := by
  unfold problem?
  cases hdate : t.date.problem? with
  | none =>
    have hvalid := Date.problem?_eq_none.mp hdate
    exact ⟨fun h => ⟨hvalid, TimeOfDay.problem?_eq_none.mp h⟩,
      fun h => TimeOfDay.problem?_eq_none.mpr h.time⟩
  | some reason =>
    refine iff_of_false nofun fun h => ?_
    rw [Date.problem?_eq_none.mpr h.date] at hdate
    cases hdate

/-- **Dates and times compare by the date and then by the time.** -/
theorem micros_lt_iff (ht : t.Valid) (hu : u.Valid) :
    t.micros < u.micros ↔ t.date.Before u.date ∨ t.date = u.date ∧ t.time.Before u.time := by
  have htime := TimeOfDay.micros_lt_day ht.time
  have htime' := TimeOfDay.micros_lt_day hu.time
  rw [← Date.dayNumber_lt_iff ht.date hu.date, ← TimeOfDay.micros_lt_iff ht.time hu.time]
  unfold micros
  unfold microsPerDay at *
  constructor
  · intro h
    rcases Nat.lt_or_ge t.date.dayNumber u.date.dayNumber with hday | hday
    · exact .inl hday
    · have hsame : t.date.dayNumber = u.date.dayNumber := by omega
      exact .inr ⟨Date.eq_of_dayNumber ht.date hu.date hsame, by omega⟩
  · rintro (hday | ⟨hdate, hless⟩)
    · omega
    · rw [hdate]
      omega

theorem eq_of_micros (ht : t.Valid) (hu : u.Valid) (h : t.micros = u.micros) : t = u := by
  have htime := TimeOfDay.micros_lt_day ht.time
  have htime' := TimeOfDay.micros_lt_day hu.time
  unfold micros at h
  unfold microsPerDay at h htime htime'
  have hdate := Date.eq_of_dayNumber ht.date hu.date (by omega)
  have htimes := TimeOfDay.eq_of_micros ht.time hu.time (by omega)
  obtain ⟨date, time⟩ := t
  cases hdate
  cases htimes
  rfl

theorem valid_ofMicros {n : Nat} (h : n < 3652059 * microsPerDay) : (ofMicros n).Valid :=
  ⟨Date.valid_ofDayNumber (Nat.div_lt_of_lt_mul (by rwa [Nat.mul_comm])),
    TimeOfDay.valid_ofMicros (Nat.mod_lt _ (by decide))⟩

theorem micros_lt_end (h : t.Valid) : t.micros < 3652059 * microsPerDay := by
  have hdate := Date.dayNumber_lt_end h.date
  have htime := TimeOfDay.micros_lt_day h.time
  unfold micros
  unfold microsPerDay at *
  omega

/-- **A date and time is found back from its microseconds.** -/
theorem ofMicros_micros (h : t.Valid) : ofMicros t.micros = t :=
  eq_of_micros (valid_ofMicros (micros_lt_end h)) h (micros_ofMicros t.micros)

end DateTime

end LinkHarvest
