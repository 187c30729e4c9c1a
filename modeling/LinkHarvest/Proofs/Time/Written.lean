import LinkHarvest.Proofs.Number.Padded
import LinkHarvest.Proofs.Time.Calendar

/-!
# Instants as texts

The text of an instant of the years 1 to 9999 is read back as this instant (`Instant.read?_text`),
and texts compare as their instants do (`Instant.text_lt_iff`). All parts of a text have a fixed
width but for the fraction, which is left out when it is zero. The offset that follows starts with
a plus sign, which comes before the point of a fraction, so that a whole second comes before its
fractions.
-/

namespace LinkHarvest

open Text

/-! ## Comparing -/

theorem Date.Valid.width {d : Date} (h : d.Valid) :
    d.year < 10 ^ 4 ∧ d.month < 10 ^ 2 ∧ d.day < 10 ^ 2 := by
  have hyear := h.year
  have hmonth := h.month
  have hday := h.day
  have hdays : Calendar.daysInMonth d.year d.month ≤ 31 := by
    unfold Calendar.daysInMonth
    split
    · split <;> decide
    all_goals decide
  omega

theorem TimeOfDay.Valid.width {t : TimeOfDay} (h : t.Valid) :
    t.hour < 10 ^ 2 ∧ t.minute < 10 ^ 2 ∧ t.second < 10 ^ 2 ∧ t.micro < 10 ^ 6 := by
  obtain ⟨hhour, hminute, hsecond, hmicro⟩ := h
  omega

theorem Date.text_append_lt {d e : Date} (hd : d.Valid) (he : e.Valid) {x y : Text} :
    d.text ++ x < e.text ++ y ↔ d.Before e ∨ d = e ∧ x < y := by
  obtain ⟨hyear, hmonth, hday⟩ := hd.width
  obtain ⟨hyear', hmonth', hday'⟩ := he.width
  obtain ⟨year, month, day⟩ := d
  obtain ⟨year', month', day'⟩ := e
  simp only [text, Before, mk.injEq, List.append_assoc, List.cons_append, List.nil_append]
  rw [padded_append_lt (by decide) hyear hyear', List.cons_lt_cons_iff,
    padded_append_lt (by decide) hmonth hmonth', List.cons_lt_cons_iff,
    padded_append_lt (by decide) hday hday']
  simp only [Char.lt_irrefl, false_or, true_and, and_or_left, or_assoc, and_assoc]

theorem fraction_lt {m n : Nat} (hm : m < 10 ^ 6) (hn : n < 10 ^ 6) (zone : Text) :
    (if m = 0 then [] else '.' :: padded 6 m) ++ '+' :: zone <
      (if n = 0 then [] else '.' :: padded 6 n) ++ '+' :: zone ↔ m < n := by
  have hsign : '+' < '.' := by decide
  by_cases hzero : m = 0 <;> by_cases hzero' : n = 0
  · rw [if_pos hzero, if_pos hzero', hzero, hzero']
    exact iff_of_false (List.lt_irrefl _) (Nat.lt_irrefl _)
  · rw [if_pos hzero, if_neg hzero', List.nil_append, List.cons_append, List.cons_lt_cons_iff]
    exact iff_of_true (.inl hsign) (by omega)
  · rw [if_neg hzero, if_pos hzero', List.nil_append, List.cons_append, List.cons_lt_cons_iff]
    refine iff_of_false ?_ (by omega)
    rintro (hless | ⟨hsame, -⟩)
    · exact absurd hless (by decide)
    · cases hsame
  · rw [if_neg hzero, if_neg hzero', List.cons_append, List.cons_append, List.cons_lt_cons_iff,
      padded_append_lt (by decide) hm hn]
    constructor
    · rintro (hless | ⟨-, hless | ⟨-, hless⟩⟩)
      · exact absurd hless (by decide)
      · exact hless
      · exact absurd hless (List.lt_irrefl _)
    · exact fun hless => .inr ⟨rfl, .inl hless⟩

theorem TimeOfDay.text_append_lt {t u : TimeOfDay} (ht : t.Valid) (hu : u.Valid) (zone : Text) :
    t.text ++ '+' :: zone < u.text ++ '+' :: zone ↔ t.Before u := by
  obtain ⟨hhour, hminute, hsecond, hmicro⟩ := ht.width
  obtain ⟨hhour', hminute', hsecond', hmicro'⟩ := hu.width
  simp only [text, List.append_assoc, List.cons_append, List.nil_append]
  rw [padded_append_lt (by decide) hhour hhour', List.cons_lt_cons_iff,
    padded_append_lt (by decide) hminute hminute', List.cons_lt_cons_iff,
    padded_append_lt (by decide) hsecond hsecond', fraction_lt hmicro hmicro']
  simp [Before]

/-! ## Reading -/

theorem Timestamp.digits?_padded (width : Nat) {n : Nat} (hwidth : 0 < width)
    (h : n < 10 ^ width) (rest : Text) : digits? width (padded width n ++ rest) = some (n, rest) := by
  have hlength := length_padded hwidth h
  have henough : ¬ (padded width n ++ rest).length < width := by
    rw [List.length_append]
    omega
  rw [digits?, if_neg henough, List.take_left' hlength, List.drop_left' hlength,
    mapM_digit? fun _ => isDigit_padded]
  show some (ofDigits 10 _, rest) = _
  rw [ofDigits_map, ofDigitChars_padded]

theorem Timestamp.fraction_written {n : Nat} (h : n < 10 ^ 6) (zone : Text) :
    fraction ((if n = 0 then [] else '.' :: padded 6 n) ++ '+' :: zone) = (n, '+' :: zone) := by
  have hsign : ¬ '+'.isDigit = true := by decide
  have hlength : (padded 6 n).length = 6 := length_padded (by decide) h
  split
  · subst n
    rfl
  · have htake : (padded 6 n ++ '+' :: zone).takeWhile Char.isDigit = padded 6 n := by
      rw [List.takeWhile_append_of_pos fun _ => isDigit_padded, List.takeWhile_cons_of_neg hsign,
        List.append_nil]
    have hdrop : (padded 6 n ++ '+' :: zone).dropWhile Char.isDigit = '+' :: zone := by
      rw [List.dropWhile_append_of_pos fun _ => isDigit_padded, List.dropWhile_cons_of_neg hsign]
    rw [List.cons_append, fraction, htake, hdrop, List.take_left' hlength,
      filterMap_digit? fun _ => isDigit_padded, ofDigits_map, ofDigitChars_padded]

theorem Timestamp.bind_digits?_padded {width n : Nat} (hwidth : 0 < width) (h : n < 10 ^ width)
    (rest : Text) (f : Nat × Text → Option Timestamp) :
    (digits? width (padded width n ++ rest)).bind f = f (n, rest) := by
  rw [digits?_padded width hwidth h, Option.bind_some]

theorem Timestamp.bind_mark?_padded (c : Char) {n : Nat} (h : n < 10 ^ 2) (rest : Text)
    (f : Nat × Text → Option Timestamp) :
    ((mark? c (c :: (padded 2 n ++ rest))).bind fun t => (digits? 2 t).bind f) = f (n, rest) := by
  rw [mark?, if_pos rfl, Option.bind_some, bind_digits?_padded (by decide) h]

theorem Timestamp.read?_text {t : DateTime} (h : t.Valid) :
    read? (t.text 'T' ++ "+00:00".toList) = some ⟨t, some 0⟩ := by
  have hzone : "+00:00".toList = '+' :: "00:00".toList := rfl
  have hoffset : offset? ('+' :: "00:00".toList) = some (some 0) := rfl
  have hproblem : t.problem?.isNone = true := by
    rw [DateTime.problem?_eq_none.mpr h]
    rfl
  obtain ⟨hyear, hmonth, hday⟩ := h.date.width
  obtain ⟨hhour, hminute, hsecond, hmicro⟩ := h.time.width
  rw [hzone]
  simp only [DateTime.text, Date.text, TimeOfDay.text, List.append_assoc, List.cons_append,
    List.nil_append]
  unfold read?
  rw [Option.bind_eq_bind, Option.bind_eq_bind, Option.bind_eq_bind, Option.bind_eq_bind]
  -- the parts are read one after the other, each with the rest of the text behind it
  rw [bind_digits?_padded (by decide) hyear]
  dsimp only
  rw [bind_mark?_padded '-' hmonth]
  dsimp only
  rw [bind_mark?_padded '-' hday]
  dsimp only
  rw [List.drop_succ_cons, List.drop_zero, bind_digits?_padded (by decide) hhour]
  dsimp only
  rw [bind_mark?_padded ':' hminute]
  dsimp only
  rw [bind_mark?_padded ':' hsecond]
  dsimp only
  rw [fraction_written hmicro, hoffset, Option.bind_some]
  dsimp only
  rw [guard, if_pos hproblem]
  rfl

/-- **The text of an instant is read back as this instant.** -/
theorem Instant.read?_text {i : Instant} (h : i.micros < limit) : read? i.text = some i := by
  have hvalid : (DateTime.ofMicros i.micros).Valid := DateTime.valid_ofMicros h
  have hread : Timestamp.read? i.text = some i.timestamp := Timestamp.read?_text hvalid
  rw [read?, hread, Option.bind_some, ofTimestamp?_timestamp, if_pos h]

/-- **Texts of instants compare as the instants do.** -/
theorem Instant.text_lt_iff {i j : Instant} (hi : i.micros < limit) (hj : j.micros < limit) :
    i.text < j.text ↔ i.micros < j.micros := by
  have hvalid : (DateTime.ofMicros i.micros).Valid := DateTime.valid_ofMicros hi
  have hvalid' : (DateTime.ofMicros j.micros).Valid := DateTime.valid_ofMicros hj
  have horder := DateTime.micros_lt_iff hvalid hvalid'
  rw [DateTime.micros_ofMicros, DateTime.micros_ofMicros] at horder
  have hzone : "+00:00".toList = '+' :: "00:00".toList := rfl
  rw [horder, text, text, DateTime.text, DateTime.text, hzone]
  simp only [List.append_assoc]
  rw [Date.text_append_lt hvalid.date hvalid'.date, List.cons_append, List.cons_append,
    List.cons_lt_cons_iff, List.nil_append, List.nil_append,
    TimeOfDay.text_append_lt hvalid.time hvalid'.time]
  simp

theorem Instant.text_inj {i j : Instant} (hi : i.micros < limit) (hj : j.micros < limit) :
    i.text = j.text ↔ i = j := by
  refine ⟨fun h => ?_, fun h => h ▸ rfl⟩
  have hread := read?_text hi
  rw [h, read?_text hj] at hread
  exact (Option.some.inj hread).symm

end LinkHarvest
