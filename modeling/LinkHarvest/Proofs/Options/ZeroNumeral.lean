import LinkHarvest.Options.Conversion
import LinkHarvest.Proofs.Number.Padded
import LinkHarvest.Proofs.Text.Cut

/-!
# Texts that are read as zero

An integer in text may have a plus sign, zeros at its start, underscores and a fraction of zeros. For
zero this leaves many spellings, which are listed here (`ZeroNumeral`); no other text is read as zero
(`integerOfText_eq_zero`). The proof follows the steps of the reader backwards: what is read as a
plain zero, what gives this without underscores, without its fraction, and without zeros at the
start.
-/

namespace LinkHarvest.Options

variable {c : Char} {t u fraction : Text}

/-! ## Spellings of zero -/

/-- The fraction of a zero. -/
inductive ZeroFraction : Text → Prop
  | none : ZeroFraction []
  | point (n : Nat) : ZeroFraction ('.' :: List.replicate n '0')

/-- The whole part of a zero. Behind a zero there may be zeros and underscores, of which the last one
is a zero; behind a minus sign there is one zero, with an underscore between at most. -/
inductive ZeroWhole : Text → Prop
  | zeros {t : Text} (h : ∀ c ∈ t, c = '0' ∨ c = '_') (hlast : ('0' :: t).getLast? = some '0') :
      ZeroWhole ('0' :: t)
  | negative : ZeroWhole ['-', '0']
  | spaced : ZeroWhole ['-', '_', '0']

/-- The numerals of zero. A plus sign may stand before a minus sign. -/
def ZeroNumeral (t : Text) : Prop :=
  ∃ whole fraction, ZeroWhole whole ∧ ZeroFraction fraction ∧
    (t = whole ++ fraction ∨ t = '+' :: (whole ++ fraction))

/-! ## Plain numerals -/

theorem eq_zero_of_ofDigits (h : ∀ d ∈ c :: t, d.isDigit = true)
    (hzero : Decimal.ofDigits (c :: t) = 0) : c = '0' := by
  rw [Decimal.ofDigits, Text.filterMap_digit? h, Text.ofDigits_map, Text.ofDigitChars_cons_zero]
    at hzero
  have hdigit : 10 ^ t.length * (c.toNat - '0'.toNat) = 0 := by omega
  have hcode : c.toNat - '0'.toNat = 0 :=
    (Nat.mul_eq_zero.mp hdigit).resolve_left (Nat.pow_pos (by decide)).ne'
  have hlow : '0'.toNat ≤ c.toNat := (Char.isDigit_iff_toNat.mp (h c List.mem_cons_self)).1
  exact Char.toNat_inj.mp (by omega)

theorem plainInteger_eq_zero : plainInteger t = .ok 0 ↔ t = ['0'] ∨ t = ['-', '0'] := by
  constructor
  · intro h
    unfold plainInteger at h
    split at h
    rename_i negative digits hsign
    have hdigits : digits = ['0'] := by
      split at h
      · cases h
      split at h
      · cases h
      split at h
      · cases h
      rename_i hform hhead _
      cases digits with
      | nil => simp at hform
      | cons d digits =>
        have hall : ∀ e ∈ d :: digits, e.isDigit = true := by simpa using hform
        have hsigned : Integer.signed negative (Decimal.ofDigits (d :: digits)) = 0 :=
          Except.ok.inj h
        have hzero : Decimal.ofDigits (d :: digits) = 0 := by
          unfold Integer.signed at hsigned
          split at hsigned <;> omega
        obtain rfl := eq_zero_of_ofDigits hall hzero
        have hshort : digits = [] := by simpa using hhead
        rw [hshort]
    split at hsign
    · cases hsign
      exact .inr (by rw [hdigits])
    · cases hsign
      exact .inl hdigits
  · rintro (rfl | rfl) <;> decide

/-! ## Underscores -/

/-- Underscores before a zero, when there are none behind it. -/
theorem eq_replicate_concat (hend : Text.endsWith t ['_'] = false)
    (hfilter : t.filter (· ≠ '_') = ['0']) : ∃ n, t = List.replicate n '_' ++ ['0'] := by
  obtain ⟨u, v, rfl, hu, -, hv⟩ := List.filter_eq_cons_iff.mp hfilter
  have hunder : ∀ w : Text, (∀ c ∈ w, ¬ decide (c ≠ '_') = true) →
      w = List.replicate w.length '_' :=
    fun w hw => List.eq_replicate_iff.mpr ⟨rfl, fun c hc => by simpa using hw c hc⟩
  have hnone : v = [] := by
    rcases List.eq_nil_or_concat' v with hnil | ⟨v, c, rfl⟩
    · exact hnil
    · have hc : c = '_' := by simpa using List.filter_eq_nil_iff.mp hv c (by simp)
      have hsuffix : ['_'] <:+ u ++ '0' :: (v ++ [c]) := ⟨u ++ '0' :: v, by simp [hc]⟩
      rw [Text.endsWith, List.isSuffixOf_iff_suffix.mpr hsuffix] at hend
      cases hend
  rw [hnone, hunder u hu]
  exact ⟨_, rfl⟩

theorem withoutUnderscores_cases (t : Text) :
    withoutUnderscores t = t ∨ Text.startsWith t ['_'] = false ∧ Text.endsWith t ['_'] = false ∧
      hasDoubleUnderscore t = false ∧ withoutUnderscores t = t.filter (· ≠ '_') := by
  unfold withoutUnderscores
  split
  · exact .inl rfl
  · rename_i hplain
    simp only [Bool.or_eq_true, not_or, Bool.not_eq_true] at hplain
    exact .inr ⟨hplain.1.1, hplain.1.2, hplain.2, rfl⟩

theorem withoutUnderscores_eq_zero : withoutUnderscores t = ['0'] ↔ t = ['0'] := by
  constructor
  · intro h
    rcases withoutUnderscores_cases t with hsame | ⟨hstart, hend, -, hfilter⟩
    · rw [← hsame, h]
    · obtain ⟨n, rfl⟩ := eq_replicate_concat hend (hfilter.symm.trans h)
      cases n with
      | zero => rfl
      | succ n => cases hstart
  · rintro rfl
    decide

theorem withoutUnderscores_eq_negative :
    withoutUnderscores t = ['-', '0'] ↔ t = ['-', '0'] ∨ t = ['-', '_', '0'] := by
  constructor
  · intro h
    rcases withoutUnderscores_cases t with hsame | ⟨hstart, hend, hdouble, hfilter⟩
    · exact .inl (hsame.symm.trans h)
    obtain ⟨u, v, rfl, hu, -, hv⟩ := List.filter_eq_cons_iff.mp (hfilter.symm.trans h)
    cases u with
    | cons c u =>
      have hc : c = '_' := by simpa using hu c List.mem_cons_self
      rw [hc] at hstart
      cases hstart
    | nil =>
      have hbehind : Text.endsWith v ['_'] = false := by
        rw [← Bool.not_eq_true, Text.endsWith, List.isSuffixOf_iff_suffix] at hend ⊢
        exact fun hsuffix => hend (hsuffix.trans (List.suffix_cons '-' v))
      obtain ⟨n, rfl⟩ := eq_replicate_concat hbehind hv
      match n with
      | 0 => exact .inl rfl
      | 1 => exact .inr rfl
      | n + 2 => cases hdouble
  · rintro (rfl | rfl) <;> decide

/-! ## Fractions -/

theorem withoutFraction_eq (hu : '.' ∉ u) :
    withoutFraction t = u ↔ ∃ fraction, ZeroFraction fraction ∧ t = u ++ fraction := by
  constructor
  · intro h
    unfold withoutFraction at h
    rcases Text.cut_cases '.' t with ⟨-, hcut⟩ | ⟨whole, fraction, rfl, -, hcut⟩
    · rw [hcut] at h
      exact ⟨[], .none, by rw [← h, List.append_nil]⟩
    · rw [hcut] at h
      dsimp only at h
      split at h
      · rename_i hzeros
        have hzeros : fraction = List.replicate fraction.length '0' :=
          List.eq_replicate_iff.mpr ⟨rfl, by simpa using hzeros⟩
        rw [h, hzeros]
        exact ⟨_, .point _, rfl⟩
      · exact absurd (by simp [← h]) hu
  · rintro ⟨_, _ | n, rfl⟩
    · unfold withoutFraction
      rw [List.append_nil, Text.cut_of_not_mem hu]
    · unfold withoutFraction
      rw [Text.cut_append_cons hu]
      simp

/-! ## Zeros at the start -/

theorem ZeroFraction.eq_nil_or_point (h : ZeroFraction fraction) :
    fraction = [] ∨ ∃ rest, fraction = '.' :: rest := by
  cases h with
  | none => exact .inl rfl
  | point n => exact .inr ⟨_, rfl⟩

theorem afterZeros_eq (hf : ZeroFraction fraction) (last : Char) :
    afterZeros last t = some ('0' :: fraction) ↔
      ∃ z, t = z ++ fraction ∧ (∀ c ∈ z, c = '0' ∨ c = '_') ∧
        (last :: z).getLast? = some '0' := by
  induction t generalizing last with
  | nil =>
    rw [afterZeros]
    constructor
    · intro h
      cases h
      exact ⟨[], rfl, nofun, rfl⟩
    · rintro ⟨z, hnil, -, hlast⟩
      obtain ⟨rfl, rfl⟩ := List.nil_eq_append_iff.mp hnil
      have hzero : last = '0' := Option.some.inj hlast
      rw [hzero]
  | cons c t ih =>
    rw [afterZeros]
    by_cases hc : c = '0' ∨ c = '_'
    · rw [if_pos hc, ih]
      constructor
      · rintro ⟨z, rfl, hz, hlast⟩
        exact ⟨c :: z, rfl, List.forall_mem_cons.mpr ⟨hc, hz⟩, hlast⟩
      · rintro ⟨z, heq, hz, hlast⟩
        cases z with
        | nil =>
          rcases hf.eq_nil_or_point with rfl | ⟨rest, rfl⟩
          · cases heq
          · cases heq
            exact absurd hc (by decide)
        | cons d z =>
          cases heq
          exact ⟨z, rfl, (List.forall_mem_cons.mp hz).2, hlast⟩
    · -- Nothing that follows belongs to the zeros, so it has to be the fraction.
      have hrest : (∃ z, c :: t = z ++ fraction ∧ (∀ c ∈ z, c = '0' ∨ c = '_') ∧
          (last :: z).getLast? = some '0') ↔ fraction = c :: t ∧ last = '0' := by
        constructor
        · rintro ⟨z, heq, hz, hlast⟩
          cases z with
          | nil => exact ⟨heq.symm, Option.some.inj hlast⟩
          | cons d z =>
            cases heq
            exact absurd (hz c List.mem_cons_self) hc
        · rintro ⟨rfl, rfl⟩
          exact ⟨[], rfl, nofun, rfl⟩
      rw [if_neg hc, hrest]
      split
      · simp [eq_comm, and_comm]
      · rename_i hpoint
        have hno : fraction ≠ c :: t := by
          rintro rfl
          rcases hf.eq_nil_or_point with hnil | ⟨rest, heq⟩
          · cases hnil
          · cases heq
            exact hpoint rfl
        split
        · rename_i hdigit
          have hne : c ≠ '0' := fun heq => hc (.inl heq)
          simp [hno, hne]
        · simp [hno]

theorem afterZeros_ne {last : Char} (h : last ≠ '-') : afterZeros last t ≠ some ('-' :: u) := by
  induction t generalizing last with
  | nil => simp [afterZeros, h]
  | cons c t ih =>
    rw [afterZeros]
    split
    · rename_i hc
      refine ih ?_
      rintro rfl
      exact absurd hc (by decide)
    · split
      · simp [h]
      · split
        · rename_i hdigit
          have hne : c ≠ '-' := by
            rintro rfl
            exact absurd hdigit (by decide)
          simp [hne]
        · simp

theorem withoutZeros_eq_zero (hf : ZeroFraction fraction) :
    withoutZeros t = some ('0' :: fraction) ↔
      ∃ z, (∀ c ∈ z, c = '0' ∨ c = '_') ∧ ('0' :: z).getLast? = some '0' ∧
        t = '0' :: z ++ fraction := by
  unfold withoutZeros
  split
  · rw [afterZeros_eq hf]
    simp [and_assoc, and_comm]
  · rename_i c rest hzero
    have hne : c ≠ '0' := hzero
    simp [hne]
  · simp

theorem withoutZeros_eq_negative : withoutZeros t = some ('-' :: u) ↔ t = '-' :: u := by
  unfold withoutZeros
  split
  · simp [afterZeros_ne]
  · rename_i c rest hzero
    constructor
    · intro h
      split at h
      · exact Option.some.inj h
      · cases h
    · intro h
      cases h
      exact if_pos (.inr rfl)
  · simp

/-! ## All steps -/

theorem stripped_eq_zero :
    plainInteger (withoutUnderscores (withoutFraction t)) = .ok 0 ↔
      ∃ fraction, ZeroFraction fraction ∧ (t = '0' :: fraction ∨
        t = ['-', '0'] ++ fraction ∨ t = ['-', '_', '0'] ++ fraction) := by
  rw [plainInteger_eq_zero, withoutUnderscores_eq_zero, withoutUnderscores_eq_negative,
    withoutFraction_eq (by decide), withoutFraction_eq (by decide), withoutFraction_eq (by decide)]
  grind

theorem withoutZeros_stripped :
    (∃ u, withoutZeros t = some u ∧
      plainInteger (withoutUnderscores (withoutFraction u)) = .ok 0) ↔
      ∃ whole fraction, ZeroWhole whole ∧ ZeroFraction fraction ∧ t = whole ++ fraction := by
  constructor
  · rintro ⟨u, hzeros, hread⟩
    obtain ⟨fraction, hf, rfl | rfl | rfl⟩ := stripped_eq_zero.mp hread
    · obtain ⟨z, hz, hlast, rfl⟩ := (withoutZeros_eq_zero hf).mp hzeros
      exact ⟨_, fraction, .zeros hz hlast, hf, rfl⟩
    · exact ⟨_, fraction, .negative, hf, withoutZeros_eq_negative.mp hzeros⟩
    · exact ⟨_, fraction, .spaced, hf, withoutZeros_eq_negative.mp hzeros⟩
  · rintro ⟨whole, fraction, hwhole, hf, rfl⟩
    cases hwhole with
    | zeros hz hlast =>
      exact ⟨_, (withoutZeros_eq_zero hf).mpr ⟨_, hz, hlast, rfl⟩,
        stripped_eq_zero.mpr ⟨fraction, hf, .inl rfl⟩⟩
    | negative =>
      exact ⟨_, withoutZeros_eq_negative.mpr rfl,
        stripped_eq_zero.mpr ⟨fraction, hf, .inr (.inl rfl)⟩⟩
    | spaced =>
      exact ⟨_, withoutZeros_eq_negative.mpr rfl,
        stripped_eq_zero.mpr ⟨fraction, hf, .inr (.inr rfl)⟩⟩

theorem ZeroWhole.ne_plus {whole : Text} (h : ZeroWhole whole) (fraction rest : Text) :
    whole ++ fraction ≠ '+' :: rest := by
  rintro heq
  cases h <;> cases heq

theorem exists_unsigned (t : Text) :
    ∃ u, (Integer.trimMargins t = '+' :: u ∨
        Integer.trimMargins t = u ∧ ∀ rest, u ≠ '+' :: rest) ∧
      integerOfText t = (withoutZeros u).elim (.error .integerText) fun v =>
        plainInteger (withoutUnderscores (withoutFraction v)) := by
  unfold integerOfText
  dsimp only
  split
  · rename_i hzeros
    split at hzeros
    · rename_i u hplus
      exact ⟨u, .inl hplus, by rw [hzeros]; rfl⟩
    · rename_i hplain
      exact ⟨_, .inr ⟨rfl, hplain⟩, by rw [hzeros]; rfl⟩
  · rename_i v hzeros
    split at hzeros
    · rename_i u hplus
      exact ⟨u, .inl hplus, by rw [hzeros]; rfl⟩
    · rename_i hplain
      exact ⟨_, .inr ⟨rfl, hplain⟩, by rw [hzeros]; rfl⟩

/-- **The texts that are read as zero** are the numerals of zero, with margins around them. -/
theorem integerOfText_eq_zero :
    integerOfText t = .ok 0 ↔ ZeroNumeral (Integer.trimMargins t) := by
  obtain ⟨u, hsign, hread⟩ := exists_unsigned t
  have hzero : integerOfText t = .ok 0 ↔
      ∃ whole fraction, ZeroWhole whole ∧ ZeroFraction fraction ∧ u = whole ++ fraction := by
    rw [hread, ← withoutZeros_stripped]
    cases withoutZeros u <;> simp
  rw [hzero]
  rcases hsign with hplus | ⟨hsame, hplain⟩
  · rw [hplus]
    constructor
    · rintro ⟨whole, fraction, hwhole, hf, rfl⟩
      exact ⟨whole, fraction, hwhole, hf, .inr rfl⟩
    · rintro ⟨whole, fraction, hwhole, hf, heq | heq⟩
      · exact absurd heq.symm (hwhole.ne_plus fraction u)
      · exact ⟨whole, fraction, hwhole, hf, (List.cons.inj heq).2⟩
  · rw [hsame]
    constructor
    · rintro ⟨whole, fraction, hwhole, hf, heq⟩
      exact ⟨whole, fraction, hwhole, hf, .inl heq⟩
    · rintro ⟨whole, fraction, hwhole, hf, heq | heq⟩
      · exact ⟨whole, fraction, hwhole, hf, heq⟩
      · exact absurd heq (hplain _)

end LinkHarvest.Options
