import LinkHarvest.Proofs.Number.Numeral
import Mathlib.Algebra.GroupWithZero.Nat

/-!
# Numerals of one width

A numeral that is filled up with zeros has a fixed width, as long as the number fits into it. Texts
of decimal digits that are equally long compare as the numbers that they write
(`lt_iff_ofDigitChars_lt`), so such numerals compare as their numbers, also with text behind them
(`padded_append_lt`).
-/

namespace LinkHarvest.Text

variable {c : Char} {s t : Text} {width m n : Nat}

theorem isDigit_padded (h : c ∈ padded width n) : c.isDigit = true := by
  rcases List.mem_append.mp h with h | h
  · rw [List.eq_of_mem_replicate h]
    rfl
  · exact isDigit_ofNat h

theorem length_padded (hwidth : 0 < width) (h : n < 10 ^ width) :
    (padded width n).length = width := by
  have hlength : (ofNat n).length ≤ width := (Nat.length_toDigits_le_iff (by decide) hwidth).mpr h
  rw [padded, List.length_append, List.length_replicate]
  omega

theorem ofDigitChars_padded (width n : Nat) : Nat.ofDigitChars 10 (padded width n) 0 = n := by
  rw [padded, Nat.ofDigitChars_append, Nat.ofDigitChars_replicate_zero, Nat.mul_zero]
  exact Nat.ofDigitChars_ten_toDigits

/-! ## Comparing digits -/

theorem ofDigitChars_cons_zero (c : Char) (t : Text) :
    Nat.ofDigitChars 10 (c :: t) 0 =
      10 ^ t.length * (c.toNat - '0'.toNat) + Nat.ofDigitChars 10 t 0 := by
  rw [Nat.ofDigitChars_cons, Nat.ofDigitChars_eq_ofDigitChars_zero, Nat.mul_zero, Nat.zero_add]

theorem ofDigitChars_lt (h : ∀ c ∈ t, c.isDigit = true) :
    Nat.ofDigitChars 10 t 0 < 10 ^ t.length := by
  induction t with
  | nil => simp
  | cons c t ih =>
    obtain ⟨hc, ht⟩ := List.forall_mem_cons.mp h
    have hhigh : c.toNat ≤ 57 := (Char.isDigit_iff_toNat.mp hc).2
    have hzero : '0'.toNat = 48 := rfl
    have hdigit : 10 ^ t.length * (c.toNat - '0'.toNat) ≤ 10 ^ t.length * 9 :=
      Nat.mul_le_mul_left _ (by omega)
    have hrest := ih ht
    rw [ofDigitChars_cons_zero, List.length_cons, Nat.pow_succ]
    omega

theorem ofDigitChars_cons_lt {d : Char} (hs : ∀ c ∈ s, c.isDigit = true)
    (hlength : s.length = t.length) (h : c.toNat - '0'.toNat < d.toNat - '0'.toNat) :
    Nat.ofDigitChars 10 (c :: s) 0 < Nat.ofDigitChars 10 (d :: t) 0 := by
  have hrest := ofDigitChars_lt hs
  have hdigit : 10 ^ t.length * (c.toNat - '0'.toNat + 1) ≤ 10 ^ t.length * (d.toNat - '0'.toNat) :=
    Nat.mul_le_mul_left _ h
  rw [Nat.mul_add, Nat.mul_one] at hdigit
  rw [ofDigitChars_cons_zero, ofDigitChars_cons_zero, hlength]
  rw [hlength] at hrest
  omega

/-- **Digits compare as the numbers that they write**, if there are equally many. -/
theorem lt_iff_ofDigitChars_lt (hs : ∀ c ∈ s, c.isDigit = true) (ht : ∀ c ∈ t, c.isDigit = true)
    (hlength : s.length = t.length) :
    s < t ↔ Nat.ofDigitChars 10 s 0 < Nat.ofDigitChars 10 t 0 := by
  induction s generalizing t with
  | nil =>
    have hnil : t = [] := List.length_eq_zero_iff.mp hlength.symm
    subst hnil
    simp
  | cons c s ih =>
    cases t with
    | nil => cases hlength
    | cons d t =>
      obtain ⟨hc, hmore⟩ := List.forall_mem_cons.mp hs
      obtain ⟨hd, hmore'⟩ := List.forall_mem_cons.mp ht
      have hrest : s.length = t.length := Nat.succ.inj hlength
      have hclow := (Char.isDigit_iff_toNat.mp hc).1
      have hdlow := (Char.isDigit_iff_toNat.mp hd).1
      rw [List.cons_lt_cons_iff]
      rcases Nat.lt_trichotomy c.toNat d.toNat with hcd | hcd | hcd
      · have hlt : c < d := hcd
        exact iff_of_true (.inl hlt) (ofDigitChars_cons_lt hmore hrest (by omega))
      · obtain rfl : c = d := Char.toNat_inj.mp hcd
        rw [ofDigitChars_cons_zero, ofDigitChars_cons_zero, hrest, Nat.add_lt_add_iff_left,
          ← ih hmore hmore' hrest]
        simp
      · have hvalue := ofDigitChars_cons_lt hmore' hrest.symm
          (show d.toNat - '0'.toNat < c.toNat - '0'.toNat by omega)
        refine iff_of_false ?_ (Nat.lt_asymm hvalue)
        rintro (h | ⟨rfl, -⟩)
        · exact Nat.lt_asymm hcd h
        · exact Nat.lt_irrefl _ hcd

/-! ## Comparing numerals -/

theorem padded_lt (hwidth : 0 < width) (hm : m < 10 ^ width) (hn : n < 10 ^ width) :
    padded width m < padded width n ↔ m < n := by
  rw [lt_iff_ofDigitChars_lt (fun _ => isDigit_padded) (fun _ => isDigit_padded)
    ((length_padded hwidth hm).trans (length_padded hwidth hn).symm), ofDigitChars_padded,
    ofDigitChars_padded]

theorem padded_inj : padded width m = padded width n ↔ m = n := by
  refine ⟨fun h => ?_, fun h => h ▸ rfl⟩
  rw [← ofDigitChars_padded width m, h, ofDigitChars_padded]

theorem append_lt_append {x y : Text} (h : s.length = t.length) :
    s ++ x < t ++ y ↔ s < t ∨ s = t ∧ x < y := by
  induction s generalizing t with
  | nil =>
    have ht : t = [] := List.length_eq_zero_iff.mp h.symm
    subst ht
    simp
  | cons c s ih =>
    cases t with
    | nil => cases h
    | cons d t =>
      rw [List.cons_append, List.cons_append, List.cons_lt_cons_iff, List.cons_lt_cons_iff,
        ih (Nat.succ.inj h), List.cons.injEq]
      constructor
      · rintro (hcd | ⟨hcd, hst | ⟨hst, hxy⟩⟩)
        · exact .inl (.inl hcd)
        · exact .inl (.inr ⟨hcd, hst⟩)
        · exact .inr ⟨⟨hcd, hst⟩, hxy⟩
      · rintro ((hcd | ⟨hcd, hst⟩) | ⟨⟨hcd, hst⟩, hxy⟩)
        · exact .inl hcd
        · exact .inr ⟨hcd, .inl hst⟩
        · exact .inr ⟨hcd, .inr ⟨hst, hxy⟩⟩

/-- **Numerals of one width compare as their numbers**, and equal ones leave the comparison to what
follows. -/
theorem padded_append_lt {x y : Text} (hwidth : 0 < width) (hm : m < 10 ^ width)
    (hn : n < 10 ^ width) :
    padded width m ++ x < padded width n ++ y ↔ m < n ∨ m = n ∧ x < y := by
  rw [append_lt_append ((length_padded hwidth hm).trans (length_padded hwidth hn).symm),
    padded_lt hwidth hm hn, padded_inj]

end LinkHarvest.Text
