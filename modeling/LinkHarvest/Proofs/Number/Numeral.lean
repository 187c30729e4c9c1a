import LinkHarvest.Number.Integer
import LinkHarvest.Proofs.Text.Trim

/-!
# Reading back decimal numerals

The numeral that is written for a number consists of decimal digits and has the number as its
value (`ofDigits_ofNat`); with its sign it reads as the integer again, as long as it does not have
too many digits (`read?_ofInt`).
-/

namespace LinkHarvest

namespace Text

variable {c : Char}

/-! ## Natural numbers -/

theorem isDigit_ofNat {n : Nat} (h : c ∈ ofNat n) : c.isDigit = true :=
  Nat.isDigit_of_mem_toDigits (by decide) (by decide) h

theorem ofNat_ne_nil (n : Nat) : ofNat n ≠ [] := Nat.toDigits_ne_nil

theorem visible_of_isDigit (h : c.isDigit = true) : 33 ≤ c.toNat ∧ c.toNat < 128 := by
  obtain ⟨hlow, hhigh⟩ := Char.isDigit_iff_toNat.mp h
  exact ⟨le_trans (by decide) hlow, lt_of_le_of_lt hhigh (by decide)⟩

theorem ofDigits_map (t : Text) :
    ofDigits 10 (t.map fun c => c.toNat - 48) = Nat.ofDigitChars 10 t 0 := by
  rw [ofDigits, Nat.ofDigitChars, List.foldl_map]
  congr 1
  funext n c
  rw [Nat.mul_comm]
  rfl

/-- **The numeral of a number has the number as its value.** -/
theorem ofDigits_ofNat (n : Nat) : ofDigits 10 ((ofNat n).map fun c => c.toNat - 48) = n := by
  rw [ofDigits_map]
  exact Nat.ofDigitChars_ten_toDigits

theorem filterMap_digit? {t : Text} (h : ∀ c ∈ t, c.isDigit = true) :
    t.filterMap digit? = t.map fun c => c.toNat - 48 := by
  induction t with
  | nil => rfl
  | cons c t ih =>
    obtain ⟨hc, ht⟩ := List.forall_mem_cons.mp h
    have hdigit : digit? c = some (c.toNat - 48) := if_pos hc
    rw [List.filterMap_cons_some hdigit, List.map_cons, ih ht]

theorem mapM_digit? {t : Text} (h : ∀ c ∈ t, c.isDigit = true) :
    t.mapM digit? = some (t.map fun c => c.toNat - 48) := by
  induction t with
  | nil => rfl
  | cons c t ih =>
    obtain ⟨hc, ht⟩ := List.forall_mem_cons.mp h
    have hdigit : digit? c = some (c.toNat - 48) := if_pos hc
    rw [List.mapM_cons, hdigit, ih ht]
    rfl

/-! ## Digits of any script -/

theorem anyDigit?_of_isDigit (h : c.isDigit = true) : anyDigit? c = some (c.toNat - 48) := by
  obtain ⟨hlow, hhigh⟩ := Char.isDigit_iff_toNat.mp h
  have hlow : 48 ≤ c.toNat := hlow
  have hhigh : c.toNat ≤ 57 := hhigh
  have hzero : zeros.find? (fun z => z ≤ c.toNat && c.toNat < z + 10) = some 0x30 := by
    refine List.find?_cons_of_pos ?_
    simp only [Bool.and_eq_true, decide_eq_true_eq]
    omega
  rw [anyDigit?, hzero]
  rfl

end Text

namespace Integer

variable {c : Char} {t : Text}

theorem moreDigits?_of_isDigit (h : ∀ c ∈ t, c.isDigit = true) :
    moreDigits? Text.anyDigit? t = some (t.map fun c => c.toNat - 48) := by
  induction t with
  | nil => rfl
  | cons c t ih =>
    obtain ⟨hc, ht⟩ := List.forall_mem_cons.mp h
    have hunder : c ≠ '_' := by
      rintro rfl
      cases hc
    rw [moreDigits?, Text.anyDigit?_of_isDigit hc, ih ht]
    · rfl
    · rintro d rest rfl
      exact absurd rfl hunder

theorem digits?_of_isDigit (hne : t ≠ []) (h : ∀ c ∈ t, c.isDigit = true) :
    digits? Text.anyDigit? t = some (t.map fun c => c.toNat - 48) := by
  cases t with
  | nil => exact absurd rfl hne
  | cons c t =>
    obtain ⟨hc, ht⟩ := List.forall_mem_cons.mp h
    rw [digits?, Text.anyDigit?_of_isDigit hc, moreDigits?_of_isDigit ht]
    rfl

theorem sign_of_isDigit (h : ∀ c ∈ t, c.isDigit = true) : sign t = (false, t) := by
  unfold sign
  split
  · exact absurd (h '-' List.mem_cons_self) (by decide)
  · exact absurd (h '+' List.mem_cons_self) (by decide)
  · rfl

theorem trimMargins_of_visible (h : ∀ c ∈ t, 33 ≤ c.toNat ∧ c.toNat < 128) :
    trimMargins t = t := by
  have hmargin : ∀ c ∈ t, isMargin c = false := by
    intro c hc
    rw [isMargin, Text.isBlank_of_visible (h c hc).1 (h c hc).2]
    rfl
  have hkeep : ∀ u : Text, (∀ c ∈ u, isMargin c = false) → u.dropWhile isMargin = u := by
    intro u hu
    cases u with
    | nil => rfl
    | cons c u => exact List.dropWhile_cons_of_neg (by simp [hu c])
  rw [trimMargins, hkeep t hmargin, hkeep t.reverse (by simpa using hmargin), List.reverse_reverse]

/-! ## Integers -/

theorem visible_ofInt {n : Int} (h : c ∈ Text.ofInt n) : 33 ≤ c.toNat ∧ c.toNat < 128 := by
  unfold Text.ofInt at h
  split at h
  · rcases List.mem_cons.mp h with rfl | h
    · decide
    · exact Text.visible_of_isDigit (Text.isDigit_ofNat h)
  · exact Text.visible_of_isDigit (Text.isDigit_ofNat h)

theorem sign_ofInt (n : Int) :
    sign (Text.ofInt n) = (decide (n < 0), Text.ofNat n.natAbs) := by
  unfold Text.ofInt
  split
  · rename_i hneg
    rw [decide_eq_true hneg]
    rfl
  · rename_i hpos
    rw [decide_eq_false hpos]
    exact sign_of_isDigit fun c => Text.isDigit_ofNat

/-- **An integer is read back from its numeral.** -/
theorem read?_ofInt {n : Int} (h : (Text.ofNat n.natAbs).length ≤ digitLimit) :
    read? (Text.ofInt n) = some n := by
  have hdigits := digits?_of_isDigit (Text.ofNat_ne_nil n.natAbs) fun c => Text.isDigit_ofNat
  have hsigned : signed (decide (n < 0)) n.natAbs = n := by
    unfold signed
    split
    · rename_i hneg
      have hneg := of_decide_eq_true hneg
      omega
    · rename_i hpos
      have hpos := of_decide_eq_false (Bool.not_eq_true _ ▸ hpos)
      omega
  rw [read?, read, trimMargins_of_visible fun c => visible_ofInt, sign_ofInt]
  dsimp only
  rw [hdigits]
  dsimp only
  rw [if_neg (by rw [List.length_map]; omega), Text.ofDigits_ofNat, hsigned]
  rfl

end Integer

end LinkHarvest
