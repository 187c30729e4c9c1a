import LinkHarvest.Proofs.Text.Trim
import LinkHarvest.Text.Case

/-!
# Visible text

Links consist of visible characters of ASCII. Trimming leaves such a text as it is (`Visible.trim`),
and letter case is a matter of single characters (`lower_of_ascii`).
-/

namespace LinkHarvest.Text

variable {t u : Text}

theorem forall_mem_of_all {p : Char → Prop} [DecidablePred p]
    (h : t.all (fun c => decide (p c)) = true) : ∀ c ∈ t, p c :=
  fun c hc => of_decide_eq_true (List.all_eq_true.mp h c hc)

/-- Every character is a visible one of ASCII. -/
def Visible (t : Text) : Prop := ∀ c ∈ t, 33 ≤ c.toNat ∧ c.toNat < 128

namespace Visible

theorem nil : Visible [] := List.forall_mem_nil _

theorem cons {c : Char} (hc : 33 ≤ c.toNat ∧ c.toNat < 128) (ht : Visible t) : Visible (c :: t) :=
  List.forall_mem_cons.mpr ⟨hc, ht⟩

theorem append (ht : Visible t) (hu : Visible u) : Visible (t ++ u) :=
  List.forall_mem_append.mpr ⟨ht, hu⟩

theorem ascii (h : Visible t) : ∀ c ∈ t, c.toNat < 128 := fun c hc => (h c hc).2

theorem isBlank (h : Visible t) {c : Char} (hc : c ∈ t) : Text.isBlank c = false :=
  isBlank_of_visible (h c hc).1 (h c hc).2

theorem trimStart (h : Visible t) : Text.trimStart t = t :=
  trimStart_of_head fun _ hc => h.isBlank (List.mem_of_mem_head? hc)

theorem tight (h : Visible t) : Tight t :=
  ⟨fun _ hc => h.isBlank (List.mem_of_mem_head? hc),
    fun _ hc => h.isBlank (List.mem_of_getLast? hc)⟩

theorem trim (h : Visible t) : Text.trim t = t := trim_of_tight h.tight

end Visible

/-! ## Letters and digits -/

section Classes

variable {c d : Char}

theorem le_iff_toNat : c ≤ d ↔ c.toNat ≤ d.toNat := UInt32.le_iff_toNat_le

theorem isUpper_iff : c.isUpper = true ↔ 'A' ≤ c ∧ c ≤ 'Z' := decide_eq_true_iff

theorem isLower_iff : c.isLower = true ↔ 'a' ≤ c ∧ c ≤ 'z' := by
  show (decide ('a' ≤ c) && decide (c ≤ 'z')) = true ↔ _
  simp

theorem isDigit_iff : c.isDigit = true ↔ '0' ≤ c ∧ c ≤ '9' := by
  show (decide ('0' ≤ c) && decide (c ≤ '9')) = true ↔ _
  simp

theorem isAlphanum_iff : c.isAlphanum = true ↔
    c.isUpper = true ∨ c.isLower = true ∨ c.isDigit = true := by
  show (c.isUpper || c.isLower || c.isDigit) = true ↔ _
  rw [Bool.or_eq_true, Bool.or_eq_true, or_assoc]

theorem visible_of_isAlphanum (h : c.isAlphanum = true) : 33 ≤ c.toNat ∧ c.toNat < 128 := by
  simp only [isAlphanum_iff, isUpper_iff, isLower_iff, isDigit_iff, le_iff_toNat,
    Char.reduceToNat] at h
  omega

theorem toLower_eq_or_isUpper (c : Char) : c.toLower = c ∨ c.isUpper = true := by
  by_cases h : 'A' ≤ c ∧ c ≤ 'Z'
  · exact .inr (isUpper_iff.mpr h)
  · exact .inl (dif_neg h)

theorem toNat_toLower (h : c.isUpper = true) : c.toLower.toNat = c.toNat + 32 := by
  obtain ⟨hfirst, hlast⟩ := isUpper_iff.mp h
  have hle := le_iff_toNat.mp hlast
  have hlower : c.toLower.val = c.val + 32 := congrArg Char.val (dif_pos ⟨hfirst, hlast⟩)
  show c.toLower.val.toNat = c.val.toNat + 32
  rw [hlower, UInt32.toNat_add]
  exact Nat.mod_eq_of_lt (Nat.lt_of_le_of_lt (Nat.add_le_add_right hle 32) (by decide))

theorem eq_of_toLower (hd : d.toNat < 97) (h : c.toLower = d) : c = d := by
  rcases toLower_eq_or_isUpper c with hsame | hupper
  · exact hsame.symm.trans h
  · have hfirst := le_iff_toNat.mp (isUpper_iff.mp hupper).1
    have hcode := toNat_toLower hupper
    have hA : 'A'.toNat = 65 := by rfl
    rw [h] at hcode
    omega

theorem isLower_toLower (h : c.isUpper = true) : c.toLower.isLower = true := by
  have hcode := toNat_toLower h
  simp only [isUpper_iff, le_iff_toNat, Char.reduceToNat] at h
  simp only [isLower_iff, le_iff_toNat, Char.reduceToNat]
  omega

theorem not_isUpper_of_isLower (h : c.isLower = true) : c.isUpper = false := by
  simp only [isLower_iff, le_iff_toNat, Char.reduceToNat] at h
  rw [← Bool.not_eq_true]
  simp only [isUpper_iff, le_iff_toNat, Char.reduceToNat]
  omega

theorem isUpper_toLower (c : Char) : c.toLower.isUpper = false := by
  cases hupper : c.isUpper with
  | true => exact not_isUpper_of_isLower (isLower_toLower hupper)
  | false =>
    have hsame := (toLower_eq_or_isUpper c).resolve_right (by simp [hupper])
    rw [hsame, hupper]

end Classes

/-! ## Letter case -/

theorem lowerAfter_of_ascii (h : ∀ c ∈ t, c.toNat < 128) (seen : Text) :
    lowerAfter seen t = t.map Char.toLower := by
  induction t generalizing seen with
  | nil => rfl
  | cons c t ih =>
    obtain ⟨hc, ht⟩ := List.forall_mem_cons.mp h
    have hsigma : c ≠ 'Σ' := by
      rintro rfl
      exact absurd hc (by decide)
    rw [lowerAfter, if_neg hsigma, lowerChar, if_pos hc, ih ht]
    rfl

theorem lower_of_ascii (h : ∀ c ∈ t, c.toNat < 128) : lower t = t.map Char.toLower :=
  lowerAfter_of_ascii h []

end LinkHarvest.Text
