import LinkHarvest.Text.Blank
import Mathlib.Data.List.Basic
import Mathlib.Data.List.TakeWhile

/-!
# Trimmed text

Trimming takes blank characters off the two ends of a text and nothing else (`exists_trim`), and
blank characters put there make no difference (`trim_append_append`). So trimming twice is trimming
once (`trim_trim`), and what stands between two characters that are not blank survives
(`infix_trim`).
-/

namespace LinkHarvest.Text

variable {t u v : Text} {c : Char}

theorem isBlank_of_visible (h : 33 ≤ c.toNat) (h' : c.toNat < 128) : isBlank c = false := by
  unfold isBlank
  generalize c.toNat = n at h h' ⊢
  simp
  omega

/-- No blank character stands at either end. -/
def Tight (t : Text) : Prop :=
  (∀ c, t.head? = some c → isBlank c = false) ∧ ∀ c, t.getLast? = some c → isBlank c = false

/-! ## The start -/

theorem trimStart_append_of_blank (h : ∀ c ∈ u, isBlank c = true) :
    trimStart (u ++ t) = trimStart t := List.dropWhile_append_of_pos h

theorem trimStart_of_head (h : ∀ c, t.head? = some c → isBlank c = false) : trimStart t = t := by
  cases t with
  | nil => rfl
  | cons c t => exact List.dropWhile_cons_of_neg (by simp [h c rfl])

theorem exists_trimStart (t : Text) :
    ∃ u, (∀ c ∈ u, isBlank c = true) ∧ t = u ++ trimStart t :=
  ⟨t.takeWhile isBlank, fun _ hc => List.mem_takeWhile_imp hc, List.takeWhile_append_dropWhile.symm⟩

theorem head?_trimStart (h : (trimStart t).head? = some c) : isBlank c = false := by
  have hnot := List.head?_dropWhile_not isBlank t
  unfold trimStart at h
  rw [h] at hnot
  simpa using hnot

/-! ## The end -/

theorem reverse_trimEnd (t : Text) : (trimEnd t).reverse = trimStart t.reverse := by
  simp [trimEnd, trimStart]

theorem trimEnd_append_of_blank (h : ∀ c ∈ v, isBlank c = true) : trimEnd (t ++ v) = trimEnd t := by
  unfold trimEnd
  rw [List.reverse_append, List.dropWhile_append_of_pos (by simpa using h)]

theorem trimEnd_of_getLast (h : ∀ c, t.getLast? = some c → isBlank c = false) : trimEnd t = t := by
  have hstart : trimStart t.reverse = t.reverse :=
    trimStart_of_head fun c hc => h c (by rwa [List.head?_reverse] at hc)
  rw [← List.reverse_inj, reverse_trimEnd, hstart]

theorem exists_trimEnd (t : Text) : ∃ v, (∀ c ∈ v, isBlank c = true) ∧ t = trimEnd t ++ v := by
  obtain ⟨u, hu, heq⟩ := exists_trimStart t.reverse
  refine ⟨u.reverse, by simpa using hu, ?_⟩
  rw [← List.reverse_inj, List.reverse_append, List.reverse_reverse, reverse_trimEnd]
  exact heq

theorem getLast?_trimEnd (h : (trimEnd t).getLast? = some c) : isBlank c = false := by
  rw [← List.head?_reverse, reverse_trimEnd] at h
  exact head?_trimStart h

theorem head?_trimEnd (h : (trimEnd t).head? = some c) : t.head? = some c := by
  obtain ⟨v, -, heq⟩ := exists_trimEnd t
  rw [heq, List.head?_append, h]
  rfl

/-! ## Both ends -/

theorem tight_trim (t : Text) : Tight (trim t) :=
  ⟨fun _ hc => head?_trimStart (head?_trimEnd hc), fun _ hc => getLast?_trimEnd hc⟩

theorem trim_of_tight (h : Tight t) : trim t = t := by
  rw [trim, trimStart_of_head h.1, trimEnd_of_getLast h.2]

theorem trim_trim (t : Text) : trim (trim t) = trim t := trim_of_tight (tight_trim t)

theorem exists_trim (t : Text) :
    ∃ u v, (∀ c ∈ u, isBlank c = true) ∧ (∀ c ∈ v, isBlank c = true) ∧ t = u ++ trim t ++ v := by
  obtain ⟨u, hu, hstart⟩ := exists_trimStart t
  obtain ⟨v, hv, hend⟩ := exists_trimEnd (trimStart t)
  refine ⟨u, v, hu, hv, ?_⟩
  rw [List.append_assoc, trim, ← hend]
  exact hstart

theorem trim_subset (t : Text) : trim t ⊆ t := by
  obtain ⟨u, v, -, -, heq⟩ := exists_trim t
  intro c hc
  rw [heq]
  exact List.mem_append_left _ (List.mem_append_right _ hc)

theorem trim_append_append (hu : ∀ c ∈ u, isBlank c = true) (hv : ∀ c ∈ v, isBlank c = true)
    (ht : Tight t) : trim (u ++ t ++ v) = t := by
  rw [trim, List.append_assoc, trimStart_append_of_blank hu]
  cases t with
  | nil =>
    have hblank : trimStart v = [] := List.dropWhile_eq_nil_iff.mpr hv
    rw [List.nil_append, hblank]
    rfl
  | cons c t =>
    have hstart : trimStart (c :: t ++ v) = c :: t ++ v :=
      trimStart_of_head fun d hd => ht.1 d (by simpa using hd)
    rw [hstart, trimEnd_append_of_blank hv, trimEnd_of_getLast ht.2]

theorem trim_of_blank (h : ∀ c ∈ t, isBlank c = true) : trim t = [] := by
  have hends : trim (t ++ [] ++ []) = [] :=
    trim_append_append h (List.forall_mem_nil _) ⟨nofun, nofun⟩
  rwa [List.append_nil, List.append_nil] at hends

theorem filter_trim (t : Text) :
    (trim t).filter (fun c => !isBlank c) = t.filter fun c => !isBlank c := by
  obtain ⟨u, v, hu, hv, heq⟩ := exists_trim t
  have hnone : ∀ w : Text, (∀ c ∈ w, isBlank c = true) → w.filter (fun c => !isBlank c) = [] :=
    fun w hw => List.filter_eq_nil_iff.mpr fun c hc => by simp [hw c hc]
  conv_rhs => rw [heq]
  rw [List.filter_append, List.filter_append, hnone u hu, hnone v hv, List.nil_append,
    List.append_nil]

theorem trim_append_of_blank (h : ∀ c ∈ v, isBlank c = true) : trim (t ++ v) = trim t := by
  obtain ⟨a, b, ha, hb, heq⟩ := exists_trim t
  have hends : ∀ c ∈ b ++ v, isBlank c = true := List.forall_mem_append.mpr ⟨hb, h⟩
  have hsplit : t ++ v = a ++ trim t ++ (b ++ v) := by
    rw [← List.append_assoc, ← heq]
  rw [hsplit, trim_append_append ha hends (tight_trim t)]

theorem trim_trimEnd (t : Text) : trim (trimEnd t) = trim t := by
  obtain ⟨v, hv, heq⟩ := exists_trimEnd t
  rw [← trim_append_of_blank (t := trimEnd t) hv, ← heq]

theorem Tight.trim_append (ht : Tight t) (hne : t ≠ []) (u : Text) :
    trim (t ++ u) = t ++ trimEnd u := by
  have hstart : trimStart (t ++ u) = t ++ u :=
    trimStart_of_head fun c hc => ht.1 c (by rwa [List.head?_append_of_ne_nil t hne] at hc)
  obtain ⟨v, hv, heq⟩ := exists_trimEnd u
  have hlast : ∀ c, (t ++ trimEnd u).getLast? = some c → isBlank c = false := by
    intro c hc
    rw [List.getLast?_append] at hc
    cases hend : (trimEnd u).getLast? with
    | none =>
      rw [hend, Option.none_or] at hc
      exact ht.2 c hc
    | some d =>
      rw [hend] at hc
      cases hc
      exact getLast?_trimEnd hend
  rw [trim, hstart]
  conv_lhs => rw [heq]
  rw [← List.append_assoc, trimEnd_append_of_blank hv, trimEnd_of_getLast hlast]

theorem Tight.surround (ht : Tight t) (hne : t ≠ []) : Tight (trimStart u ++ t ++ trimEnd v) := by
  constructor
  · intro c hc
    rw [List.append_assoc, List.head?_append] at hc
    cases hhead : (trimStart u).head? with
    | none =>
      rw [hhead, Option.none_or, List.head?_append_of_ne_nil t hne] at hc
      exact ht.1 c hc
    | some d =>
      rw [hhead] at hc
      cases hc
      exact head?_trimStart hhead
  · intro c hc
    rw [List.getLast?_append] at hc
    cases hlast : (trimEnd v).getLast? with
    | none =>
      rw [hlast, Option.none_or, List.getLast?_append_of_ne_nil _ hne] at hc
      exact ht.2 c hc
    | some d =>
      rw [hlast] at hc
      cases hc
      exact getLast?_trimEnd hlast

theorem infix_trim (ht : Tight t) (h : t <:+: u) : t <:+: trim u := by
  by_cases hne : t = []
  · rw [hne]
    exact List.nil_infix
  · obtain ⟨x, y, rfl⟩ := h
    obtain ⟨a, ha, hx⟩ := exists_trimStart x
    obtain ⟨b, hb, hy⟩ := exists_trimEnd y
    have heq : x ++ t ++ y = a ++ (trimStart x ++ t ++ trimEnd y) ++ b := by
      calc x ++ t ++ y = (a ++ trimStart x) ++ t ++ (trimEnd y ++ b) := by rw [← hx, ← hy]
        _ = a ++ (trimStart x ++ t ++ trimEnd y) ++ b := by simp only [List.append_assoc]
    rw [heq, trim_append_append ha hb (ht.surround hne)]
    exact ⟨_, _, rfl⟩

end LinkHarvest.Text
