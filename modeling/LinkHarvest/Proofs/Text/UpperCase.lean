import LinkHarvest.Proofs.Text.Case

/-!
# Upper case

Upper-casing leads to characters that it leaves as they are, so that twice is once (`upper_upper`),
and to blank characters from these alone, so that the ends of a trimmed text stay what they are
(`Tight.upper`). Both are facts about the tables of letter case: no run of characters that
upper-casing leads to has one in common with the runs that it changes, or with the blank characters
(`misses_of_mem_landings`).
-/

namespace LinkHarvest.Text

variable {t u : Text} {c d : Char}

/-! ## Runs of characters -/

namespace CaseRun

variable {r s : CaseRun} {n m : Nat}

/-- A run of one character that stays where it is. -/
def single (n : Nat) : CaseRun := ⟨n, n, 1, 0⟩

/-- The characters that a run leads to, as a run. -/
def landing (r : CaseRun) : CaseRun :=
  ⟨((r.first : Int) + r.shift).toNat, ((r.last : Int) + r.shift).toNat, r.step, 0⟩

/-- A code point is one of a run. -/
def Covers (r : CaseRun) (n : Nat) : Prop := r.first ≤ n ∧ n ≤ r.last ∧ (n - r.first) % r.step = 0

/-- Whether two runs have nothing in common: one ends before the other begins, or they alternate. -/
def misses (r s : CaseRun) : Bool :=
  Nat.blt r.last s.first || (Nat.blt s.last r.first ||
    (Nat.beq s.step 2 && (Nat.beq r.step 2 || Nat.beq r.first r.last) &&
      Nat.beq ((r.first + s.first) % 2) 1))

/-- Whether all of a run are code points of characters. -/
def isValid (r : CaseRun) : Bool :=
  Nat.blt r.last 0xD800 || (Nat.blt 0xDFFF r.first && Nat.blt r.last 0x110000)

theorem covers_single : (single n).Covers m ↔ m = n := by
  show n ≤ m ∧ m ≤ n ∧ (m - n) % 1 = 0 ↔ m = n
  omega

theorem not_covers_of_misses (h : r.misses s = true) (hr : r.Covers n) : ¬ s.Covers n := by
  obtain ⟨hfirst, hlast, hstep⟩ := hr
  simp only [misses, Bool.or_eq_true, Bool.and_eq_true, Nat.blt_eq, Nat.beq_eq] at h
  rintro ⟨hfirst', hlast', hstep'⟩
  rcases h with h | h | ⟨⟨htwo, hruns⟩, hodd⟩
  · omega
  · omega
  · rw [htwo] at hstep'
    rcases hruns with htwo' | hone
    · rw [htwo'] at hstep
      omega
    · omega

/-- What a run leads to is a part of its landing. -/
theorem covers_landing (hr : 0 ≤ (r.first : Int) + r.shift) (h : r.image? n = some m) :
    r.landing.Covers m := by
  unfold image? at h
  split at h
  · rename_i hn
    obtain ⟨hfirst, hlast, hstep⟩ := hn
    cases h
    refine ⟨?_, ?_, ?_⟩
    · show ((r.first : Int) + r.shift).toNat ≤ ((n : Int) + r.shift).toNat
      omega
    · show ((n : Int) + r.shift).toNat ≤ ((r.last : Int) + r.shift).toNat
      omega
    · have hsame : ((n : Int) + r.shift).toNat - ((r.first : Int) + r.shift).toNat = n - r.first := by
        omega
      show (((n : Int) + r.shift).toNat - ((r.first : Int) + r.shift).toNat) % r.step = 0
      rw [hsame]
      exact hstep
  · cases h

theorem image?_of_not_covers (h : ¬ r.Covers n) : r.image? n = none := if_neg h

theorem toNat_of_isValid (h : r.isValid = true) (hn : r.Covers n) : (Char.ofNat n).toNat = n := by
  obtain ⟨hfirst, hlast, -⟩ := hn
  simp only [isValid, Bool.or_eq_true, Bool.and_eq_true, Nat.blt_eq] at h
  refine toNat_ofNat_of_valid ?_
  rcases h with h | ⟨h, h'⟩
  · exact .inl (by omega)
  · exact .inr (by omega)

end CaseRun

open CaseRun

/-! ## The tables -/

/-- The characters that upper-casing changes. -/
def changing : List CaseRun :=
  ⟨0x61, 0x7A, 1, -32⟩ :: (upperRuns ++ upperExpansions.map fun e => single e.1)

/-- The characters that upper-casing leads to. -/
def landings : List CaseRun :=
  ⟨0x41, 0x5A, 1, 0⟩ :: (upperRuns.map landing ++
    (upperExpansions.flatMap (·.2)).eraseDups.map single)

theorem misses_of_mem_landings {r s : CaseRun} (hr : r ∈ landings)
    (hs : s ∈ changing ++ blanks.map single) : r.misses s = true := by
  have hall : (landings.all fun r => (changing ++ blanks.map single).all r.misses) = true := by
    decide +kernel
  exact List.all_eq_true.mp (List.all_eq_true.mp hall r hr) s hs

theorem isValid_of_mem_landings {r : CaseRun} (hr : r ∈ landings) : r.isValid = true := by
  have hall : landings.all CaseRun.isValid = true := by decide +kernel
  exact List.all_eq_true.mp hall r hr

theorem shift_of_mem_upperRuns {r : CaseRun} (hr : r ∈ upperRuns) :
    0 ≤ (r.first : Int) + r.shift := by
  have hall : (upperRuns.all fun r => decide (0 ≤ (r.first : Int) + r.shift)) = true := by
    decide +kernel
  exact of_decide_eq_true (List.all_eq_true.mp hall r hr)

/-! ## Characters -/

theorem toUpper_of_not_covers (h : ¬ (⟨0x61, 0x7A, 1, -32⟩ : CaseRun).Covers c.toNat) :
    c.toUpper = c := by
  refine dif_neg fun hlower => h ?_
  obtain ⟨hfirst, hlast⟩ := hlower
  have hfirst := le_iff_toNat.mp hfirst
  have hlast := le_iff_toNat.mp hlast
  exact ⟨hfirst, hlast, Nat.mod_one _⟩

theorem upperChar_of_not_covers (h : ∀ s ∈ changing, ¬ s.Covers c.toNat) : upperChar c = [c] := by
  obtain ⟨hascii, hothers⟩ := List.forall_mem_cons.mp h
  obtain ⟨hruns, hexpansions⟩ := List.forall_mem_append.mp hothers
  unfold upperChar
  split
  · rw [toUpper_of_not_covers hascii]
  · have hnone : upperExpansions.find? (fun e => e.1 == c.toNat) = none := by
      refine List.find?_eq_none.mpr fun e he heq => ?_
      exact hexpansions _ (List.mem_map_of_mem he) (covers_single.mpr (beq_iff_eq.mp heq).symm)
    have hnone' : upperRuns.findSome? (fun r => r.image? c.toNat) = none :=
      List.findSome?_eq_none_iff.mpr fun r hr => image?_of_not_covers (hruns r hr)
    unfold mapCase
    rw [hnone]
    dsimp only
    rw [hnone']

theorem toNat_toUpper (h : 'a' ≤ c ∧ c ≤ 'z') : c.toUpper.toNat + 32 = c.toNat := by
  have hfirst : 97 ≤ c.val.toNat := h.1
  have hlast : c.val.toNat ≤ 122 := h.2
  have hletter : 'a'.val ≤ c.val ∧ c.val ≤ 'z'.val := h
  have hshift : ('A'.val - 'a'.val).toNat = 4294967264 := by decide
  show c.toUpper.val.toNat + 32 = c.val.toNat
  unfold Char.toUpper
  rw [dif_pos hletter, UInt32.toNat_add, hshift]
  omega

theorem upperChar_cases (c : Char) :
    upperChar c = [c] ∨ ∀ d ∈ upperChar c, ∃ r ∈ landings, r.Covers d.toNat := by
  -- A landing is a run of characters, so the code point of the image is the one that it covers.
  have hlands : ∀ {r n}, r ∈ landings → r.Covers n →
      ∃ r ∈ landings, r.Covers (Char.ofNat n).toNat := by
    intro r n hr hn
    exact ⟨r, hr, (toNat_of_isValid (isValid_of_mem_landings hr) hn).symm ▸ hn⟩
  unfold upperChar
  split
  · by_cases hlower : 'a' ≤ c ∧ c ≤ 'z'
    · refine .inr fun d hd => ⟨_, List.mem_cons_self, ?_⟩
      obtain rfl := List.mem_singleton.mp hd
      have hcode := toNat_toUpper hlower
      have hfirst : 97 ≤ c.toNat := le_iff_toNat.mp hlower.1
      have hlast : c.toNat ≤ 122 := le_iff_toNat.mp hlower.2
      have hfirst' : 65 ≤ c.toUpper.toNat := by omega
      have hlast' : c.toUpper.toNat ≤ 90 := by omega
      exact ⟨hfirst', hlast', Nat.mod_one _⟩
    · exact .inl (congrArg (fun d => [d]) (dif_neg hlower))
  · unfold mapCase
    split
    · rename_i e images hfind
      refine .inr fun d hd => ?_
      obtain ⟨n, hn, rfl⟩ := List.mem_map.mp hd
      have hn : n ∈ (upperExpansions.flatMap (·.2)).eraseDups :=
        List.mem_eraseDups.mpr (List.mem_flatMap.mpr ⟨_, List.mem_of_find?_eq_some hfind, hn⟩)
      exact hlands (List.mem_cons_of_mem _ (List.mem_append_right _ (List.mem_map_of_mem hn)))
        (covers_single.mpr rfl)
    · split
      · rename_i n hfind
        refine .inr fun d hd => ?_
        obtain rfl := List.mem_singleton.mp hd
        obtain ⟨r, hr, himage⟩ := List.exists_of_findSome?_eq_some hfind
        exact hlands (List.mem_cons_of_mem _ (List.mem_append_left _ (List.mem_map_of_mem hr)))
          (covers_landing (shift_of_mem_upperRuns hr) himage)
      · exact .inl rfl

theorem upperChar_of_mem (h : d ∈ upperChar c) : upperChar d = [d] := by
  rcases upperChar_cases c with hsame | hlands
  · rw [hsame, List.mem_singleton] at h
    rwa [h]
  · obtain ⟨r, hr, hd⟩ := hlands d h
    exact upperChar_of_not_covers fun s hs =>
      not_covers_of_misses (misses_of_mem_landings hr (List.mem_append_left _ hs)) hd

theorem isBlank_of_mem_upperChar (h : d ∈ upperChar c) (hc : isBlank c = false) :
    isBlank d = false := by
  rcases upperChar_cases c with hsame | hlands
  · rw [hsame, List.mem_singleton] at h
    rwa [h]
  · obtain ⟨r, hr, hd⟩ := hlands d h
    by_contra hblank
    have hmem : single d.toNat ∈ blanks.map single :=
      List.mem_map_of_mem (mem_blanks (by simpa using hblank))
    exact not_covers_of_misses (misses_of_mem_landings hr (List.mem_append_right _ hmem)) hd
      (covers_single.mpr rfl)

theorem upperChar_ne_nil (c : Char) : upperChar c ≠ [] := by
  have himages : ∀ e ∈ upperExpansions, e.2 ≠ [] := by decide +kernel
  unfold upperChar mapCase
  split
  · exact List.cons_ne_nil _ _
  · split
    · rename_i e images hfind
      rw [ne_eq, List.map_eq_nil_iff]
      exact himages _ (List.mem_of_find?_eq_some hfind)
    · split <;> exact List.cons_ne_nil _ _

/-! ## Texts -/

/-- **Upper-casing twice is upper-casing once.** -/
theorem upper_upper (t : Text) : upper (upper t) = upper t := by
  unfold upper
  rw [List.flatMap_assoc]
  refine List.flatMap_congr fun c _ => ?_
  calc (upperChar c).flatMap upperChar = (upperChar c).flatMap fun d => [d] :=
        List.flatMap_congr fun d hd => upperChar_of_mem hd
    _ = upperChar c := List.flatMap_singleton' _

theorem Tight.upper (h : Tight t) : Tight (upper t) := by
  constructor
  · intro d hd
    cases t with
    | nil => cases hd
    | cons c t =>
      rw [Text.upper, List.flatMap_cons, List.head?_append_of_ne_nil _ (upperChar_ne_nil c)] at hd
      exact isBlank_of_mem_upperChar (List.mem_of_mem_head? hd) (h.1 c rfl)
  · intro d hd
    rcases List.eq_nil_or_concat t with rfl | ⟨start, c, rfl⟩
    · cases hd
    · rw [List.concat_eq_append] at h hd
      have hc : Text.isBlank c = false := h.2 c List.getLast?_concat
      rw [Text.upper, List.flatMap_append, List.flatMap_singleton,
        List.getLast?_append_of_ne_nil _ (upperChar_ne_nil c)] at hd
      exact isBlank_of_mem_upperChar (List.mem_of_getLast? hd) hc

end LinkHarvest.Text
