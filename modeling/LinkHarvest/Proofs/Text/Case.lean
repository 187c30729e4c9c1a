import LinkHarvest.Proofs.Text.Visible

/-!
# Lower case

Lower-casing goes character by character, but for the capital sigma, which looks at its neighbours,
and the capital dotted i, which becomes two characters. Where a text in lower case could not have
come from one of these two (`Certain`), what starts with it in lower case starts with as many
characters as it has, and these do not look at the others (`exists_start`). Blank characters at the
end of a text make no difference to what stands before them (`lower_append_of_blank`). The ASCII in
a lower-case text was there before, small letters apart (`mem_lower`), so that a text of ASCII in
lower case stays as it is (`lower_lower`).
-/

namespace LinkHarvest.Text

variable {t u x : Text} {c : Char}

/-! ## Characters -/

theorem find?_lowerExpansions (h : c ≠ 'İ') :
    lowerExpansions.find? (fun e => e.1 == c.toNat) = none := by
  rw [lowerExpansions, List.find?_singleton]
  have hne : ¬ (0x130 == c.toNat) = true := fun heq =>
    h (Char.toNat_inj.mp (beq_iff_eq.mp heq).symm)
  rw [if_neg hne]

/-- All characters but the capital dotted i become one character. -/
theorem exists_lowerChar (h : c ≠ 'İ') : ∃ d, lowerChar c = [d] := by
  unfold lowerChar mapCase
  rw [find?_lowerExpansions h]
  split
  · exact ⟨_, rfl⟩
  · dsimp only
    split <;> exact ⟨_, rfl⟩

theorem lowerChar_dotted : lowerChar 'İ' = ['i', Char.ofNat 0x307] := by decide +kernel

theorem lowerAfter_append (h : 'Σ' ∉ t) (seen u : Text) :
    lowerAfter seen (t ++ u) = t.flatMap lowerChar ++ lowerAfter (t.reverse ++ seen) u := by
  induction t generalizing seen with
  | nil => rfl
  | cons c t ih =>
    obtain ⟨hc, ht⟩ := List.ne_and_not_mem_of_not_mem_cons h
    rw [List.cons_append, lowerAfter, if_neg (Ne.symm hc), ih ht, List.flatMap_cons,
      List.reverse_cons, List.append_assoc, List.append_assoc]
    rfl

theorem lower_append (h : 'Σ' ∉ t) (u : Text) :
    lower (t ++ u) = t.flatMap lowerChar ++ lowerAfter t.reverse u := by
  rw [lower, lowerAfter_append h, List.append_nil]

theorem lower_eq_flatMap (h : 'Σ' ∉ t) : lower t = t.flatMap lowerChar := by
  have happend := lower_append h []
  rwa [List.append_nil, lowerAfter, List.append_nil] at happend

theorem Visible.of_map_toLower (h : Visible (t.map Char.toLower)) : Visible t := by
  intro c hc
  rcases toLower_eq_or_isUpper c with hsame | hupper
  · exact hsame ▸ h _ (List.mem_map_of_mem hc)
  · exact visible_of_isAlphanum (isAlphanum_iff.mpr (.inl hupper))

theorem lower_append_of_ascii (h : ∀ c ∈ t, c.toNat < 128) (u : Text) :
    lower (t ++ u) = t.map Char.toLower ++ lowerAfter t.reverse u := by
  have hsigma : 'Σ' ∉ t := fun hmem => absurd (h _ hmem) (by decide)
  rw [lower_append hsigma, ← lower_eq_flatMap hsigma, lower_of_ascii h]

/-! ## Lower-case texts of ASCII -/

/-- A run leads to characters: to those beyond ASCII, or to a small k. -/
def CaseRun.Beyond (r : CaseRun) : Prop :=
  (128 ≤ r.first + r.shift ∧ r.last + r.shift < 0xD800) ∨
    (0xDFFF < r.first + r.shift ∧ r.last + r.shift < 0x110000) ∨
    (r.first = r.last ∧ r.first + r.shift = 'k'.toNat)

instance (r : CaseRun) : Decidable r.Beyond := by
  unfold CaseRun.Beyond
  infer_instance

theorem toNat_ofNat_of_valid {n : Nat} (h : n.isValidChar) : (Char.ofNat n).toNat = n := by
  rw [Char.ofNat, dif_pos h]
  rfl

theorem CaseRun.Beyond.image {r : CaseRun} (h : r.Beyond) {m n : Nat} (hn : r.image? n = some m) :
    128 ≤ (Char.ofNat m).toNat ∨ Char.ofNat m = 'k' := by
  unfold image? at hn
  split at hn
  · rename_i hcovers
    obtain ⟨hfirst, hlast, -⟩ := hcovers
    cases hn
    rcases h with h | h | ⟨heq, hk⟩
    · refine .inl ?_
      rw [toNat_ofNat_of_valid (.inl (by omega))]
      omega
    · refine .inl ?_
      rw [toNat_ofNat_of_valid (.inr (by omega))]
      omega
    · have hn : ((n : Int) + r.shift).toNat = 'k'.toNat := by omega
      exact .inr (by rw [hn, Char.ofNat_toNat])
  · cases hn

theorem isLower_of_mem_lowerChar {d : Char} (hc : 128 ≤ c.toNat) (h : d ∈ lowerChar c)
    (hd : d.toNat < 128) : d.isLower = true := by
  have hbeyond : ∀ r ∈ lowerRuns, r.Beyond := by decide +kernel
  by_cases hdotted : c = 'İ'
  · rw [hdotted, lowerChar_dotted] at h
    rcases List.mem_cons.mp h with rfl | h
    · rfl
    · rw [List.mem_singleton.mp h] at hd
      exact absurd hd (by decide)
  · unfold lowerChar mapCase at h
    rw [if_neg (by omega), find?_lowerExpansions hdotted] at h
    dsimp only at h
    split at h
    · rename_i m hm
      obtain ⟨r, hr, hm⟩ := List.exists_of_findSome?_eq_some hm
      obtain rfl := List.mem_singleton.mp h
      rcases (hbeyond r hr).image hm with hbig | hk
      · omega
      · rw [hk]
        rfl
    · rw [List.mem_singleton.mp h] at hd
      omega

theorem mem_lower {d : Char} (h : d ∈ lower t) (hd : d.toNat < 128) :
    d.isUpper = false ∧ (d.isLower = true ∨ d ∈ t) := by
  unfold lower at h
  generalize [] = seen at h
  induction t generalizing seen with
  | nil => cases h
  | cons c t ih =>
    rw [lowerAfter] at h
    rcases List.mem_append.mp h with h | h
    · by_cases hsigma : c = 'Σ'
      · have hsmall : d = 'ς' ∨ d = 'σ' := by
          rw [if_pos hsigma] at h
          split at h
          · exact .inl (List.mem_singleton.mp h)
          · exact .inr (List.mem_singleton.mp h)
        rcases hsmall with rfl | rfl <;> exact absurd hd (by decide)
      rw [if_neg hsigma] at h
      by_cases hc : c.toNat < 128
      · rw [lowerChar, if_pos hc, List.mem_singleton] at h
        subst h
        refine ⟨isUpper_toLower c, ?_⟩
        rcases toLower_eq_or_isUpper c with hsame | hupper
        · exact .inr (by rw [hsame]; exact List.mem_cons_self)
        · exact .inl (isLower_toLower hupper)
      · have hlower := isLower_of_mem_lowerChar (by omega) h hd
        exact ⟨not_isUpper_of_isLower hlower, .inl hlower⟩
    · obtain ⟨hupper, hmem⟩ := ih _ h
      exact ⟨hupper, hmem.imp_right (List.mem_cons_of_mem c)⟩

theorem lower_lower (h : ∀ c ∈ lower t, c.toNat < 128) : lower (lower t) = lower t := by
  rw [lower_of_ascii h]
  refine (List.map_congr_left fun c hc => ?_).trans (List.map_id _)
  obtain ⟨hupper, -⟩ := mem_lower hc (h c hc)
  exact (toLower_eq_or_isUpper c).resolve_right (by simp [hupper])

/-! ## What starts with a text in lower case -/

/-- Where `t` in lower case starts with `x`, there is no doubt which characters of `t` made it. -/
structure Certain (t x : Text) : Prop where
  sigma : 'Σ' ∈ t → 'σ' ∉ x ∧ 'ς' ∉ x
  dotted : 'İ' ∈ t → ¬ lowerChar 'İ' <:+: x ∧ x.getLast? ≠ some 'i'

theorem certain_of_ascii (h : ∀ c ∈ x, c.toNat < 128) (hlast : x.getLast? ≠ some 'i') (t : Text) :
    Certain t x := by
  refine ⟨fun _ => ⟨fun hmem => ?_, fun hmem => ?_⟩, fun _ => ⟨fun hpart => ?_, hlast⟩⟩
  · exact absurd (h _ hmem) (by decide)
  · exact absurd (h _ hmem) (by decide)
  · rw [lowerChar_dotted] at hpart
    exact absurd (h _ (hpart.subset (List.mem_cons_of_mem _ List.mem_cons_self))) (by decide)

theorem Certain.mono (h : Certain t x) (hsubset : u ⊆ t) : Certain u x :=
  ⟨fun hmem => h.sigma (hsubset hmem), fun hmem => h.dotted (hsubset hmem)⟩

theorem Certain.tail {a : Char} (h : Certain (c :: t) (a :: x)) : Certain t x := by
  constructor
  · intro hmem
    obtain ⟨hsigma, hfinal⟩ := h.sigma (List.mem_cons_of_mem c hmem)
    exact ⟨mt (List.mem_cons_of_mem a) hsigma, mt (List.mem_cons_of_mem a) hfinal⟩
  · intro hmem
    obtain ⟨hdotted, hlast⟩ := h.dotted (List.mem_cons_of_mem c hmem)
    refine ⟨mt (fun hpart => hpart.trans (List.suffix_cons a x).isInfix) hdotted, ?_⟩
    intro hx
    rw [List.getLast?_cons, hx] at hlast
    exact hlast rfl

theorem Certain.head {a : Char} {seen : Text} (hcertain : Certain (c :: t) (a :: x))
    (h : a :: x <+: lowerAfter seen (c :: t)) :
    c ≠ 'Σ' ∧ lowerChar c = [a] ∧ x <+: lowerAfter (c :: seen) t := by
  by_cases hsigma : c = 'Σ'
  · obtain ⟨hsmall, hfinal⟩ := hcertain.sigma (by rw [hsigma]; exact List.mem_cons_self)
    rw [lowerAfter, if_pos hsigma] at h
    split at h
    · obtain ⟨rfl, -⟩ := List.cons_prefix_cons.mp h
      exact absurd List.mem_cons_self hfinal
    · obtain ⟨rfl, -⟩ := List.cons_prefix_cons.mp h
      exact absurd List.mem_cons_self hsmall
  rw [lowerAfter, if_neg hsigma] at h
  by_cases hdotted : c = 'İ'
  · obtain ⟨htwo, hlast⟩ := hcertain.dotted (by rw [hdotted]; exact List.mem_cons_self)
    rw [lowerChar_dotted] at htwo
    rw [hdotted, lowerChar_dotted] at h
    obtain ⟨rfl, hrest⟩ := List.cons_prefix_cons.mp h
    -- The first of the two characters ends `x`, or the second one follows in it.
    cases x with
    | nil => exact absurd rfl hlast
    | cons b x =>
      obtain ⟨rfl, -⟩ := List.cons_prefix_cons.mp hrest
      exact absurd ⟨[], x, rfl⟩ htwo
  obtain ⟨d, hd⟩ := exists_lowerChar hdotted
  rw [hd] at h
  obtain ⟨rfl, hrest⟩ := List.cons_prefix_cons.mp h
  exact ⟨hsigma, hd, hrest⟩

/-- **The start of a lowered text** comes from as many characters, whatever follows them. -/
theorem exists_start {seen : Text} (hcertain : Certain t x) (h : x <+: lowerAfter seen t) :
    ∃ start rest, t = start ++ rest ∧ start.length = x.length ∧ 'Σ' ∉ start ∧
      start.flatMap lowerChar = x := by
  induction x generalizing seen t with
  | nil => exact ⟨[], t, rfl, rfl, List.not_mem_nil, rfl⟩
  | cons a x ih =>
    cases t with
    | nil => cases List.prefix_nil.mp h
    | cons c t =>
      obtain ⟨hsigma, hc, hrest⟩ := hcertain.head h
      obtain ⟨start, rest, rfl, hlength, hnone, himage⟩ := ih hcertain.tail hrest
      refine ⟨c :: start, rest, rfl, congrArg (· + 1) hlength, ?_, ?_⟩
      · exact List.not_mem_cons_of_ne_of_not_mem (Ne.symm hsigma) hnone
      · rw [List.flatMap_cons, hc, himage]
        rfl

theorem prefix_lower_take {n : Nat} (hcertain : Certain t x) (hn : x.length ≤ n) :
    x <+: lower (t.take n) ↔ x <+: lower t := by
  constructor
  · intro h
    obtain ⟨start, rest, htake, -, hsigma, himage⟩ :=
      exists_start (hcertain.mono (List.take_subset n t)) h
    have hsplit : t = start ++ (rest ++ t.drop n) := by
      rw [← List.append_assoc, ← htake, List.take_append_drop]
    rw [hsplit, lower_append hsigma, himage]
    exact List.prefix_append _ _
  · intro h
    obtain ⟨start, rest, rfl, hlength, hsigma, himage⟩ := exists_start hcertain h
    rw [List.take_append, List.take_of_length_le (hlength.trans_le hn), lower_append hsigma, himage]
    exact List.prefix_append _ _

/-! ## Blank characters at the end -/

def blanks : List Nat :=
  List.range' 9 5 ++ List.range' 28 5 ++ [0x85, 0xA0, 0x1680] ++ List.range' 0x2000 11 ++
    [0x2028, 0x2029, 0x202F, 0x205F, 0x3000]

theorem mem_blanks (h : isBlank c = true) : c.toNat ∈ blanks := by
  unfold isBlank at h
  unfold blanks
  generalize c.toNat = n at h ⊢
  simp only [Bool.or_eq_true, Bool.and_eq_true, decide_eq_true_eq, beq_iff_eq] at h
  simp only [List.mem_append, List.mem_range'_1, List.mem_cons, List.not_mem_nil, or_false]
  omega

theorem lowerChar_of_blank (h : isBlank c = true) : lowerChar c = [c] := by
  have hall : ∀ n ∈ blanks, lowerChar (Char.ofNat n) = [Char.ofNat n] := by decide +kernel
  have hc := hall c.toNat (mem_blanks h)
  rwa [Char.ofNat_toNat] at hc

theorem nextIsCased_append_of_blank (h : ∀ c ∈ u, isBlank c = true) :
    nextIsCased (t ++ u) = nextIsCased t := by
  have huncased : ∀ n ∈ blanks, inRanges casedRanges n = false := by decide +kernel
  induction t with
  | nil =>
    induction u with
    | nil => rfl
    | cons c u ih =>
      obtain ⟨hc, hu⟩ := List.forall_mem_cons.mp h
      have hc := huncased _ (mem_blanks hc)
      show (if inRanges caseIgnorableRanges c.toNat then nextIsCased u
        else inRanges casedRanges c.toNat) = false
      rw [hc]
      split
      · exact ih hu
      · rfl
  | cons c t ih => rw [List.cons_append, nextIsCased, nextIsCased, ih]

theorem lowerAfter_of_blank (h : ∀ c ∈ u, isBlank c = true) (seen : Text) :
    lowerAfter seen u = u := by
  induction u generalizing seen with
  | nil => rfl
  | cons c u ih =>
    obtain ⟨hc, hu⟩ := List.forall_mem_cons.mp h
    have hsigma : c ≠ 'Σ' := by
      rintro rfl
      exact absurd hc (by decide)
    rw [lowerAfter, if_neg hsigma, lowerChar_of_blank hc, ih hu]
    rfl

theorem lower_append_of_blank (h : ∀ c ∈ u, isBlank c = true) : lower (t ++ u) = lower t ++ u := by
  unfold lower
  generalize [] = seen
  induction t generalizing seen with
  | nil => exact lowerAfter_of_blank h seen
  | cons c t ih =>
    rw [List.cons_append, lowerAfter, lowerAfter, nextIsCased_append_of_blank h, ih,
      List.append_assoc]

/-- A text that does not end in a blank character does not reach into blank characters. -/
theorem prefix_of_prefix_append (hx : ∀ c, x.getLast? = some c → isBlank c = false)
    (hu : ∀ c ∈ u, isBlank c = true) (h : x <+: t ++ u) : x <+: t := by
  rcases List.prefix_or_prefix_of_prefix h (List.prefix_append t u) with h' | ⟨w, rfl⟩
  · exact h'
  · have hw : w <+: u := (List.prefix_append_right_inj t).mp h
    cases hlast : w.getLast? with
    | none =>
      have hnil := List.getLast?_eq_none_iff.mp hlast
      exact ⟨[], by rw [hnil, List.append_nil, List.append_nil]⟩
    | some c =>
      have hblank := hu c (hw.subset (List.mem_of_getLast? hlast))
      have hvisible := hx c (by rw [List.getLast?_append, hlast]; rfl)
      rw [hblank] at hvisible
      cases hvisible

end LinkHarvest.Text
