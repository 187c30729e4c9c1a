import LinkHarvest.Text.Basic
import Mathlib.Data.List.Basic

/-!
# Cutting at a delimiter

Each way of cutting gives back the parts that were put together around a delimiter, as long as the
parts do not hold it themselves: the part before the first one (`cut_append_cons`), the part after
the last one (`cutLast_append_cons`), and all pieces between them (`split_joined`). Every text that
holds the delimiter is cut in this way (`cut_cases`, `cutLast_cases`). The pieces of a text are
parts of it without the delimiter (`mem_split`), and together they hold all other characters
(`flatten_split`).
-/

namespace LinkHarvest.Text

variable {sep : Char} {t u : Text}

/-! ## The first delimiter -/

theorem cut_append_cons (h : sep ∉ t) (u : Text) : cut sep (t ++ sep :: u) = (t, some u) := by
  induction t with
  | nil => rw [List.nil_append, cut, if_pos rfl]
  | cons c t ih =>
    obtain ⟨hc, ht⟩ := not_or.mp (mt List.mem_cons.mpr h)
    rw [List.cons_append, cut, if_neg (Ne.symm hc), ih ht]

theorem cut_of_not_mem (h : sep ∉ t) : cut sep t = (t, none) := by
  induction t with
  | nil => rfl
  | cons c t ih =>
    obtain ⟨hc, ht⟩ := not_or.mp (mt List.mem_cons.mpr h)
    rw [cut, if_neg (Ne.symm hc), ih ht]

theorem before_append_cons (h : sep ∉ t) (u : Text) : before sep (t ++ sep :: u) = t := by
  rw [before, cut_append_cons h]

theorem after_append_cons (h : sep ∉ t) (u : Text) : after sep (t ++ sep :: u) = u := by
  rw [after, cut_append_cons h]
  rfl

theorem cut_cases (sep : Char) (t : Text) :
    (sep ∉ t ∧ cut sep t = (t, none)) ∨
      ∃ u v, t = u ++ sep :: v ∧ sep ∉ u ∧ cut sep t = (u, some v) := by
  by_cases h : sep ∈ t
  · obtain ⟨u, v, rfl, hu⟩ := List.eq_append_cons_of_mem h
    exact .inr ⟨u, v, rfl, hu, cut_append_cons hu v⟩
  · exact .inl ⟨h, cut_of_not_mem h⟩

theorem before_of_not_mem (h : sep ∉ t) : before sep t = t := by rw [before, cut_of_not_mem h]

theorem after_of_not_mem (h : sep ∉ t) : after sep t = [] := by
  rw [after, cut_of_not_mem h]
  rfl

theorem before_prefix (sep : Char) (t : Text) : before sep t <+: t := by
  unfold before
  rcases cut_cases sep t with ⟨-, hcut⟩ | ⟨u, v, rfl, -, hcut⟩
  · simp [hcut]
  · simp [hcut]

theorem not_mem_before (sep : Char) (t : Text) : sep ∉ before sep t := by
  unfold before
  rcases cut_cases sep t with ⟨h, hcut⟩ | ⟨u, v, -, h, hcut⟩
  · rwa [hcut]
  · rwa [hcut]

/-! ## The last delimiter -/

theorem cutLast_of_not_mem (h : sep ∉ t) : cutLast sep t = none := by
  induction t with
  | nil => rfl
  | cons c t ih =>
    obtain ⟨hc, ht⟩ := not_or.mp (mt List.mem_cons.mpr h)
    rw [cutLast, ih ht]
    exact if_neg (Ne.symm hc)

theorem cutLast_append_cons (t : Text) (h : sep ∉ u) :
    cutLast sep (t ++ sep :: u) = some (t, u) := by
  induction t with
  | nil =>
    rw [List.nil_append, cutLast, cutLast_of_not_mem h]
    exact if_pos rfl
  | cons c t ih => rw [List.cons_append, cutLast, ih]

theorem cutLast_cases (sep : Char) (t : Text) :
    (sep ∉ t ∧ cutLast sep t = none) ∨
      ∃ u v, t = u ++ sep :: v ∧ sep ∉ v ∧ cutLast sep t = some (u, v) := by
  by_cases h : sep ∈ t
  · obtain ⟨v, u, heq, hv⟩ := List.eq_append_cons_of_mem (List.mem_reverse.mpr h)
    have ht : t = u.reverse ++ sep :: v.reverse := by
      rw [← List.reverse_reverse t, heq]
      simp
    have hlast : sep ∉ v.reverse := mt List.mem_reverse.mp hv
    exact .inr ⟨u.reverse, v.reverse, ht, hlast, ht ▸ cutLast_append_cons _ hlast⟩
  · exact .inl ⟨h, cutLast_of_not_mem h⟩

/-! ## All delimiters -/

theorem split_ne_nil (sep : Char) (t : Text) : split sep t ≠ [] := by
  cases t with
  | nil => simp [split]
  | cons c t =>
    rw [split]
    split
    · simp
    · split <;> simp

theorem split_cons_of_ne {c : Char} (h : c ≠ sep) (t : Text) :
    ∃ piece more, split sep t = piece :: more ∧ split sep (c :: t) = (c :: piece) :: more := by
  obtain ⟨piece, more, heq⟩ := List.exists_cons_of_ne_nil (split_ne_nil sep t)
  exact ⟨piece, more, heq, by rw [split, if_neg h, heq]⟩

theorem split_append_cons (h : sep ∉ t) (u : Text) :
    split sep (t ++ sep :: u) = t :: split sep u := by
  induction t with
  | nil => rw [List.nil_append, split, if_pos rfl]
  | cons c t ih =>
    obtain ⟨hc, ht⟩ := not_or.mp (mt List.mem_cons.mpr h)
    rw [List.cons_append, split, if_neg (Ne.symm hc), ih ht]

theorem split_of_not_mem (h : sep ∉ t) : split sep t = [t] := by
  induction t with
  | nil => rfl
  | cons c t ih =>
    obtain ⟨hc, ht⟩ := not_or.mp (mt List.mem_cons.mpr h)
    rw [split, if_neg (Ne.symm hc), ih ht]

theorem split_append (t u : Text) : split sep (t ++ sep :: u) = split sep t ++ split sep u := by
  induction t with
  | nil => exact if_pos rfl
  | cons c t ih =>
    rw [List.cons_append]
    by_cases hc : c = sep
    · rw [split, if_pos hc, split, if_pos hc, ih, List.cons_append]
    · obtain ⟨piece, more, hsplit, hcons⟩ := split_cons_of_ne hc t
      rw [split, if_neg hc, ih, hsplit, hcons]
      rfl

theorem flatten_split (sep : Char) (t : Text) :
    (split sep t).flatten = t.filter fun c => c ≠ sep := by
  induction t with
  | nil => rfl
  | cons c t ih =>
    by_cases hc : c = sep
    · rw [split, if_pos hc, List.flatten_cons, ih, List.filter_cons_of_neg (by simp [hc])]
      rfl
    · obtain ⟨piece, more, hsplit, hcons⟩ := split_cons_of_ne hc t
      rw [hcons, List.filter_cons_of_pos (by simp [hc]), ← ih, hsplit]
      rfl

theorem split_joined {pieces : List Text} (hne : pieces ≠ []) (h : ∀ p ∈ pieces, sep ∉ p) :
    split sep (joined [sep] pieces) = pieces := by
  induction pieces with
  | nil => exact absurd rfl hne
  | cons p pieces ih =>
    obtain ⟨hp, hpieces⟩ := List.forall_mem_cons.mp h
    cases pieces with
    | nil =>
      rw [joined, List.intercalate_singleton]
      exact split_of_not_mem hp
    | cons q pieces =>
      have hcons : joined [sep] (p :: q :: pieces) = p ++ sep :: joined [sep] (q :: pieces) := by
        simp [joined, List.intercalate_cons_cons]
      rw [hcons, split_append_cons hp, ih (by simp) hpieces]

theorem split_start {piece : Text} {more : List Text} (h : split sep t = piece :: more) :
    piece <+: t := by
  induction t generalizing piece more with
  | nil =>
    cases h
    exact List.nil_prefix
  | cons c t ih =>
    by_cases hc : c = sep
    · rw [split, if_pos hc] at h
      cases h
      exact List.nil_prefix
    · obtain ⟨p, rest, hp, hsplit⟩ := split_cons_of_ne hc t
      rw [hsplit] at h
      cases h
      exact List.cons_prefix_cons.mpr ⟨rfl, ih hp⟩

theorem mem_split {piece : Text} (h : piece ∈ split sep t) : piece <:+: t ∧ sep ∉ piece := by
  induction t generalizing piece with
  | nil =>
    rw [split, List.mem_singleton] at h
    rw [h]
    exact ⟨List.nil_infix, List.not_mem_nil⟩
  | cons c t ih =>
    by_cases hc : c = sep
    · rw [split, if_pos hc] at h
      rcases List.mem_cons.mp h with rfl | h
      · exact ⟨List.nil_infix, List.not_mem_nil⟩
      · exact ⟨(ih h).1.trans (List.suffix_cons c t).isInfix, (ih h).2⟩
    · obtain ⟨p, rest, hp, hsplit⟩ := split_cons_of_ne hc t
      rw [hp] at ih
      rcases List.mem_cons.mp (hsplit ▸ h) with rfl | h
      · refine ⟨(split_start hsplit).isInfix, ?_⟩
        have hnot := (ih List.mem_cons_self).2
        simp [hnot, Ne.symm hc]
      · have hmem := ih (List.mem_cons_of_mem _ h)
        exact ⟨hmem.1.trans (List.suffix_cons c t).isInfix, hmem.2⟩

theorem exists_mem_split {c : Char} (h : c ∈ t) (hc : c ≠ sep) :
    ∃ piece ∈ split sep t, c ∈ piece := by
  have hmem : c ∈ (split sep t).flatten := by
    rw [flatten_split]
    exact List.mem_filter.mpr ⟨h, by simpa using hc⟩
  exact List.mem_flatten.mp hmem

theorem split_map {f : Char → Char} (h : ∀ c, f c = sep ↔ c = sep) (t : Text) :
    split sep (t.map f) = (split sep t).map (List.map f) := by
  induction t with
  | nil => rfl
  | cons c t ih =>
    rw [List.map_cons]
    by_cases hc : c = sep
    · rw [split, if_pos ((h c).mpr hc), split, if_pos hc, ih]
      rfl
    · obtain ⟨piece, more, hsplit, hcons⟩ := split_cons_of_ne hc t
      rw [hcons, split, if_neg (mt (h c).mp hc), ih, hsplit]
      rfl

end LinkHarvest.Text
