import LinkHarvest.Retrieval.Dedup
import Mathlib.Data.Finset.Card
import Mathlib.Data.List.Induction
import Mathlib.Data.List.Nodup

/-!
# First occurrences

The links that are kept of a retrieval are its links without repetitions, in the order of their
first occurrences, and none is lost (`deduplicate_firsts`). Everything rests on two equations: the
first occurrences are the list without duplicates of the library, and what was seen before only
filters them.
-/

namespace LinkHarvest.Retrieval

variable {α : Type} [DecidableEq α]

theorem firstsAfter_eq_eraseDups [BEq α] [LawfulBEq α] (seen items : List α) :
    firstsAfter seen items = (items.filter fun x => x ∉ seen).eraseDups := by
  induction items generalizing seen with
  | nil => rfl
  | cons x rest ih =>
    rw [firstsAfter]
    by_cases hx : x ∈ seen
    · rw [if_pos hx, ih, List.filter_cons_of_neg (by simpa using hx)]
    · have hfilter : rest.filter (fun y => decide (y ∉ x :: seen)) =
          (rest.filter fun y => decide (y ∉ seen)).filter fun y => !y == x := by
        rw [List.filter_filter]
        apply List.filter_congr
        intro y _
        by_cases hyx : y = x <;> simp [hyx]
      rw [if_neg hx, ih, List.filter_cons_of_pos (by simpa using hx), List.eraseDups_cons, hfilter]

theorem firsts_eq_eraseDups [BEq α] [LawfulBEq α] (items : List α) :
    firsts items = items.eraseDups := by
  rw [firsts, firstsAfter_eq_eraseDups]
  simp

theorem mem_firstsAfter {seen items : List α} {x : α} :
    x ∈ firstsAfter seen items ↔ x ∈ items ∧ x ∉ seen := by
  induction items generalizing seen with
  | nil => simp [firstsAfter]
  | cons y rest ih =>
    rw [firstsAfter]
    split <;> rename_i hy
    · rw [ih, List.mem_cons]
      refine ⟨fun h => ⟨.inr h.1, h.2⟩, fun h => ⟨h.1.resolve_left ?_, h.2⟩⟩
      rintro rfl
      exact h.2 hy
    · rw [List.mem_cons, ih, List.mem_cons, List.mem_cons, not_or]
      by_cases hxy : x = y
      · subst hxy
        simp [hy]
      · simp [hxy]

@[simp] theorem mem_firsts {items : List α} {x : α} : x ∈ firsts items ↔ x ∈ items := by
  simp [firsts, mem_firstsAfter]

theorem firstsAfter_nodup (seen items : List α) : (firstsAfter seen items).Nodup := by
  induction items generalizing seen with
  | nil => exact List.nodup_nil
  | cons x rest ih =>
    rw [firstsAfter]
    split
    · exact ih seen
    · exact List.nodup_cons.mpr ⟨fun h => (mem_firstsAfter.mp h).2 List.mem_cons_self, ih _⟩

theorem firsts_nodup (items : List α) : (firsts items).Nodup := firstsAfter_nodup [] items

theorem firsts_concat (items : List α) (x : α) :
    firsts (items ++ [x]) = if x ∈ items then firsts items else firsts items ++ [x] := by
  rw [firsts_eq_eraseDups, firsts_eq_eraseDups, List.eraseDups_append]
  by_cases hx : x ∈ items <;> simp [hx, List.removeAll, List.eraseDups_cons]

/-! ## Order -/

theorem firstsAfter_sublist (seen items : List α) : (firstsAfter seen items).Sublist items := by
  induction items generalizing seen with
  | nil => exact .slnil
  | cons x rest ih =>
    rw [firstsAfter]
    split
    · exact (ih seen).cons x
    · exact (ih (x :: seen)).cons_cons x

theorem firsts_sublist (items : List α) : (firsts items).Sublist items :=
  firstsAfter_sublist [] items

theorem firstsAfter_eq_filter [BEq α] [LawfulBEq α] (seen items : List α) :
    firstsAfter seen items = (firsts items).filter fun x => x ∉ seen := by
  induction items generalizing seen with
  | nil => rfl
  | cons x rest ih =>
    have hfirsts : firsts (x :: rest) = x :: (firsts rest).filter fun y => y ∉ [x] := by
      rw [firsts, firstsAfter, if_neg List.not_mem_nil, ih [x]]
    rw [firstsAfter, hfirsts]
    by_cases hx : x ∈ seen
    · rw [if_pos hx, ih seen, List.filter_cons_of_neg (by simpa using hx), List.filter_filter]
      apply List.filter_congr
      intro y _
      by_cases hyx : y = x <;> simp [hyx, hx]
    · rw [if_neg hx, ih (x :: seen), List.filter_cons_of_pos (by simpa using hx),
        List.filter_filter]
      congr 1
      apply List.filter_congr
      intro y _
      by_cases hyx : y = x <;> simp [hyx]

theorem firsts_cons [BEq α] [LawfulBEq α] (x : α) (rest : List α) :
    firsts (x :: rest) = x :: (firsts rest).filter fun y => y ∉ [x] := by
  rw [← firstsAfter_eq_filter, firsts, firstsAfter, if_neg List.not_mem_nil]

theorem firsts_append [BEq α] [LawfulBEq α] (items more : List α) :
    firsts (items ++ more) = firsts items ++ (firsts more).filter fun x => x ∉ items := by
  rw [← firstsAfter_eq_filter, firstsAfter_eq_eraseDups, firsts_eq_eraseDups, firsts_eq_eraseDups,
    List.eraseDups_append]
  simp [List.removeAll]

theorem firsts_of_nodup {items : List α} (h : items.Nodup) : firsts items = items := by
  induction items using List.reverseRecOn with
  | nil => rfl
  | append_singleton items x ih =>
    obtain ⟨hnodup, -, hdisjoint⟩ := List.nodup_append.mp h
    have hnew : x ∉ items := fun hx => hdisjoint x hx x (by simp) rfl
    rw [firsts_concat, if_neg hnew, ih hnodup]

theorem length_firsts (items : List α) : (firsts items).length = items.toFinset.card := by
  rw [← List.toFinset_card_of_nodup (firsts_nodup items)]
  congr 1
  ext x
  simp

theorem idxOf_filter_lt [BEq α] [LawfulBEq α] (items : List α) {p : α → Bool} {x y : α}
    (hx : p x = true) (hy : p y = true) :
    (items.filter p).idxOf x < (items.filter p).idxOf y ↔ items.idxOf x < items.idxOf y := by
  induction items with
  | nil => simp
  | cons z rest ih =>
    by_cases hz : p z = true
    · rw [List.filter_cons_of_pos hz]
      simp only [List.idxOf_cons, cond_eq_ite, beq_iff_eq]
      split <;> split <;> simp [ih]
    · have hzx : z ≠ x := fun h => hz (h ▸ hx)
      have hzy : z ≠ y := fun h => hz (h ▸ hy)
      rw [List.filter_cons_of_neg hz, ih]
      simp [List.idxOf_cons_ne, hzx, hzy]

theorem idxOf_firsts_lt [BEq α] [LawfulBEq α] (items : List α) (x y : α) :
    (firsts items).idxOf x < (firsts items).idxOf y ↔ items.idxOf x < items.idxOf y := by
  induction items with
  | nil => rfl
  | cons z rest ih =>
    rw [firsts_cons]
    simp only [List.idxOf_cons, cond_eq_ite, beq_iff_eq]
    by_cases hzx : z = x
    · subst hzx
      by_cases hzy : z = y <;> simp [hzy]
    · by_cases hzy : z = y
      · simp [hzy]
      have hfilter := idxOf_filter_lt (firsts rest) (p := fun w => decide (w ∉ [z]))
        (by simpa using Ne.symm hzx) (by simpa using Ne.symm hzy)
      rw [if_neg hzx, if_neg hzx, if_neg hzy, if_neg hzy, Nat.add_lt_add_iff_right, hfilter, ih,
        Nat.add_lt_add_iff_right]

/-! ## Links -/

/-- **The links that are kept of a retrieval** are its links, each once, in the order in which they
first occur; the others are counted. What is kept once is kept again, links behind others are kept
unless they occur among them, and reports change nothing. -/
theorem deduplicate_firsts (links more : List Text) :
    (deduplicate links).links.Nodup ∧
      (∀ x, x ∈ (deduplicate links).links ↔ x ∈ links) ∧
      (deduplicate links).links.Sublist links ∧
      (∀ x y, (deduplicate links).links.idxOf x < (deduplicate links).links.idxOf y ↔
        links.idxOf x < links.idxOf y) ∧
      (deduplicate links).removed + links.toFinset.card = links.length ∧
      deduplicate (deduplicate links).links = ⟨(deduplicate links).links, 0⟩ ∧
      (deduplicate (links ++ more)).links =
        (deduplicate links).links ++ (deduplicate more).links.filter (fun x => x ∉ links) ∧
      (dedupe true links).1 = (deduplicate links).links ∧
      (dedupe false links).1 = (deduplicate links).links := by
  have hagain : firsts (firsts links) = firsts links := firsts_of_nodup (firsts_nodup links)
  have hlength : (firsts links).length ≤ links.length := (firsts_sublist links).length_le
  refine ⟨firsts_nodup links, fun x => mem_firsts, firsts_sublist links, idxOf_firsts_lt links,
    ?_, ?_, firsts_append links more, rfl, rfl⟩
  · rw [← length_firsts]
    exact Nat.sub_add_cancel hlength
  · rw [deduplicate, deduplicate, hagain, Nat.sub_self]

example : deduplicate ["b", "a", "b", "c", "a", "a"] = ⟨["b", "a", "c"], 3⟩ := by decide

end LinkHarvest.Retrieval
