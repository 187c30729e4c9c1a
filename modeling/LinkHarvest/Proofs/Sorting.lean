import Mathlib.Data.List.Nodup

/-!
# Sorting by distinct keys

Where keys are distinct, items do not tie, so that there is one way to sort them
(`Sorting.mergeSort_eq`), and picking commutes with sorting (`Sorting.mergeSort_filter`).
-/

namespace LinkHarvest

variable {α β : Type}

/-- A comparison that sorts, and the order in which it puts items of different keys. -/
structure Sorting (le : α → α → Bool) (before : α → α → Prop) (key : α → β) : Prop where
  trans : ∀ a b c, le a b = true → le b c = true → le a c = true
  total : ∀ a b, (le a b || le b a) = true
  strict : ∀ a b, le a b = true → key a ≠ key b → before a b
  asymm : ∀ a b, before a b → ¬ before b a

namespace Sorting

variable {le : α → α → Bool} {before : α → α → Prop} {key : α → β} {l others : List α}

theorem pairwise_mergeSort (h : Sorting le before key) (hnodup : (l.map key).Nodup) :
    (l.mergeSort le).Pairwise before := by
  have hle : (l.mergeSort le).Pairwise fun a b => le a b = true :=
    List.pairwise_mergeSort h.trans h.total l
  have hne : (l.mergeSort le).Pairwise fun a b => key a ≠ key b :=
    List.pairwise_map.mp (((List.mergeSort_perm l le).map key).nodup_iff.mpr hnodup)
  exact (hle.and hne).imp fun {a b} hab => h.strict a b hab.1 hab.2

/-- There is one way to sort items with distinct keys. -/
theorem mergeSort_eq (h : Sorting le before key) (hnodup : (l.map key).Nodup)
    (hperm : others.Perm l) (hothers : others.Pairwise before) : l.mergeSort le = others :=
  List.Perm.eq_of_pairwise (fun a b _ _ hab hba => absurd hba (h.asymm a b hab))
    (h.pairwise_mergeSort hnodup) hothers ((List.mergeSort_perm l le).trans hperm.symm)

theorem mergeSort_filter (h : Sorting le before key) (hnodup : (l.map key).Nodup)
    (p : α → Bool) : (l.filter p).mergeSort le = (l.mergeSort le).filter p :=
  h.mergeSort_eq (hnodup.sublist (List.filter_sublist.map _)) ((List.mergeSort_perm l le).filter p)
    ((h.pairwise_mergeSort hnodup).filter p)

end Sorting

end LinkHarvest
