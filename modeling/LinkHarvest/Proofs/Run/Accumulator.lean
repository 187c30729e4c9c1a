import LinkHarvest.Proofs.Sorting
import LinkHarvest.Run.Outcome
import Mathlib.Algebra.GroupWithZero.Nat
import Mathlib.Data.List.Induction
import Mathlib.Data.List.Nodup

/-!
# Summing up in any order

The outcomes of a run arrive in whatever order the sources end. `result_addAll` says that the order
is lost: the result is the sum of the outcomes in the order of their sources, whose columns
`ofOutcomes_eq` gives in closed form. `result_of_adds` says what this comes to when the outcomes are
those of any distinct sources.
-/

namespace LinkHarvest.Run

namespace BatchResult

/-- The sum of outcomes column by column: failed sources count only as failed. -/
theorem ofOutcomes_eq (total : Nat) (os : List Outcome) :
    ofOutcomes total os =
      { totalSources := total
        totalLinks := ((os.filter Outcome.ok).map Outcome.rawCount).sum
        totalConfigs := ((os.filter Outcome.ok).map fun o => o.configs.length).sum
        failedSources := (os.filter fun o => !o.ok).length
        outcomes := os
        configs := (os.filter Outcome.ok).flatMap Outcome.configs
        output := none } := by
  induction os using List.reverseRecOn with
  | nil => rfl
  | append_singleton os o ih =>
    unfold ofOutcomes at ih ⊢
    rw [List.foldl_append, ih, List.foldl_cons, List.foldl_nil, plus]
    split <;> rename_i h <;> simp [List.filter_append, h]

@[simp] theorem ofOutcomes_outcomes (total : Nat) (os : List Outcome) :
    (ofOutcomes total os).outcomes = os := by
  rw [ofOutcomes_eq]

theorem ofOutcomes_configs (total : Nat) (os : List Outcome) :
    (ofOutcomes total os).configs = (os.filter Outcome.ok).flatMap Outcome.configs := by
  rw [ofOutcomes_eq]

end BatchResult

namespace Accumulator

/-- Adds several outcomes, each for the source at its position. -/
def addAll (a : Accumulator) (es : List (Nat × Outcome)) : Accumulator :=
  es.foldl (fun a e => a.add e.1 e.2) a

variable {a : Accumulator} {es : List (Nat × Outcome)}

theorem addAll_concat (e : Nat × Outcome) :
    a.addAll (es ++ [e]) = (a.addAll es).add e.1 e.2 := by
  simp [addAll]

@[simp] theorem addAll_total : (a.addAll es).total = a.total := by
  induction es using List.reverseRecOn with
  | nil => rfl
  | append_singleton es e ih => rw [addAll_concat, add, ih]

theorem arrived_add {position : Nat} {o : Outcome} (h : position ∉ a.arrived.map Prod.fst) :
    (a.add position o).arrived = a.arrived ++ [(position, o)] := by
  have hkept : a.arrived.filter (fun e => decide (e.1 ≠ position)) = a.arrived := by
    apply List.filter_eq_self.mpr
    intro e he
    apply decide_eq_true
    intro heq
    exact h (List.mem_map.mpr ⟨e, he, heq⟩)
  rw [add, hkept]

/-- Nothing is overwritten as long as every position comes once. -/
theorem arrived_addAll (total : Nat) (h : (es.map Prod.fst).Nodup) :
    ((start total).addAll es).arrived = es := by
  induction es using List.reverseRecOn with
  | nil => rfl
  | append_singleton es e ih =>
    rw [List.map_append, List.nodup_append] at h
    have ih := ih h.1
    have hnew : e.1 ∉ ((start total).addAll es).arrived.map Prod.fst := by
      rw [ih]
      exact fun hmem => h.2.2 e.1 hmem e.1 (by simp) rfl
    rw [addAll_concat, arrived_add hnew, ih]

/-- The outcomes under the positions of their sources. -/
def positioned (os : List Outcome) : List (Nat × Outcome) := os.zipIdx.map Prod.swap

theorem positioned_fst (os : List Outcome) :
    (positioned os).map Prod.fst = List.range' 0 os.length := by
  rw [positioned, List.map_map, ← List.zipIdx_map_snd]
  rfl

theorem positioned_snd (os : List Outcome) : (positioned os).map Prod.snd = os := by
  rw [positioned, List.map_map]
  exact List.zipIdx_map_fst 0 os

theorem positioned_pairwise (os : List Outcome) :
    (positioned os).Pairwise fun x y => x.1 < y.1 := by
  have h : ((positioned os).map Prod.fst).Pairwise (· < ·) := by
    rw [positioned_fst]
    exact List.pairwise_lt_range'
  exact List.pairwise_map.mp h

def byPosition (es : List (Nat × Outcome)) : List (Nat × Outcome) :=
  es.mergeSort fun x y => x.1 ≤ y.1

theorem byPosition_perm (es : List (Nat × Outcome)) : (byPosition es).Perm es :=
  List.mergeSort_perm es _

theorem sorting_positions :
    Sorting (fun x y : Nat × Outcome => decide (x.1 ≤ y.1)) (fun x y => x.1 < y.1) Prod.fst where
  trans := by simp; omega
  total := by simp; omega
  strict := fun x y hle hne => Nat.lt_of_le_of_ne (of_decide_eq_true hle) hne
  asymm := fun x y => Nat.lt_asymm

theorem byPosition_ascends (h : (es.map Prod.fst).Nodup) :
    (byPosition es).Pairwise fun x y => x.1 < y.1 :=
  sorting_positions.pairwise_mergeSort h

theorem byPosition_eq {fs : List (Nat × Outcome)} (h : es.Perm fs)
    (hascends : fs.Pairwise fun x y => x.1 < y.1) : byPosition es = fs := by
  have hnodup : (es.map Prod.fst).Nodup := by
    rw [(h.map Prod.fst).nodup_iff]
    exact List.pairwise_map.mpr (hascends.imp Nat.ne_of_lt)
  exact sorting_positions.mergeSort_eq hnodup h.symm hascends

theorem outcomes_of_perm {os : List Outcome} (h : a.arrived.Perm (positioned os)) :
    a.outcomes = os := by
  have hsorted := byPosition_eq h (positioned_pairwise os)
  rw [← positioned_snd os, ← hsorted]
  rfl

/-- **The order of arrival does not matter.** -/
theorem result_addAll {os : List Outcome} {total : Nat} (h : es.Perm (positioned os)) :
    ((start total).addAll es).result = .ofOutcomes total os := by
  have hnodup : (es.map Prod.fst).Nodup := by
    rw [(h.map Prod.fst).nodup_iff, positioned_fst]
    exact List.nodup_range'
  have harrived := arrived_addAll total hnodup
  rw [result, addAll_total, outcomes_of_perm (harrived ▸ h)]
  rfl

/-! ## Any positions -/

theorem result_addAll_byPosition (total : Nat) (h : (es.map Prod.fst).Nodup) :
    ((start total).addAll es).result = .ofOutcomes total ((byPosition es).map Prod.snd) := by
  rw [result, outcomes, addAll_total, arrived_addAll total h]
  rfl

/-- What a result says of the outcomes that were added, each under the position of its source:
the number of sources that failed, and the sums over those that did not. -/
structure Summary (total : Nat) (entries : List (Nat × Outcome)) (r : BatchResult) : Prop where
  outcomes : r.outcomes = entries.map Prod.snd
  totalSources : r.totalSources = total
  failedSources : r.failedSources = r.outcomes.countP fun o => o.problem.isSome
  totalLinks :
    r.totalLinks = ((r.outcomes.filter fun o => o.problem.isNone).map Outcome.rawCount).sum
  totalConfigs : r.totalConfigs =
    ((r.outcomes.filter fun o => o.problem.isNone).map fun o => o.configs.length).sum
  configs : r.configs = (r.outcomes.filter fun o => o.problem.isNone).flatMap Outcome.configs
  configs_length : r.configs.length = r.totalConfigs
  ok : r.ok = true ↔ ∀ o ∈ r.outcomes, o.problem = none
  succeeded : (∀ position, position ∈ entries.map Prod.fst ↔ position < total) →
    r.succeededSources = r.outcomes.countP fun o => o.problem.isNone

theorem length_of_positions {total : Nat} (hnodup : (es.map Prod.fst).Nodup)
    (h : ∀ position, position ∈ es.map Prod.fst ↔ position < total) : es.length = total := by
  have hperm : (es.map Prod.fst).Perm (List.range total) := by
    rw [List.perm_ext_iff_of_nodup hnodup List.nodup_range]
    intro position
    rw [h, List.mem_range]
  simpa using hperm.length_eq

theorem summary_ofOutcomes (total : Nat) (hnodup : (es.map Prod.fst).Nodup) :
    Summary total es (.ofOutcomes total (es.map Prod.snd)) := by
  rw [BatchResult.ofOutcomes_eq]
  generalize hos : es.map Prod.snd = os
  have hfailed : (os.filter fun o => !o.ok).length = os.countP fun o => o.problem.isSome := by
    rw [List.countP_eq_length_filter]
    simp [Outcome.ok]
  refine ⟨hos.symm, rfl, hfailed, rfl, rfl, rfl, List.length_flatMap, ?_, fun h => ?_⟩
  · have hzero : ((os.filter fun o => !o.ok).length == 0) = true ↔ ∀ o ∈ os, o.problem = none := by
      rw [hfailed, beq_iff_eq, List.countP_eq_zero]
      simp
    exact hzero
  · have hlength : os.length = total := by
      rw [← hos, List.length_map, length_of_positions hnodup h]
    have hsplit : os.length = (os.countP fun o => o.problem.isSome) +
        os.countP fun o => o.problem.isNone := by
      rw [List.length_eq_countP_add_countP fun o : Outcome => o.problem.isSome]
      congr 2
      funext o
      cases o.problem <;> rfl
    rw [BatchResult.succeededSources, hfailed]
    dsimp only
    omega

/-- **What a run sums up.** Outcomes of distinct sources come to one result, in whichever order
they are added: the outcomes stand in it by the positions of their sources, and its numbers and
configs are the sums over them. -/
theorem result_of_adds {adds : List (Nat × Outcome)} (total : Nat)
    (h : (adds.map Prod.fst).Nodup) :
    ∃ entries : List (Nat × Outcome), entries.Perm adds ∧
      (entries.Pairwise fun x y => x.1 < y.1) ∧
      ∀ order : List (Nat × Outcome), order.Perm adds →
        Summary total entries ((start total).addAll order).result := by
  have hperm := byPosition_perm adds
  have hascends := byPosition_ascends h
  refine ⟨byPosition adds, hperm, hascends, fun order horder => ?_⟩
  have hsame : byPosition order = byPosition adds :=
    byPosition_eq (horder.trans hperm.symm) hascends
  have hnodup : (order.map Prod.fst).Nodup := (horder.map Prod.fst).nodup_iff.mpr h
  have hentries : ((byPosition adds).map Prod.fst).Nodup :=
    (hperm.map Prod.fst).nodup_iff.mpr h
  rw [result_addAll_byPosition total hnodup, hsame]
  exact summary_ofOutcomes total hentries

/-- The outcomes of three sources, of which the first fails after five links were counted. -/
def failingFirst : List Outcome :=
  let draft (link : Text) : Draft := ⟨none, some link, none, none, none, none⟩
  let problem : SourceProblem := .store (.refused "disk full")
  [⟨"http://a/", "a", none, [], 5, some problem⟩,
    ⟨"http://b/", "b", none, [draft "baz"], 1, none⟩,
    ⟨"http://c/", "c", none, [draft "foo", draft "bar"], 3, none⟩]

/-- They are added from the last to the first. The links of the failed source do not count, and
those of the others stand in the order of the sources. -/
theorem result_of_adds_failingFirst :
    let adds := (positioned failingFirst).reverse
    ((start 3).addAll adds).result.totalLinks = 4 ∧
      ((start 3).addAll adds).result.configs.map Draft.link =
        [some "baz".toList, some "foo".toList, some "bar".toList] ∧
      ((start 3).addAll adds).result.succeededSources = 2 ∧
      (adds.map Prod.fst).Nodup ∧
      ∃ entries : List (Nat × Outcome), entries.Perm adds ∧
        (entries.Pairwise fun x y => x.1 < y.1) ∧
        ∀ order : List (Nat × Outcome), order.Perm adds →
          Summary 3 entries ((start 3).addAll order).result := by
  have hresult : ((start 3).addAll (positioned failingFirst).reverse).result =
      .ofOutcomes 3 failingFirst := result_addAll (List.reverse_perm _)
  intro adds
  refine ⟨?_, ?_, ?_, by decide, result_of_adds 3 (by decide)⟩ <;>
    rw [hresult] <;> decide +kernel

end Accumulator

end LinkHarvest.Run
