import LinkHarvest.Proofs.Run.Storable
import LinkHarvest.Proofs.Run.Turns

/-!
# What sources write

The verdict on a source says what the source does to the store in its turn: the rows that it writes
are the values of the configs in its outcome, and it marks its subscription when there are any,
unless the store refuses (`effected_of_verdict`). A failed source does neither.
-/

namespace LinkHarvest

namespace Run

open Fallible

variable {setting : Setting} {options : Options.FetchOptions} {s : State} {source : Source}
  {sources : List Source} {turn : Turn} {all : List Turn} {o : Outcome} {lines : List Text}
  {os : List Outcome}

/-! ## One source -/

/-- What a source with an outcome leaves in the store in its turn, in a run from the state `s`. -/
structure Effected (setting : Setting) (options : Options.FetchOptions) (s : State) (turn : Turn)
    (o : Outcome) : Prop where
  failed : o.ok = false → o.configs = []
  writes : turn.writes setting options = o.configs.map (Store.values setting.now)
  stored : ∀ d ∈ o.configs, Store.Stored s.store setting.now d
  subscription : o.subscription = turn.source.subscription
  kept : ∀ d ∈ o.configs, ∃ link, Kept setting turn.source.subscription link d
  seen : ∀ d ∈ o.configs, (Store.values setting.now d).lastSeenAt = setting.now
  marks : ∀ id, id ∈ turn.marks setting options ↔
    s.store.refusal .mark = none ∧ o.ok = true ∧ o.subscription = some id ∧ o.configs ≠ []

theorem mem_stamps (h : ∀ d ∈ source.drafts setting lines, Store.Stored s.store setting.now d)
    (id : Int) :
    id ∈ source.stamps setting s lines ↔
      s.store.refusal .mark = none ∧ source.subscription = some id ∧
        source.drafts setting lines ≠ [] := by
  unfold Source.stamps
  cases howner : source.subscription with
  | none => simp
  | some owner =>
    cases hdrafts : source.drafts setting lines with
    | nil => simp
    | cons d ds =>
      have hd : d ∈ source.drafts setting lines := hdrafts ▸ List.mem_cons_self
      have hstamp := (h d hd).stampFor_eq ((Source.owner_of_mem_drafts hd).trans howner)
        (Source.lastSeenAt_of_mem_drafts hd)
      dsimp only [List.isEmpty_cons]
      rw [hstamp, Store.checkRefusal]
      cases s.store.refusal .mark with
      | some message => simp
      | none => simp [eq_comm]

theorem seen_of_stored {d : Draft} (h : Store.Stored s.store setting.now d)
    (hseen : d.lastSeenAt = some setting.now.timestamp) :
    (Store.values setting.now d).lastSeenAt = setting.now := by
  obtain ⟨i, hi⟩ := h.seen
  rw [hseen, Option.getD_some] at hi
  have hi := Store.instant_eq_ok hi
  obtain rfl := Instant.eq_of_ofTimestamp?_timestamp hi
  rw [Store.values, hseen, Option.getD_some, hi, Option.getD_some]

/-- **What a source with an outcome has done to the store.** -/
theorem effected_of_verdict (hframe : turn.state.frame options.proxy = s.frame options.proxy)
    (h : turn.verdict setting options = .ok o) : Effected setting options s turn o := by
  obtain ⟨source, t⟩ := turn
  have hframe : t.store.frame = s.store.frame := State.frame_store hframe
  have hnothing : ∀ rawCount problem,
      source.writes setting options t = [] → source.marks setting options t = [] →
      Effected setting options s ⟨source, t⟩ (source.outcome [] rawCount (some problem)) := by
    intro rawCount problem hwrites hmarks
    refine ⟨fun _ => rfl, hwrites, by simp [Source.outcome], rfl, by simp [Source.outcome],
      by simp [Source.outcome], ?_⟩
    intro id
    rw [Turn.marks, hmarks]
    simp [Source.outcome]
  rcases Source.verdict_cases h with ⟨p, hserved, rfl⟩ | ⟨lines, p, hserved, hrows, -, rfl⟩ |
    ⟨lines, rows, hserved, hrows, rfl⟩
  · exact hnothing _ _ (Source.writes_of_unserved hserved) (Source.marks_of_unserved hserved)
  · refine hnothing _ _ ?_ (Source.marks_of_refused hserved hrows)
    rw [Source.writes_of_served hserved, hrows]
    rfl
  · obtain ⟨hvalues, -, hstored⟩ := Source.rows_eq_ok hrows
    have hrefusal : t.store.refusal = s.store.refusal := (Store.Frame.mk.injEq .. ▸ hframe).2.1
    refine ⟨fun hok => Bool.noConfusion hok, ?_, fun d hd => (hstored d hd).congr hframe, rfl, ?_,
      ?_, ?_⟩
    · exact (Source.writes_of_served hserved).trans (by rw [hrows]; exact hvalues)
    · intro d hd
      obtain ⟨link, -, rfl⟩ := List.mem_map.mp hd
      exact ⟨link, Job.draft_kept _⟩
    · intro d hd
      exact seen_of_stored (hstored d hd) (Source.lastSeenAt_of_mem_drafts hd)
    · intro id
      rw [Turn.marks, Source.marks_of_stored hserved hrows, mem_stamps hstored, hrefusal]
      simp [Source.outcome, Outcome.ok]

/-! ## All sources -/

theorem effected_of_verdicts
    (h : (turns setting options s sources).mapM (Turn.verdict setting options) = .ok os) :
    List.Forall₂ (Effected setting options s) (turns setting options s sources) os :=
  ((List.forall₂_and_left _ _).mpr ⟨fun _ hturn => hturn, mapM_eq_ok h⟩).imp fun _ _ ho =>
    effected_of_verdict (frame_of_mem_turns ho.1 _) ho.2

theorem flatMap_writes (h : List.Forall₂ (Effected setting options s) all os) :
    all.flatMap (Turn.writes setting options) =
      (os.flatMap Outcome.configs).map (Store.values setting.now) := by
  induction h with
  | nil => rfl
  | cons ho _ ih => rw [List.flatMap_cons, List.flatMap_cons, List.map_append, ho.writes, ih]

theorem flatMap_configs (h : ∀ o ∈ os, o.ok = false → o.configs = []) :
    (os.filter Outcome.ok).flatMap Outcome.configs = os.flatMap Outcome.configs := by
  induction os with
  | nil => rfl
  | cons o os ih =>
    obtain ⟨ho, hos⟩ := List.forall_mem_cons.mp h
    cases hok : o.ok with
    | true => rw [List.filter_cons_of_pos hok, List.flatMap_cons, List.flatMap_cons, ih hos]
    | false =>
      rw [List.filter_cons_of_neg (by simp [hok]), ih hos, List.flatMap_cons, ho hok,
        List.nil_append]

theorem mem_flatMap_marks (h : List.Forall₂ (Effected setting options s) all os) (id : Int) :
    id ∈ all.flatMap (Turn.marks setting options) ↔
      s.store.refusal .mark = none ∧
        ∃ o ∈ os, o.ok = true ∧ o.subscription = some id ∧ o.configs ≠ [] := by
  induction h with
  | nil => simp
  | cons ho _ ih =>
    rw [List.flatMap_cons, List.mem_append, ho.marks, ih]
    simp only [List.mem_cons, exists_eq_or_imp]
    exact and_or_left.symm

end Run

end LinkHarvest
