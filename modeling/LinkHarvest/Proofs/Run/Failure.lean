import LinkHarvest.Proofs.Run.Selection

/-!
# Runs that fail

A run of a single source either gives a result or leaves no trace: `single_run_all_or_nothing`. The
source can fail before its request, at the response, or when its links are stored; `problem?` says
with which problem, and a source that has one writes no row and marks no subscription
(`quiet_of_problem`). A missing record is met only where the sources are selected, before anything
is sent: `run_of_notFound`, in whatever mode.
-/

namespace LinkHarvest

/-! ## Why rows cannot be written -/

namespace Store

open Fallible

variable {s : Store} {now : Instant} {p : StoreProblem}

theorem family_of_checkRefusal {call : StoreCall} (h : s.checkRefusal call = .error p) :
    p.family = .store := by
  unfold checkRefusal at h
  split at h <;> cases h
  rfl

theorem family_of_checkOpen {during : StoreActivity} (h : s.checkOpen during = .error p) :
    p.family = .store := by
  unfold checkOpen at h
  split at h <;> cases h
  rfl

theorem family_of_checkInteger {owner : Option Int}
    (h : (owner.map checkInteger).getD (.ok ()) = .error p) : p.family = .overflow := by
  cases owner with
  | none => cases h
  | some n =>
    rw [Option.map_some, Option.getD_some, checkInteger] at h
    split at h <;> cases h
    rfl

theorem family_of_instant {t : Timestamp} (h : instant t = .error p) : p.family = .overflow := by
  unfold instant at h
  split at h <;> cases h
  rfl

theorem family_of_dated {d : Draft} (h : dated now d = .error p) : p.family = .overflow := by
  rcases bind_eq_error.mp h with h | ⟨_, -, h⟩
  · exact family_of_instant h
  · rcases bind_eq_error.mp h with h | ⟨_, -, h⟩
    · exact family_of_instant h
    · cases h

theorem family_of_columnText {t : LooseText} (h : columnText t = .error p) :
    p.family = .encoding := by
  unfold columnText at h
  split at h <;> cases h
  rfl

theorem family_of_rowWith {knows : Option Int → Bool} {isLeft : Bool} {d : Dated}
    {remark : Option Text} (h : rowWith knows isLeft d remark = .error p) : p.family = .store := by
  have hconstraint : ∃ during c, p = .constraint during c := by
    unfold rowWith at h
    split at h
    · split at h
      · cases h
        exact ⟨_, _, rfl⟩
      · split at h <;> cases h
        exact ⟨_, _, rfl⟩
    · cases h
      exact ⟨_, _, rfl⟩
  obtain ⟨during, c, rfl⟩ := hconstraint
  rfl

theorem family_of_rowFor {knows : Option Int → Bool} {isLeft : Bool} {d : Dated}
    (h : rowFor knows isLeft d = .error p) : p.family ≠ .notFound := by
  rcases bind_eq_error.mp h with h | ⟨_, -, h⟩
  · rw [family_of_checkInteger h]
    decide
  · split at h
    · rw [family_of_rowWith h]
      decide
    · rcases bind_eq_error.mp h with h | ⟨_, -, h⟩
      · rw [family_of_columnText h]
        decide
      · rw [family_of_rowWith h]
        decide

/-- What keeps an upsert from being written is no missing record. -/
theorem family_of_rowsFor {drafts : List Draft} (h : s.rowsFor now drafts = .error p) :
    p.family ≠ .notFound := by
  rcases bind_eq_error.mp h with h | ⟨_, -, h⟩
  · rw [family_of_checkRefusal h]
    decide
  rcases bind_eq_error.mp h with h | ⟨all, -, h⟩
  · obtain ⟨d, -, h⟩ := exists_mem_of_mapM_eq_error h
    rw [family_of_dated h]
    decide
  cases hall : all.isEmpty with
  | true =>
    rw [hall] at h
    cases h
  | false =>
    rw [hall] at h
    rcases bind_eq_error.mp h with h | ⟨_, -, h⟩
    · rw [family_of_checkOpen h]
      decide
    · obtain ⟨d, -, isLeft, h⟩ := exists_of_rowsFrom_eq_error h
      exact family_of_rowFor h

end Store

namespace Run

open Fallible

/-- The problem names a record that is missing. -/
def Problem.isNotFound : Problem → Bool
  | .source (.store p) => p.family == .notFound
  | _ => false

/-- The problem that a source comes to: that of its outcome, or a value that no store can hold. -/
def Source.problem? (setting : Setting) (options : Options.FetchOptions) (s : State)
    (source : Source) : Option SourceProblem :=
  match source.verdict setting options s with
  | .error p => some (.store p)
  | .ok o => o.problem

variable {setting : Setting} {options : Options.FetchOptions} {s t : State} {source : Source}
  {sources : List Source} {files : Files}

/-! ## One source -/

theorem family_of_rows {lines : List Text} {p : StoreProblem}
    (h : source.rows setting s lines = .error p) : p.family ≠ .notFound := by
  unfold Source.rows at h
  split at h
  · cases h
  · exact Store.family_of_rowsFor h

theorem Source.problem?_cases {p : SourceProblem} (h : source.problem? setting options s = some p) :
    (∃ q, source.served setting options s = .error q ∧ p = .retrieval q) ∨
      ∃ lines q, source.served setting options s = .ok lines ∧
        source.rows setting s lines = .error q ∧ p = .store q := by
  unfold problem? verdict at h
  cases hserved : source.served setting options s with
  | error q =>
    rw [hserved] at h
    cases h
    exact .inl ⟨q, rfl, rfl⟩
  | ok lines =>
    rw [hserved] at h
    dsimp only at h
    cases hrows : source.rows setting s lines with
    | ok rows =>
      rw [hrows] at h
      cases h
    | error q =>
      rw [hrows] at h
      refine .inr ⟨lines, q, rfl, hrows, ?_⟩
      dsimp only at h
      cases hreported : q.isReported <;> rw [hreported] at h <;> exact (Option.some.inj h).symm

/-- **A source with a problem does nothing to the store.** -/
theorem Source.quiet_of_problem {p : SourceProblem}
    (h : source.problem? setting options s = some p) :
    source.writes setting options s = [] ∧ source.marks setting options s = [] := by
  rcases problem?_cases h with ⟨q, hserved, -⟩ | ⟨lines, q, hserved, hrows, -⟩
  · exact ⟨writes_of_unserved hserved, marks_of_unserved hserved⟩
  · refine ⟨?_, marks_of_refused hserved hrows⟩
    rw [writes_of_served hserved, hrows]
    rfl

theorem Source.found_of_problem {p : SourceProblem}
    (h : source.problem? setting options s = some p) : (Problem.source p).isNotFound = false := by
  rcases problem?_cases h with ⟨q, -, rfl⟩ | ⟨lines, q, -, hrows, rfl⟩
  · rfl
  · exact beq_eq_false_iff_ne.mpr (family_of_rows hrows)

theorem After.store_of_quiet (h : After setting options s t [source])
    (hwrites : source.writes setting options s = [])
    (hmarks : source.marks setting options s = []) : t.store = s.store := by
  have hpast : t.store = (s.past setting options source).store := h.store
  rw [hpast, State.past_store, hwrites, hmarks, Database.putAll_nil, Database.stamped_nil]

/-! ## The run -/

theorem run_of_error {p : Problem} (h : (run setting options files s).result = .error p) :
    ((collect setting options files s).1 = .error p ∧
        run setting options files s = ⟨.error p, files, (collect setting options files s).2⟩) ∨
      ∃ q, p = .export q := by
  unfold run at h ⊢
  generalize collect setting options files s = part at h ⊢
  obtain ⟨result, t⟩ := part
  cases result with
  | error q =>
    cases h
    exact .inl ⟨rfl, rfl⟩
  | ok r =>
    dsimp only at h
    split at h
    · split at h
      · unfold exportResult at h
        split at h <;> cases h
        exact .inr ⟨_, rfl⟩
      · cases h
    · cases h

theorem collect_single (hmode : isSingle options.mode = true)
    (h : selected options files s.store = .ok sources) :
    ∃ source, sources = [source] ∧
      After setting options s (collect setting options files s).2 [source] ∧
      (collect setting options files s).1 =
        resultOf options.mode ([source].mapM (Source.verdict setting options s)) := by
  unfold selected at h
  unfold collect
  cases hname : options.mode with
  | byId =>
    rw [hname] at h
    dsimp only at h ⊢
    unfold byId
    cases hget : s.store.get (options.subscription.getD 0) <;> rw [hget] at h <;> cases h
    exact ⟨_, rfl, single_of_verdict.2, single_of_verdict.1⟩
  | byUrl =>
    rw [hname] at h
    cases h
    exact ⟨_, rfl, single_of_verdict.2, single_of_verdict.1⟩
  | allEnabled =>
    rw [hname] at hmode
    cases hmode
  | byFile =>
    rw [hname] at hmode
    cases hmode

theorem resultOf_singleton (hmode : isSingle options.mode = true) (source : Source) :
    (∃ p, source.problem? setting options s = some p ∧
        resultOf options.mode ([source].mapM (Source.verdict setting options s)) =
          .error (.source p)) ∨
      ∃ o, o.ok = true ∧ source.verdict setting options s = .ok o ∧
        resultOf options.mode ([source].mapM (Source.verdict setting options s)) =
          .ok (.ofOutcomes 1 [o]) := by
  unfold Source.problem? resultOf
  rw [List.mapM_cons, List.mapM_nil, hmode]
  cases hverdict : source.verdict setting options s with
  | error p => exact .inl ⟨_, rfl, rfl⟩
  | ok o =>
    cases hproblem : o.problem with
    | some p => exact .inl ⟨p, hproblem, by simp [hproblem]⟩
    | none => exact .inr ⟨o, by simp [Outcome.ok, hproblem], rfl, by simp [hproblem]⟩

/-- **A run of a single source gives a result, or leaves no trace.** When the source fails, the
store and all files are as they were before, and if a record is missing, not even a request has gone
out. A result is one of a single source that did not fail. -/
theorem single_run_all_or_nothing (setting : Setting) (options : Options.FetchOptions)
    (files : Files) (s : State) (hmode : isSingle options.mode = true) :
    (∀ p, (run setting options files s).result = .error (.source p) →
      (run setting options files s).state.store = s.store ∧
        (run setting options files s).files = files ∧
        ((Problem.source p).isNotFound = true →
          (run setting options files s).state.sent = s.sent)) ∧
      ∀ r, (run setting options files s).result = .ok r →
        r.failedSources = 0 ∧ r.totalSources = 1 := by
  constructor
  · intro p h
    obtain ⟨hcollect, hrun⟩ | ⟨q, hq⟩ := run_of_error h
    · rw [hrun]
      cases hselected : selected options files s.store with
      | error q =>
        rw [collect_of_selected_error hselected]
        exact ⟨rfl, rfl, fun _ => rfl⟩
      | ok sources =>
        obtain ⟨source, -, hafter, hresult⟩ :=
          @collect_single setting options s _ files hmode hselected
        rw [hcollect] at hresult
        obtain ⟨p', hproblem, herror⟩ | ⟨o, -, -, hok⟩ :=
          @resultOf_singleton setting options s hmode source
        · cases hresult.trans herror
          obtain ⟨hwrites, hmarks⟩ := Source.quiet_of_problem hproblem
          refine ⟨hafter.store_of_quiet hwrites hmarks, rfl, ?_⟩
          -- The source was found: what it fails on is no missing record.
          intro hmissing
          rw [Source.found_of_problem hproblem] at hmissing
          cases hmissing
        · cases hresult.trans hok
    · cases hq
  · intro r h
    obtain ⟨output, hcollect⟩ := collect_of_run h
    cases hselected : selected options files s.store with
    | error q =>
      rw [collect_of_selected_error hselected] at hcollect
      cases hcollect
    | ok sources =>
      obtain ⟨source, -, -, hresult⟩ := @collect_single setting options s _ files hmode hselected
      rw [hcollect] at hresult
      obtain ⟨p', -, herror⟩ | ⟨o, hok, -, hr⟩ :=
        @resultOf_singleton setting options s hmode source
      · cases hresult.trans herror
      · have hr : ({ r with output } : BatchResult) = .ofOutcomes 1 [o] :=
          Except.ok.inj (hresult.trans hr)
        rw [BatchResult.ofOutcomes_eq] at hr
        refine ⟨?_, congrArg BatchResult.totalSources hr⟩
        refine (congrArg BatchResult.failedSources hr).trans ?_
        simp [hok]

/-- A store that can be read, while there is no room for more. -/
def fullDisk : Store :=
  { oneSubscription with
    refusal := fun
      | .upsert _ => some "database or disk is full"
      | _ => none }

/-- The links of the first subscription are written to a file. -/
def intoFile : Options.FetchOptions :=
  ⟨some 1, none, false, none, none, none, 3, some (.ofText "links.txt")⟩

/-- The links are there, but cannot be stored: then they are not written to the file either. -/
theorem single_run_on_full_disk :
    let finished := run threeLines intoFile ⟨[], []⟩ (.start fullDisk [])
    finished.result = .error (.source (.store (.refused "database or disk is full"))) ∧
      finished.state.sent = [⟨"GET", "http://a/", none⟩] ∧
      finished.state.store = fullDisk ∧ finished.files = ⟨[], []⟩ := by
  intro finished
  have hresult : finished.result =
      .error (.source (.store (.refused "database or disk is full"))) := by decide +kernel
  obtain ⟨hfailed, -⟩ := single_run_all_or_nothing threeLines intoFile ⟨[], []⟩
    (.start fullDisk []) rfl
  obtain ⟨hstore, hfiles, -⟩ := hfailed _ hresult
  exact ⟨hresult, by decide +kernel, hstore, hfiles⟩

/-! ## Missing records -/

theorem Source.found_of_verdict {p : StoreProblem}
    (h : source.verdict setting options s = .error p) : p.family ≠ .notFound := by
  have hproblem : source.problem? setting options s = some (.store p) := by rw [problem?, h]
  exact beq_eq_false_iff_ne.mp (found_of_problem hproblem)

theorem resultOf_found {mode : Options.Mode} {p : Problem}
    (h : resultOf mode
      ((turns setting options s sources).mapM (Turn.verdict setting options)) = .error p)
    (hmode : isSingle mode = false) : p.isNotFound = false := by
  unfold resultOf at h
  cases hverdicts : (turns setting options s sources).mapM (Turn.verdict setting options) with
  | ok os =>
    rw [hverdicts, hmode] at h
    cases h
  | error q =>
    rw [hverdicts] at h
    cases h
    obtain ⟨turn, -, hverdict⟩ := exists_mem_of_mapM_eq_error hverdicts
    exact beq_eq_false_iff_ne.mpr (Source.found_of_verdict hverdict)

/-- **A run in which a record is missing does nothing at all.** -/
theorem run_of_notFound {p : Problem} (hworkers : WorkersInRange options)
    (h : (run setting options files s).result = .error p) (hmissing : p.isNotFound = true) :
    run setting options files s = ⟨.error p, files, s⟩ := by
  obtain ⟨hcollect, hrun⟩ | ⟨q, rfl⟩ := run_of_error h
  · cases hselected : selected options files s.store with
    | error q =>
      rw [collect_of_selected_error hselected] at hcollect
      cases hcollect
      exact run_of_selected_error hselected
    | ok sources =>
      have hfound : p.isNotFound = false := by
        rw [(collect_of_selected hworkers hselected).1] at hcollect
        cases hmode : isSingle options.mode with
        | false => exact resultOf_found hcollect hmode
        | true =>
          obtain ⟨source, rfl, -, -⟩ :=
            @collect_single setting options s _ files hmode hselected
          obtain ⟨p', hproblem, herror⟩ | ⟨o, -, -, hok⟩ :=
            @resultOf_singleton setting options s hmode source
          · cases hcollect.symm.trans herror
            exact Source.found_of_problem hproblem
          · cases hcollect.symm.trans hok
      rw [hfound] at hmissing
      cases hmissing
  · cases hmissing

end Run

end LinkHarvest
