import LinkHarvest.Proofs.Run.Accumulator
import LinkHarvest.Proofs.Run.Turns
import LinkHarvest.Run.Harvest

/-!
# Several sources in turn

A run of several sources comes to the verdicts on its turns: `fanOut_result` says that it sums up
their outcomes, unless some source has a value that no store can hold, and `fanOut_after` that it
leaves the store as the turns do, with their rows in the order of the sources. What is kept while the
sources are processed is `Collected`.
-/

namespace LinkHarvest.Run

open Fallible

variable {setting : Setting} {options : Options.FetchOptions} {s : State}
  {sources : List Source}

/-- What is known once some jobs of a run are done. -/
structure Collected (setting : Setting) (options : Options.FetchOptions) (s : State) (total : Nat)
    (sources : List Source) (p : Progress) : Prop where
  outcomes : ∀ os,
    (turns setting options s sources).mapM (Turn.verdict setting options) = .ok os →
      p.escaped = none ∧
        p.accumulator = (Accumulator.start total).addAll (Accumulator.positioned os)
  escaped : ∀ e,
    (turns setting options s sources).mapM (Turn.verdict setting options) = .error e →
      p.escaped = some e
  frame : p.state.frame options.proxy = s.frame options.proxy
  store : p.state.store = (s.pastAll setting options sources).store

theorem Accumulator.positioned_concat (os : List Outcome) (o : Outcome) :
    positioned (os ++ [o]) = positioned os ++ [(os.length, o)] := by
  simp [positioned, List.zipIdx_append]

theorem mapM_concat_ok {ε α β : Type} {f : α → Except ε β} {l : List α} {a : α} {bs : List β}
    (h : (l ++ [a]).mapM f = .ok bs) :
    ∃ init b, l.mapM f = .ok init ∧ f a = .ok b ∧ bs = init ++ [b] := by
  rw [List.mapM_append, List.mapM_cons, List.mapM_nil] at h
  obtain ⟨init, hinit, h⟩ := bind_eq_ok.mp h
  obtain ⟨last, hlast, h⟩ := bind_eq_ok.mp h
  obtain ⟨b, hb, hlast⟩ := bind_eq_ok.mp hlast
  cases hlast
  cases h
  exact ⟨init, b, hinit, hb, rfl⟩

theorem mapM_concat_error {ε α β : Type} {f : α → Except ε β} {l : List α} {a : α} {e : ε}
    (h : (l ++ [a]).mapM f = .error e) :
    l.mapM f = .error e ∨ ∃ init, l.mapM f = .ok init ∧ f a = .error e := by
  rw [List.mapM_append, List.mapM_cons, List.mapM_nil] at h
  rcases bind_eq_error.mp h with h | ⟨init, hinit, h⟩
  · exact .inl h
  · refine .inr ⟨init, hinit, ?_⟩
    rcases bind_eq_error.mp h with h | ⟨last, -, h⟩
    · rcases bind_eq_error.mp h with h | ⟨b, -, h⟩
      · exact h
      · cases h
    · cases h

theorem Collected.next {total : Nat} {p : Progress}
    (h : Collected setting options s total sources p) (j : Job) :
    Collected setting options s total (sources ++ [j.source])
      (p.next setting options (j, sources.length)) := by
  obtain ⟨hresult, hframe, hstore⟩ := j.process_eq setting options p.state
  -- The job finds the state that its turn has, but for what plays no part in it.
  have hturn : (Turn.mk j.source p.state).Alike setting options
      ⟨j.source, s.pastAll setting options sources⟩ := by
    refine Turn.alike_of_numbers (h.frame.trans (State.pastAll_frame _).symm) ?_
    apply Store.sameNumbers_of_eq
    rw [h.store]
  have hturns : turns setting options s (sources ++ [j.source]) =
      turns setting options s sources ++ [⟨j.source, s.pastAll setting options sources⟩] :=
    turns_append
  unfold Progress.next
  dsimp only
  generalize j.process setting options p.state = r at hresult hframe hstore ⊢
  obtain ⟨result, t⟩ := r
  dsimp only at hresult hframe hstore
  have hstore : t.store = (s.pastAll setting options (sources ++ [j.source])).store := by
    have hwrites : j.source.writes setting options p.state = _ := hturn.writes
    have hmarks : j.source.marks setting options p.state = _ := hturn.marks
    rw [State.pastAll, List.foldl_append, hstore, hwrites, hmarks, h.store]
    rfl
  have hframe := hframe.trans h.frame
  have hverdict : j.source.verdict setting options p.state = _ := hturn.verdict
  rw [hverdict] at hresult
  cases hverdict : Turn.verdict setting options ⟨j.source, s.pastAll setting options sources⟩ with
  | ok o =>
    rw [hverdict] at hresult
    subst hresult
    refine ⟨?_, ?_, hframe, hstore⟩
    · intro os hos
      rw [hturns] at hos
      obtain ⟨init, o', hinit, ho', rfl⟩ := mapM_concat_ok hos
      cases hverdict.symm.trans ho'
      obtain ⟨hescaped, haccumulator⟩ := h.outcomes init hinit
      have hlength : (turns setting options s sources).length = sources.length := by
        rw [← List.length_map Turn.source, turns_source]
      refine ⟨hescaped, ?_⟩
      rw [Accumulator.positioned_concat, Accumulator.addAll_concat, ← haccumulator,
        ← (mapM_eq_ok hinit).length_eq, hlength]
    · intro e he
      rw [hturns] at he
      rcases mapM_concat_error he with he | ⟨_, -, he⟩
      · exact h.escaped e he
      · cases hverdict.symm.trans he
  | error e =>
    rw [hverdict] at hresult
    subst hresult
    refine ⟨?_, ?_, hframe, hstore⟩
    · intro os hos
      rw [hturns] at hos
      obtain ⟨init, o, -, ho, -⟩ := mapM_concat_ok hos
      cases hverdict.symm.trans ho
    · intro e' he'
      rw [hturns] at he'
      rcases mapM_concat_error he' with he' | ⟨init, hinit, he'⟩
      · rw [h.escaped e' he']
        rfl
      · cases hverdict.symm.trans he'
        rw [(h.outcomes init hinit).1]
        rfl

theorem collected_foldl {total : Nat} {start : Progress}
    (hstart : Collected setting options s total [] start) (js : List Job) :
    Collected setting options s total (js.map Job.source)
      (js.zipIdx.foldl (Progress.next setting options) start) := by
  induction js using List.reverseRecOn with
  | nil => exact hstart
  | append_singleton js j ih =>
    have hnext := ih.next j
    rw [List.length_map] at hnext
    rw [List.map_append, List.zipIdx_append, List.foldl_append, Nat.zero_add]
    exact hnext

theorem jobs_source (sources : List Source) : (jobs sources).map Job.source = sources := by
  rw [jobs, List.mapIdx_eq_zipIdx_map, List.map_map]
  exact List.zipIdx_map_fst 0 sources

/-- The number of workers is one that a run may ask for. -/
def WorkersInRange (options : Options.FetchOptions) : Prop :=
  Retrieval.minWorkers ≤ options.workers ∧ options.workers ≤ Retrieval.maxWorkers

theorem workersFor_eq (h : WorkersInRange options) (jobs : Int) :
    Retrieval.workersFor options.workers jobs =
      .ok (max Retrieval.minWorkers (min options.workers jobs)) := by
  obtain ⟨hmin, hmax⟩ := h
  exact if_neg (by omega)

theorem fanOut_collected (h : WorkersInRange options) (sources : List Source) :
    ∃ p, Collected setting options s sources.length sources p ∧
      fanOut setting options sources s =
        (match p.escaped with
          | some problem => .error (.source (.store problem))
          | none => .ok p.accumulator.result, p.state) := by
  unfold fanOut
  rw [workersFor_eq h]
  dsimp only
  generalize hstart : (⟨.start sources.length, none, s.logged [.batchStarted sources.length
    (max Retrieval.minWorkers (min options.workers sources.length)).toNat]⟩ : Progress) = start
  have hempty : Collected setting options s sources.length [] start := by
    subst hstart
    refine ⟨?_, ?_, rfl, ?_⟩
    · intro os hos
      cases hos
      exact ⟨rfl, rfl⟩
    · intro e he
      cases he
    · rfl
  have hjobs := collected_foldl hempty (jobs sources)
  rw [jobs_source] at hjobs
  generalize (jobs sources).zipIdx.foldl (Progress.next setting options) start = p at hjobs ⊢
  refine ⟨p, hjobs, ?_⟩
  cases p.escaped <;> rfl

/-- **A run of several sources sums up their outcomes**, unless some source has a value that no
store can hold. -/
theorem fanOut_result (h : WorkersInRange options) (sources : List Source) :
    (fanOut setting options sources s).1 =
      match (turns setting options s sources).mapM (Turn.verdict setting options) with
      | .ok os => .ok (.ofOutcomes sources.length os)
      | .error e => .error (.source (.store e)) := by
  obtain ⟨p, hp, heq⟩ := @fanOut_collected setting options s h sources
  rw [heq]
  cases hverdicts : (turns setting options s sources).mapM (Turn.verdict setting options) with
  | ok os =>
    obtain ⟨hescaped, haccumulator⟩ := hp.outcomes os hverdicts
    rw [hescaped, haccumulator, Accumulator.result_addAll (List.Perm.refl _)]
  | error e => rw [hp.escaped e hverdicts]

/-- **A run of several sources leaves the store as their turns do.** -/
theorem fanOut_after (h : WorkersInRange options) (sources : List Source) :
    (fanOut setting options sources s).2.frame options.proxy = s.frame options.proxy ∧
      (fanOut setting options sources s).2.store = (s.pastAll setting options sources).store := by
  obtain ⟨p, hp, heq⟩ := @fanOut_collected setting options s h sources
  rw [heq]
  exact ⟨hp.frame, hp.store⟩

/-! ## A small setting -/

/-- What the network answers at the beginning of the year 2024. -/
def Setting.serving (routes : Http.Routes) : Setting :=
  ⟨routes, "GET", ⟨63839750400000000⟩, false, .default⟩

/-- The options of a run of all enabled subscriptions. -/
def allSources : Options.FetchOptions := ⟨none, none, true, none, none, none, 3, none⟩

def pageOf (links : Text) : Http.Route := .reply ⟨200, none, Utf8.encode links⟩

theorem Setting.serving_clock (routes : Http.Routes) : (Setting.serving routes).ClockInRange := by
  have hclock : 63839750400000000 < Instant.limit := by decide
  exact hclock

theorem allSources_workers : WorkersInRange allSources := ⟨by decide, by decide⟩

end LinkHarvest.Run
