import LinkHarvest.Proofs.Run.FanOut

/-!
# Workers that take turns

Several sources may be processed at a time. Then the steps of the sources come in any order that a
schedule says, one step as a whole after the other: a source is fetched, its links are stored, the
time is noted at its subscription, and its outcome is added to the others. `Held` is what every step
keeps while numbers are left for all links: whatever the order, what was written so far are the rows
of the sources that have come this far, and what was marked and collected likewise. The sources that
have stored their links have used up no more numbers than they had links, so that those of the
others remain (`Held.sameNumbers`). A schedule that processes one source after the other gives the
run itself (`interleaved_inOrder`).
-/

namespace LinkHarvest

namespace Run

open Fallible

/-- A source that is being processed, and whether its outcome has been added to the others. -/
structure Worker where
  job : Job
  phase : Phase
  collected : Bool

/-- A source that has taken no step. -/
def Worker.waiting (job : Job) : Worker := ⟨job, .waiting, false⟩

/-- The sources of a run, and what has been made of them together. -/
structure Pool where
  workers : List Worker
  progress : Progress

/-- Takes up what a source at an index came to. -/
def Progress.collect (p : Progress) (index : Nat) : Except StoreProblem Outcome → Progress
  | .ok outcome => { p with accumulator := p.accumulator.add index outcome }
  | .error problem => { p with escaped := p.escaped.orElse fun _ => some problem }

/-- Takes the next step of a source, of which the last one is that its outcome is taken up. -/
def Worker.step (setting : Setting) (options : Options.FetchOptions) (w : Worker) (index : Nat)
    (p : Progress) : Worker × Progress :=
  match w.phase with
  | .finished result =>
    if w.collected then (w, p) else ({ w with collected := true }, p.collect index result)
  | phase =>
    let (phase, state) := w.job.advance setting options phase p.state
    ({ w with phase }, { p with state })

namespace Pool

/-- No source has taken a step. -/
def start (options : Options.FetchOptions) (sources : List Source) (s : State) : Pool where
  workers := (jobs sources).map .waiting
  progress := ⟨.start sources.length, none, s.logged [.batchStarted sources.length
    (max Retrieval.minWorkers (min options.workers sources.length)).toNat]⟩

/-- Takes the next step of the source at an index. -/
def step (setting : Setting) (options : Options.FetchOptions) (p : Pool) (i : Nat) : Pool :=
  match p.workers[i]? with
  | none => p
  | some w =>
    let (w, progress) := w.step setting options i p.progress
    ⟨p.workers.set i w, progress⟩

def run (setting : Setting) (options : Options.FetchOptions) (p : Pool) (schedule : List Nat) :
    Pool :=
  schedule.foldl (step setting options) p

/-- The outcomes of all sources have been taken up. -/
def Complete (p : Pool) : Prop := ∀ w ∈ p.workers, w.collected = true

end Pool

/-- Processes all sources, step by step as a schedule says. -/
def interleaved (setting : Setting) (options : Options.FetchOptions) (sources : List Source)
    (schedule : List Nat) (s : State) : Part BatchResult :=
  match Retrieval.workersFor options.workers sources.length with
  | .error p => (.error (.workers p), s)
  | .ok _ =>
    let p := ((Pool.start options sources s).run setting options schedule).progress
    match p.escaped with
    | some problem => (.error (.source (.store problem)), p.state)
    | none => (.ok p.accumulator.result, p.state)

/-- A schedule takes all sources to their end. -/
def Completes (setting : Setting) (options : Options.FetchOptions) (sources : List Source)
    (s : State) (schedule : List Nat) : Prop :=
  ((Pool.start options sources s).run setting options schedule).Complete

/-! ## What the workers have done so far -/

section contributions

variable (setting : Setting) (options : Options.FetchOptions) (s : State)

/-- The rows that a source has written so far. -/
def Worker.rows (w : Worker) : List ConfigValues := w.phase.written setting options s w.job.source

/-- The subscriptions that a source has marked so far. -/
def Worker.ids (w : Worker) : List Int := w.phase.marked setting options s w.job.source

/-- The outcome of the source at an index, once it is taken up. -/
def Worker.arrived (w : Worker) (index : Nat) : List (Nat × Outcome) :=
  match w.collected, w.job.source.verdict setting options s with
  | true, .ok o => [(index, o)]
  | _, _ => []

end contributions

/-- What all workers have contributed. -/
def gathered (f : Worker → Nat → List α) (workers : List Worker) : List α :=
  workers.zipIdx.flatMap fun e => f e.1 e.2

theorem flatMap_zipIdx_set {f : Worker → Nat → List α} {w w' : Worker} {more : List α}
    (workers : List Worker) (k i : Nat) (hw : workers[i]? = some w)
    (hf : f w' (k + i) = f w (k + i) ++ more) :
    (((workers.set i w').zipIdx k).flatMap fun e => f e.1 e.2).Perm
      (((workers.zipIdx k).flatMap fun e => f e.1 e.2) ++ more) := by
  induction workers generalizing k i with
  | nil => cases hw
  | cons first rest ih =>
    cases i with
    | zero =>
      obtain rfl : first = w := by simpa using hw
      rw [Nat.add_zero] at hf
      simp only [List.set_cons_zero, List.zipIdx_cons, List.flatMap_cons, hf]
      rw [List.append_assoc, List.append_assoc]
      exact (List.perm_append_comm).append_left _
    | succ i =>
      have hrest := ih (k + 1) i (by simpa using hw) (by rwa [Nat.add_right_comm, Nat.add_assoc])
      simp only [List.set_cons_succ, List.zipIdx_cons, List.flatMap_cons, List.append_assoc]
      exact hrest.append_left _

theorem gathered_set {f : Worker → Nat → List α} {workers : List Worker} {i : Nat} {w w' : Worker}
    {more : List α} (hw : workers[i]? = some w) (hf : f w' i = f w i ++ more) :
    (gathered f (workers.set i w')).Perm (gathered f workers ++ more) := by
  apply flatMap_zipIdx_set workers 0 i hw
  rw [Nat.zero_add]
  exact hf

theorem gathered_fst (f : Worker → List α) (workers : List Worker) :
    gathered (fun w _ => f w) workers = workers.flatMap f := by
  have hfst : (workers.zipIdx.map Prod.fst).flatMap f = workers.flatMap f := by
    rw [List.zipIdx_map_fst]
  rw [← hfst, List.flatMap_map]
  rfl

/-! ## The sources of the workers -/

theorem sources_of_jobs {sources : List Source} {workers : List Worker}
    (h : workers.map Worker.job = jobs sources) :
    workers.map (fun w => w.job.source) = sources := by
  have hjobs := congrArg (List.map Job.source) h
  rwa [jobs_source, List.map_map] at hjobs

theorem map_job_set {workers : List Worker} {w w' : Worker} {i : Nat}
    (hw : workers[i]? = some w) (hjob : w'.job = w.job) :
    (workers.set i w').map Worker.job = workers.map Worker.job := by
  have hget : (workers.map Worker.job)[i]? = some w.job := by
    rw [List.getElem?_map, hw]
    rfl
  obtain ⟨hi, hget⟩ := List.getElem?_eq_some_iff.mp hget
  rw [List.map_set, hjob, ← hget, List.set_getElem_self]

theorem waiting_of_mem_start {options : Options.FetchOptions} {sources : List Source} {s : State}
    {w : Worker} (h : w ∈ (Pool.start options sources s).workers) : ∃ job, w = .waiting job := by
  obtain ⟨job, -, rfl⟩ := List.mem_map.mp h
  exact ⟨job, rfl⟩

theorem map_job_start (options : Options.FetchOptions) (sources : List Source) (s : State) :
    (Pool.start options sources s).workers.map Worker.job = jobs sources := by
  rw [Pool.start, List.map_map]
  exact List.map_id _

/-! ## One step -/

section equations

variable {setting : Setting} {options : Options.FetchOptions} {w : Worker} {i : Nat} {p : Progress}
  {result : Except StoreProblem Outcome}

theorem Worker.step_done (hphase : w.phase = .finished result) (hcollected : w.collected = true) :
    w.step setting options i p = (w, p) := by
  unfold step
  rw [hphase]
  exact if_pos hcollected

theorem Worker.step_collect (hphase : w.phase = .finished result)
    (hcollected : w.collected = false) :
    w.step setting options i p = ({ w with collected := true }, p.collect i result) := by
  unfold step
  rw [hphase]
  dsimp only
  rw [hcollected]
  rfl

theorem Worker.step_advance (hphase : ∀ result, w.phase ≠ .finished result) :
    w.step setting options i p =
      ({ w with phase := (w.job.advance setting options w.phase p.state).1 },
        { p with state := (w.job.advance setting options w.phase p.state).2 }) := by
  unfold step
  split
  · exact absurd (by assumption) (hphase _)
  · rfl

end equations

/-- What a step of the worker at an index comes to, with `s` as the state before the run. -/
structure Stepped (setting : Setting) (options : Options.FetchOptions) (s : State) (index : Nat)
    (w : Worker) (p : Progress) (r : Worker × Progress) : Prop where
  job : r.1.job = w.job
  due : r.1.phase.Due setting options s w.job.source
  finished : r.1.collected = true → ∃ result, r.1.phase = .finished result
  frame : r.2.state.frame options.proxy = s.frame options.proxy
  escaped : r.2.escaped = p.escaped
  contributions : ∃ rows ids es,
    r.1.rows setting options s = w.rows setting options s ++ rows ∧
      r.1.ids setting options s = w.ids setting options s ++ ids ∧
      r.1.arrived setting options s index = w.arrived setting options s index ++ es ∧
      r.2.state.store =
        { p.state.store with
          database := (p.state.store.database.putAll rows).stamped ids setting.now } ∧
      r.2.accumulator = p.accumulator.addAll es

variable {setting : Setting} {options : Options.FetchOptions} {s : State} {index : Nat}
  {w : Worker} {p : Progress} {o : Outcome} {sources : List Source} {os : List Outcome}

theorem Stepped.unchanged (hframe : p.state.frame options.proxy = s.frame options.proxy)
    (hdue : w.phase.Due setting options s w.job.source)
    (hfinished : w.collected = true → ∃ result, w.phase = .finished result) :
    Stepped setting options s index w p (w, p) := by
  refine ⟨rfl, hdue, hfinished, hframe, rfl, [], [], [], (List.append_nil _).symm,
    (List.append_nil _).symm, (List.append_nil _).symm, ?_, rfl⟩
  rw [Database.putAll_nil, Database.stamped_nil]

theorem Stepped.advanced (hframe : p.state.frame options.proxy = s.frame options.proxy)
    (hleft : Store.SameNumbers (w.phase.pending setting options s w.job.source) s.store
      p.state.store)
    (hdue : w.phase.Due setting options s w.job.source) (hcollected : w.collected = false) :
    Stepped setting options s index w p
      ({ w with phase := (w.job.advance setting options w.phase p.state).1 },
        { p with state := (w.job.advance setting options w.phase p.state).2 }) := by
  have hstep := Job.advance_advanced hframe hdue hleft
  obtain ⟨rows, ids, hrows, hids, -, hstore⟩ := hstep.store
  have hnone : ∀ phase, ({ w with phase } : Worker).arrived setting options s index = [] := by
    intro phase
    unfold Worker.arrived
    rw [hcollected]
  refine ⟨rfl, hstep.due, ?_, hstep.frame.trans hframe, rfl, rows, ids, [], hrows, hids, ?_,
    hstore, rfl⟩
  · intro h
    exact absurd (hcollected.symm.trans h) Bool.false_ne_true
  · rw [List.append_nil]
    exact (hnone _).trans (hnone w.phase).symm

theorem Stepped.collected {result : Except StoreProblem Outcome}
    (hframe : p.state.frame options.proxy = s.frame options.proxy)
    (hphase : w.phase = .finished result) (hcollected : w.collected = false)
    (hdue : w.phase.Due setting options s w.job.source)
    (hverdict : w.job.source.verdict setting options s = .ok o) :
    Stepped setting options s index w p
      ({ w with collected := true }, p.collect index result) := by
  have hresult : result = .ok o := by
    rw [hphase] at hdue
    exact Eq.trans hdue hverdict
  subst hresult
  refine ⟨rfl, hdue, fun _ => ⟨_, hphase⟩, hframe, rfl, [], [], [(index, o)],
    (List.append_nil _).symm, (List.append_nil _).symm, ?_, ?_, rfl⟩
  · unfold Worker.arrived
    rw [hcollected]
    dsimp only
    rw [hverdict]
    rfl
  · rw [Database.putAll_nil, Database.stamped_nil]
    rfl

/-- **What one step of a worker does**, whatever the others have done before. -/
theorem Worker.step_stepped (hframe : p.state.frame options.proxy = s.frame options.proxy)
    (hleft : Store.SameNumbers (w.phase.pending setting options s w.job.source) s.store
      p.state.store)
    (hdue : w.phase.Due setting options s w.job.source)
    (hfinished : w.collected = true → ∃ result, w.phase = .finished result)
    (hverdict : w.job.source.verdict setting options s = .ok o) :
    Stepped setting options s index w p (w.step setting options index p) := by
  by_cases hphase : ∃ result, w.phase = .finished result
  · obtain ⟨result, hphase⟩ := hphase
    cases hcollected : w.collected with
    | true =>
      rw [step_done hphase hcollected]
      exact .unchanged hframe hdue hfinished
    | false =>
      rw [step_collect hphase hcollected]
      exact .collected hframe hphase hcollected hdue hverdict
  · rw [step_advance fun result hresult => hphase ⟨result, hresult⟩]
    exact .advanced hframe hleft hdue (Bool.eq_false_iff.mpr (mt hfinished hphase))

/-! ## All steps -/

/-- What is known of a pool after any steps. -/
structure Held (setting : Setting) (options : Options.FetchOptions) (s : State)
    (sources : List Source) (p : Pool) : Prop where
  jobs : p.workers.map Worker.job = jobs sources
  due : ∀ w ∈ p.workers, w.phase.Due setting options s w.job.source
  finished : ∀ w ∈ p.workers, w.collected = true → ∃ result, w.phase = .finished result
  frame : p.progress.state.frame options.proxy = s.frame options.proxy
  escaped : p.progress.escaped = none
  store : ∃ rows ids,
    rows.Perm (gathered (fun w _ => w.rows setting options s) p.workers) ∧
      ids.Perm (gathered (fun w _ => w.ids setting options s) p.workers) ∧
      p.progress.state.store =
        { s.store with
          database := (s.store.database.putAll rows).stamped ids setting.now }
  accumulator : ∃ es,
    es.Perm (gathered (Worker.arrived setting options s) p.workers) ∧
      p.progress.accumulator = (Accumulator.start sources.length).addAll es

theorem Held.sources_eq {p : Pool} (h : Held setting options s sources p) :
    p.workers.map (fun w => w.job.source) = sources := sources_of_jobs h.jobs

theorem Held.source_getElem? {p : Pool} (h : Held setting options s sources p)
    (hw : p.workers[index]? = some w) : sources[index]? = some w.job.source := by
  rw [← h.sources_eq, List.getElem?_map, hw]
  rfl

theorem Held.source_mem {p : Pool} (h : Held setting options s sources p) (hw : w ∈ p.workers) :
    w.job.source ∈ sources := by
  rw [← h.sources_eq]
  exact List.mem_map.mpr ⟨w, hw, rfl⟩

theorem Held.start (sources : List Source) :
    Held setting options s sources (Pool.start options sources s) := by
  have hempty : ∀ {α : Type} (f : Worker → Nat → List α),
      (∀ job i, f (.waiting job) i = []) →
      gathered f (Pool.start options sources s).workers = [] := by
    intro α f hf
    apply List.flatMap_eq_nil_iff.mpr
    intro e he
    obtain ⟨job, hjob⟩ := waiting_of_mem_start (List.fst_mem_of_mem_zipIdx he)
    rw [hjob]
    exact hf job e.2
  refine ⟨map_job_start options sources s, ?_, ?_, rfl, rfl, ⟨[], [], ?_, ?_, ?_⟩, [], ?_, rfl⟩
  · intro w hw
    obtain ⟨job, rfl⟩ := waiting_of_mem_start hw
    trivial
  · intro w hw hcollected
    obtain ⟨job, rfl⟩ := waiting_of_mem_start hw
    cases hcollected
  · rw [hempty _ fun _ _ => rfl]
  · rw [hempty _ fun _ _ => rfl]
  · rw [Database.putAll_nil, Database.stamped_nil]
    rfl
  · rw [hempty _ fun _ _ => rfl]

/-- A source has used up and may still need no more numbers than it has links. -/
theorem Phase.written_add_pending_le {source : Source} (phase : Phase) :
    (phase.written setting options s source).length + phase.pending setting options s source ≤
      source.linkCount setting options s := by
  cases phase with
  | waiting => exact (Nat.zero_add _).le
  | fetched lines => exact (Nat.zero_add _).le
  | stored rawCount configs => exact Source.writes_length_le
  | finished result => exact Source.writes_length_le

/-- What other sources have written leaves a source the numbers that it may still need. -/
theorem Held.sameNumbers {p : Pool} (h : Held setting options s sources p)
    (hnumbers : NumbersLeft setting options s sources) (hw : w ∈ p.workers) :
    Store.SameNumbers (w.phase.pending setting options s w.job.source) s.store
      p.progress.state.store := by
  have hpending := @Phase.written_add_pending_le setting options s w.job.source w.phase
  have hcount := hnumbers.linkCount_le (h.source_mem hw)
  obtain ⟨rows, ids, hrows, -, hstore⟩ := h.store
  have hlength : rows.length =
      (p.workers.map fun w => (w.rows setting options s).length).sum := by
    rw [hrows.length_eq, gathered_fst, List.length_flatMap]
  have htotal : rows.length + w.phase.pending setting options s w.job.source ≤
      (sources.map (Source.linkCount setting options s)).sum := by
    rw [hlength, ← h.sources_eq, List.map_map]
    exact sum_map_add_le
      (fun w _ => Nat.le_trans (Nat.le_add_right ..) (Phase.written_add_pending_le w.phase)) hw
      hpending
  rw [NumbersLeft] at hnumbers
  apply Store.sameNumbers_of_le
  · omega
  · rw [hstore]
    dsimp only
    rw [Database.stamped_numbersLeft, Database.putAll_numbersLeft]
    omega

theorem Held.step {p : Pool} (h : Held setting options s sources p)
    (hnumbers : NumbersLeft setting options s sources)
    (hverdicts : ∀ source ∈ sources, ∃ o, source.verdict setting options s = .ok o) (i : Nat) :
    Held setting options s sources (p.step setting options i) := by
  unfold Pool.step
  cases hw : p.workers[i]? with
  | none => exact h
  | some w =>
    have hmem : w ∈ p.workers := List.mem_of_getElem? hw
    obtain ⟨o, ho⟩ := hverdicts _ (h.source_mem hmem)
    have hstep := @Worker.step_stepped setting options s i w p.progress o h.frame
      (h.sameNumbers hnumbers hmem) (h.due w hmem) (h.finished w hmem) ho
    dsimp only
    generalize w.step setting options i p.progress = r at hstep ⊢
    obtain ⟨w', progress⟩ := r
    obtain ⟨more, moreIds, moreEs, hrows, hids, hes, hstore, haccumulator⟩ := hstep.contributions
    obtain ⟨rows, ids, hrowsPerm, hidsPerm, hstore'⟩ := h.store
    obtain ⟨es, hesPerm, haccumulator'⟩ := h.accumulator
    refine ⟨(map_job_set hw hstep.job).trans h.jobs, ?_, ?_, hstep.frame,
      hstep.escaped.trans h.escaped, ⟨rows ++ more, ids ++ moreIds, ?_, ?_, ?_⟩, es ++ moreEs, ?_,
      ?_⟩
    · intro v hv
      rcases List.mem_or_eq_of_mem_set hv with hv | rfl
      · exact h.due v hv
      · rw [hstep.job]
        exact hstep.due
    · intro v hv
      rcases List.mem_or_eq_of_mem_set hv with hv | rfl
      · exact h.finished v hv
      · exact hstep.finished
    · exact (hrowsPerm.append_right more).trans (gathered_set hw hrows).symm
    · exact (hidsPerm.append_right moreIds).trans (gathered_set hw hids).symm
    · dsimp only at hstore ⊢
      rw [hstore, hstore', Database.putAll_append, Database.stamped_append,
        Database.putAll_stamped]
    · exact (hesPerm.append_right moreEs).trans (gathered_set hw hes).symm
    · dsimp only at haccumulator ⊢
      rw [haccumulator, haccumulator', Accumulator.addAll, Accumulator.addAll, Accumulator.addAll,
        List.foldl_append]

theorem Held.run {p : Pool} (h : Held setting options s sources p)
    (hnumbers : NumbersLeft setting options s sources)
    (hverdicts : ∀ source ∈ sources, ∃ o, source.verdict setting options s = .ok o)
    (schedule : List Nat) : Held setting options s sources (p.run setting options schedule) := by
  induction schedule generalizing p with
  | nil => exact h
  | cons i schedule ih => exact ih (h.step hnumbers hverdicts i)

/-! ## The end of a run -/

theorem Held.gathered_complete {p : Pool} (h : Held setting options s sources p) (hp : p.Complete)
    {f : Worker → List α} {g : Source → List α}
    (hf : ∀ w result, w.phase = .finished result → f w = g w.job.source) :
    gathered (fun w _ => f w) p.workers = sources.flatMap g := by
  rw [gathered_fst, ← h.sources_eq, List.flatMap_map]
  apply List.flatMap_congr
  intro w hw
  obtain ⟨result, hresult⟩ := h.finished w hw (hp w hw)
  exact hf w result hresult

theorem flatMap_arrived {workers : List Worker}
    (hall : List.Forall₂ (fun w o => w.job.source.verdict setting options s = .ok o) workers os)
    (hcollected : ∀ w ∈ workers, w.collected = true) (k : Nat) :
    ((workers.zipIdx k).flatMap fun e => e.1.arrived setting options s e.2) =
      (os.zipIdx k).map Prod.swap := by
  induction hall generalizing k with
  | nil => rfl
  | cons ho _ ih =>
    obtain ⟨hw, hrest⟩ := List.forall_mem_cons.mp hcollected
    rw [List.zipIdx_cons, List.zipIdx_cons, List.flatMap_cons, List.map_cons, ih hrest (k + 1),
      Worker.arrived, hw, ho]
    rfl

theorem Held.arrived_complete {p : Pool} (h : Held setting options s sources p) (hp : p.Complete)
    (hos : sources.mapM (Source.verdict setting options s) = .ok os) :
    gathered (Worker.arrived setting options s) p.workers = Accumulator.positioned os := by
  have hall := mapM_eq_ok hos
  rw [← h.sources_eq] at hall
  exact flatMap_arrived (List.forall₂_map_left_iff.mp hall) hp 0

/-- **A run that takes all sources to their end sums up their outcomes**, and it writes their rows
in some order; and while numbers are left, none of it depends on the order of the steps. -/
theorem interleaved_complete (hworkers : WorkersInRange options)
    (hnumbers : NumbersLeft setting options s sources)
    (hos : sources.mapM (Source.verdict setting options s) = .ok os) {schedule : List Nat}
    (hcompletes : Completes setting options sources s schedule) :
    (interleaved setting options sources schedule s).1 = .ok (.ofOutcomes sources.length os) ∧
      ∃ rows ids,
        rows.Perm (sources.flatMap (Source.writes setting options s)) ∧
          ids.Perm (sources.flatMap (Source.marks setting options s)) ∧
          (interleaved setting options sources schedule s).2.store =
            { s.store with
              database := (s.store.database.putAll rows).stamped ids setting.now } := by
  have hverdicts : ∀ source ∈ sources, ∃ o, source.verdict setting options s = .ok o :=
    fun source hsource => ok_of_mem_of_mapM_eq_ok hos hsource
  have hheld := (@Held.start setting options s sources).run hnumbers hverdicts schedule
  unfold Completes at hcompletes
  unfold interleaved
  rw [workersFor_eq hworkers]
  dsimp only
  generalize (Pool.start options sources s).run setting options schedule = p at hheld hcompletes ⊢
  rw [hheld.escaped]
  obtain ⟨rows, ids, hrows, hids, hstore⟩ := hheld.store
  obtain ⟨es, hes, haccumulator⟩ := hheld.accumulator
  have hwrites := hheld.gathered_complete hcompletes (f := Worker.rows setting options s)
    (g := Source.writes setting options s) fun w result hw => by
      rw [Worker.rows, hw]
      rfl
  have hmarks := hheld.gathered_complete hcompletes (f := Worker.ids setting options s)
    (g := Source.marks setting options s) fun w result hw => by
      rw [Worker.ids, hw]
      rfl
  rw [hwrites] at hrows
  rw [hmarks] at hids
  rw [hheld.arrived_complete hcompletes hos] at hes
  refine ⟨?_, rows, ids, hrows, hids, hstore⟩
  dsimp only
  rw [haccumulator, Accumulator.result_addAll hes]

/-! ## One source after the other -/

/-- Four steps of each source, one source after the other. -/
def inOrder (n : Nat) : List Nat := (List.range' 0 n).flatMap (List.replicate 4)

theorem Job.advance_remaining (j : Job) (phase : Phase) (t : State) :
    (j.advance setting options phase t).1.remaining ≤ phase.remaining - 1 := by
  cases phase with
  | waiting =>
    rw [advance, fetch_phase]
    split <;> simp [Phase.remaining]
  | fetched lines =>
    rw [advance, store_phase]
    split
    · simp [Phase.remaining]
    · split <;> simp [Phase.remaining]
  | stored rawCount configs =>
    unfold advance mark
    dsimp only
    repeat' split
    all_goals simp [Phase.remaining]
  | finished result => simp [advance, Phase.remaining]

theorem Job.advanceBy_finished (j : Job) (n : Nat) (result : Except StoreProblem Outcome)
    (t : State) :
    j.advanceBy setting options n (.finished result) t = (.finished result, t) := by
  induction n with
  | zero => rfl
  | succ n ih =>
    rw [advanceBy, advance]
    exact ih

namespace Pool

theorem step_of_getElem? {p : Pool} {i : Nat} (hw : p.workers[i]? = some w) :
    p.step setting options i =
      ⟨p.workers.set i (w.step setting options i p.progress).1,
        (w.step setting options i p.progress).2⟩ := by
  unfold step
  rw [hw]

theorem run_cons (p : Pool) (i : Nat) (schedule : List Nat) :
    p.run setting options (i :: schedule) =
      (p.step setting options i).run setting options schedule := rfl

theorem run_append (p : Pool) (before after : List Nat) :
    p.run setting options (before ++ after) =
      (p.run setting options before).run setting options after := List.foldl_append

theorem getElem?_set_of_some {workers : List Worker} {i : Nat} (hw : workers[i]? = some w)
    (w' : Worker) : (workers.set i w')[i]? = some w' := by
  obtain ⟨hi, -⟩ := List.getElem?_eq_some_iff.mp hw
  exact List.getElem?_set_self hi

theorem run_replicate_done {p : Pool} {i : Nat} {result : Except StoreProblem Outcome}
    (hw : p.workers[i]? = some w) (hphase : w.phase = .finished result)
    (hcollected : w.collected = true) (n : Nat) :
    p.run setting options (List.replicate n i) = p := by
  have hstep : p.step setting options i = p := by
    obtain ⟨hi, hget⟩ := List.getElem?_eq_some_iff.mp hw
    rw [step_of_getElem? hw, Worker.step_done hphase hcollected, ← hget, List.set_getElem_self]
  induction n with
  | zero => rfl
  | succ n ih => rw [List.replicate_succ, run_cons, hstep, ih]

/-- A source at its end only waits for its outcome to be taken up. -/
theorem run_replicate_finished {p : Pool} {i : Nat} {result : Except StoreProblem Outcome}
    (hw : p.workers[i]? = some w) (hphase : w.phase = .finished result)
    (hcollected : w.collected = false) (n : Nat) :
    w.job.advanceBy setting options n w.phase p.progress.state =
        (.finished result, p.progress.state) ∧
      p.run setting options (List.replicate (n + 1) i) =
        ⟨p.workers.set i ⟨w.job, .finished result, true⟩, p.progress.collect i result⟩ := by
  constructor
  · rw [hphase]
    exact Job.advanceBy_finished _ _ _ _
  · have hset := getElem?_set_of_some hw ⟨w.job, .finished result, true⟩
    rw [List.replicate_succ, run_cons, step_of_getElem? hw, Worker.step_collect hphase hcollected,
      hphase]
    exact run_replicate_done hset rfl rfl n

theorem run_replicate {p : Pool} {i n : Nat} (hw : p.workers[i]? = some w)
    (hcollected : w.collected = false) (hn : w.phase.remaining ≤ n) :
    ∃ result t,
      w.job.advanceBy setting options n w.phase p.progress.state = (.finished result, t) ∧
        p.run setting options (List.replicate (n + 1) i) =
          ⟨p.workers.set i ⟨w.job, .finished result, true⟩,
            { p.progress with state := t }.collect i result⟩ := by
  induction n generalizing p w with
  | zero =>
    obtain ⟨result, hphase⟩ := Phase.eq_finished_of_remaining hn
    exact ⟨result, _, run_replicate_finished hw hphase hcollected 0⟩
  | succ n ih =>
    by_cases hphase : ∃ result, w.phase = .finished result
    · obtain ⟨result, hphase⟩ := hphase
      exact ⟨result, _, run_replicate_finished hw hphase hcollected (n + 1)⟩
    · rw [List.replicate_succ, run_cons, step_of_getElem? hw,
        Worker.step_advance fun result hresult => hphase ⟨result, hresult⟩]
      dsimp only
      -- The worker and the progress after this step get names, so that the rest of the steps can
      -- be read off the induction hypothesis.
      generalize hw' : ({ w with phase :=
        (w.job.advance setting options w.phase p.progress.state).1 } : Worker) = w'
      generalize hp' : ({ p.progress with state :=
        (w.job.advance setting options w.phase p.progress.state).2 } : Progress) = progress
      have hset := getElem?_set_of_some hw w'
      have hremaining : w'.phase.remaining ≤ n := by
        have hstep := @Job.advance_remaining setting options w.job w.phase p.progress.state
        rw [← hw']
        exact Nat.le_trans hstep (by omega)
      obtain ⟨result, t, hadvance, hrun⟩ :=
        @ih w' ⟨p.workers.set i w', progress⟩ hset (hw' ▸ hcollected) hremaining
      refine ⟨result, t, ?_, ?_⟩
      · subst hw' hp'
        exact hadvance
      · rw [hrun, List.set_set]
        subst hw' hp'
        rfl

end Pool

theorem Progress.next_eq {p : Progress} {j : Job} {i : Nat} {result : Except StoreProblem Outcome}
    {t : State} (h : j.advanceBy setting options 3 .waiting p.state = (.finished result, t)) :
    p.next setting options (j, i) = { p with state := t }.collect i result := by
  have hprocess : j.process setting options p.state = (result, t) := by
    unfold Job.process
    rw [h]
  unfold next
  rw [hprocess]
  cases result <;> rfl

theorem Pool.run_inOrder (js : List Job) (done : List Worker) (p : Progress) :
    ∃ workers : List Worker, (∀ w ∈ workers, w.collected = true) ∧
      Pool.run setting options ⟨done ++ js.map .waiting, p⟩
          ((List.range' done.length js.length).flatMap (List.replicate 4)) =
        ⟨done ++ workers, (js.zipIdx done.length).foldl (Progress.next setting options) p⟩ := by
  induction js generalizing done p with
  | nil => exact ⟨[], by simp, rfl⟩
  | cons j js ih =>
    have hw : (done ++ (j :: js).map .waiting)[done.length]? = some (.waiting j) := by simp
    obtain ⟨result, t, hadvance, hrun⟩ := @run_replicate setting options (.waiting j)
      ⟨done ++ (j :: js).map .waiting, p⟩ done.length 3 hw rfl (Nat.le_refl 3)
    generalize hlast : (⟨(Worker.waiting j).job, .finished result, true⟩ : Worker) = last at hrun
    obtain ⟨workers, hworkers, hrest⟩ :=
      ih (done ++ [last]) (p.next setting options (j, done.length))
    have hcollected : last.collected = true := by rw [← hlast]
    refine ⟨last :: workers, List.forall_mem_cons.mpr ⟨hcollected, hworkers⟩, ?_⟩
    have hset : (done ++ (j :: js).map Worker.waiting).set done.length last =
        (done ++ [last]) ++ js.map Worker.waiting := by simp
    have hlength : (done ++ [last]).length = done.length + 1 := by simp
    have hnext : p.next setting options (j, done.length) =
        { p with state := t }.collect done.length result := Progress.next_eq hadvance
    rw [hlength, List.append_assoc _ _ workers] at hrest
    rw [List.length_cons, List.range'_succ, List.flatMap_cons, run_append, hrun, hset, ← hnext]
    exact hrest

theorem inOrder_completes (sources : List Source) :
    Completes setting options sources s (inOrder sources.length) := by
  obtain ⟨workers, hworkers, hrun⟩ := @Pool.run_inOrder setting options (jobs sources) []
    (Pool.start options sources s).progress
  have hlength : (jobs sources).length = sources.length := by simp [jobs]
  rw [hlength] at hrun
  have hend : ((Pool.start options sources s).run setting options
      (inOrder sources.length)).workers = workers := congrArg Pool.workers hrun
  unfold Completes Pool.Complete
  rw [hend]
  exact hworkers

/-- **One source after the other is the run itself.** -/
theorem interleaved_inOrder (hworkers : WorkersInRange options) (sources : List Source) :
    interleaved setting options sources (inOrder sources.length) s =
      fanOut setting options sources s := by
  obtain ⟨workers, -, hrun⟩ := @Pool.run_inOrder setting options (jobs sources) []
    (Pool.start options sources s).progress
  have hlength : (jobs sources).length = sources.length := by simp [jobs]
  rw [hlength] at hrun
  have hprogress : ((Pool.start options sources s).run setting options
      (inOrder sources.length)).progress =
        (jobs sources).zipIdx.foldl (Progress.next setting options)
          (Pool.start options sources s).progress := congrArg Pool.progress hrun
  unfold interleaved fanOut
  rw [workersFor_eq hworkers]
  dsimp only
  rw [hprogress]
  rfl

end Run

end LinkHarvest
