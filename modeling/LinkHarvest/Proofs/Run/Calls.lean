import LinkHarvest.Proofs.Run.Verdict
import LinkHarvest.Proofs.Store.Reachable
import LinkHarvest.Run.Harvest

/-!
# A run makes calls

Whatever a run does to the store, it does by calls: a step of a source makes at most one, an upsert
of links of the source or a mark at its subscription. So what these calls keep is kept by a run
(`CallInvariant.run`). In particular the store that a run leaves is one that calls lead to
(`run_reachable`), and runs may follow each other.
-/

namespace LinkHarvest

namespace Run

/-- A property of stores is kept by the calls that a run makes for sources with certain owners. -/
structure CallInvariant (now : Instant) (owners : Option Int → Prop) (P : Store → Prop) :
    Prop where
  upsert : ∀ {s : Store} (drafts : List Draft), (∀ d ∈ drafts, owners d.owner) → P s →
    P (s.upsert now drafts).2
  mark : ∀ {s : Store} (id : Int), owners (some id) → P s →
    P (s.mark id (some now.timestamp)).2

/-- The options select sources that are no subscriptions. -/
def Unowned (options : Options.FetchOptions) : Prop :=
  options.mode = .byUrl ∨ options.mode = .byFile

namespace CallInvariant

variable {setting : Setting} {options : Options.FetchOptions} {owners : Option Int → Prop}
  {P : Store → Prop} {s : State} {j : Job} {source : Source} {sources : List Source}

/-! ## One source -/

theorem store (hP : CallInvariant setting.now owners P) (hj : owners j.source.subscription)
    (h : P s.store) (lines : List Text) : P (j.store setting lines s).2.store := by
  unfold Job.store
  dsimp only
  have hstore : ∀ events, (s.logged events).store = s.store := fun _ => rfl
  rw [hstore]
  have howners : ∀ d ∈ (Retrieval.dedupe setting.verbose lines).1.map
      (Job.draft setting j.source.subscription), owners d.owner := by
    intro d hd
    obtain ⟨link, -, rfl⟩ := List.mem_map.mp hd
    rwa [Job.draft_owner]
  have hupsert := hP.upsert _ howners h
  split
  · exact h
  · generalize s.store.upsert setting.now _ = call at hupsert ⊢
    obtain ⟨result, t⟩ := call
    cases result with
    | ok _ => exact hupsert
    | error p =>
      dsimp only
      split <;> exact hupsert

theorem noteTime (hP : CallInvariant setting.now owners P) (hj : owners j.source.subscription)
    (h : P s.store) (rawCount : Nat) (configs : List Draft) :
    P (j.mark setting rawCount configs s).2.store := by
  unfold Job.mark
  dsimp only
  have hstore : ∀ events, (s.logged events).store = s.store := fun _ => rfl
  rw [hstore]
  split
  · exact h
  · rename_i id howner
    have hmark := hP.mark id (howner ▸ hj) h
    split
    · exact h
    · generalize s.store.mark id (some setting.now.timestamp) = call at hmark ⊢
      obtain ⟨result, t⟩ := call
      cases result with
      | ok _ => exact hmark
      | error p =>
        dsimp only
        split <;> exact hmark

theorem advance (hP : CallInvariant setting.now owners P) (hj : owners j.source.subscription)
    (h : P s.store) (phase : Phase) : P (j.advance setting options phase s).2.store := by
  cases phase with
  | waiting =>
    unfold Job.advance Job.fetch
    dsimp only
    split <;> exact h
  | fetched lines => exact hP.store hj h lines
  | stored rawCount configs => exact hP.noteTime hj h rawCount configs
  | finished result => exact h

theorem advanceBy (hP : CallInvariant setting.now owners P) (hj : owners j.source.subscription)
    (h : P s.store) (n : Nat) (phase : Phase) :
    P (j.advanceBy setting options n phase s).2.store := by
  induction n generalizing phase s with
  | zero => exact h
  | succ n ih => exact ih (hP.advance hj h phase) _

theorem process (hP : CallInvariant setting.now owners P) (hj : owners j.source.subscription)
    (h : P s.store) : P (j.process setting options s).2.store := by
  have hsteps : P (j.advanceBy setting options 3 .waiting s).2.store := hP.advanceBy hj h 3 .waiting
  unfold Job.process
  split <;> rename_i heq <;> rw [heq] at hsteps <;> exact hsteps

theorem single (hP : CallInvariant setting.now owners P) (hsource : owners source.subscription)
    (h : P s.store) : P (single setting options source s).2.store := by
  have hprocess : P ((Job.mk source "1/1").process setting options s).2.store :=
    hP.process hsource h
  unfold Run.single
  generalize (Job.mk source "1/1").process setting options s = result at hprocess ⊢
  obtain ⟨result, t⟩ := result
  cases result with
  | error p => exact hprocess
  | ok o =>
    dsimp only
    split <;> exact hprocess

/-! ## Several sources -/

theorem next (hP : CallInvariant setting.now owners P) {p : Progress} {job : Job × Nat}
    (hj : owners job.1.source.subscription) (h : P p.state.store) :
    P (p.next setting options job).state.store := by
  have hprocess : P (job.1.process setting options p.state).2.store := hP.process hj h
  unfold Progress.next
  split <;> rename_i heq <;> rw [heq] at hprocess <;> exact hprocess

theorem foldl_next (hP : CallInvariant setting.now owners P) {js : List (Job × Nat)}
    (hjs : ∀ job ∈ js, owners job.1.source.subscription) {p : Progress} (h : P p.state.store) :
    P (js.foldl (Progress.next setting options) p).state.store := by
  induction js generalizing p with
  | nil => exact h
  | cons job js ih =>
    obtain ⟨hj, hrest⟩ := List.forall_mem_cons.mp hjs
    exact ih hrest (hP.next hj h)

theorem fanOut (hP : CallInvariant setting.now owners P)
    (hsources : ∀ source ∈ sources, owners source.subscription) (h : P s.store) :
    P (fanOut setting options sources s).2.store := by
  have hjobs : ∀ job ∈ (jobs sources).zipIdx, owners job.1.source.subscription := by
    intro job hjob
    have hmem := List.fst_mem_of_mem_zipIdx hjob
    obtain ⟨i, hi, heq⟩ := List.mem_mapIdx.mp hmem
    rw [← heq]
    exact hsources _ (List.getElem_mem hi)
  unfold Run.fanOut
  split
  · exact h
  · dsimp only
    split <;> exact hP.foldl_next hjobs h

/-! ## Runs -/

theorem collect (hP : CallInvariant setting.now owners P) (hnone : owners none)
    (hsome : Unowned options ∨ ∀ id, owners (some id)) (h : P s.store) (files : Files) :
    P (collect setting options files s).2.store := by
  unfold Run.collect
  split <;> rename_i hmode
  · have hid : ∀ id, owners (some id) := hsome.resolve_left (by simp [Unowned, hmode])
    unfold byId
    split
    · exact h
    · exact hP.single (hid _) h
  · exact hP.single hnone h
  · have hid : ∀ id, owners (some id) := hsome.resolve_left (by simp [Unowned, hmode])
    unfold allEnabled
    split
    · exact h
    · dsimp only
      split
      · exact h
      · refine hP.fanOut (fun source hsource => ?_) h
        obtain ⟨subscription, -, rfl⟩ := List.mem_map.mp hsource
        exact hid _
  · unfold byFile
    split
    · exact h
    · refine hP.fanOut (s := s.logged _) (fun source hsource => ?_) h
      obtain ⟨url, -, rfl⟩ := List.mem_map.mp hsource
      exact hnone

/-- **What the calls of the selected sources keep is kept by a run.** -/
theorem run (hP : CallInvariant setting.now owners P) (hnone : owners none)
    (hsome : Unowned options ∨ ∀ id, owners (some id)) (h : P s.store) (files : Files) :
    P (run setting options files s).state.store := by
  have hcollect := hP.collect hnone hsome h files
  unfold Run.run
  split <;> rename_i heq <;> rw [heq] at hcollect
  · exact hcollect
  · dsimp only
    split
    · split
      · unfold exportResult
        split <;> exact hcollect
      · exact hcollect
    · exact hcollect

end CallInvariant

/-! ## Reachable stores -/

theorem reachable_callInvariant (now : Instant) :
    CallInvariant now (fun _ => True) Store.Reachable :=
  ⟨fun drafts _ h => h.upsert now drafts, fun id _ h => h.mark id (some now.timestamp)⟩

/-- **A run leaves a store that calls lead to.** -/
theorem run_reachable {setting : Setting} {options : Options.FetchOptions} {s : State}
    (h : s.store.Reachable) (files : Files) :
    (run setting options files s).state.store.Reachable :=
  (reachable_callInvariant setting.now).run trivial (.inr fun _ => trivial) h files

end Run

end LinkHarvest
