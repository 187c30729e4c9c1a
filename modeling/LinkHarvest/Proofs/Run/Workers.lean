import LinkHarvest.Proofs.Options.FetchOptions
import LinkHarvest.Proofs.Run.Requests

/-!
# The workers of a run

Options that are accepted ask for a number of workers that a run can have, so a run over several
sources never ends for their number, and it has at most one worker a source (`workersFor_bounds`).
The number is logged before the first source is taken up, and nothing that is logged is taken back:
each step of a source appends to the log (`Job.advance_log`), and so does a run of several sources
(`fanOut_log`).
-/

namespace LinkHarvest

namespace Run

open Options

variable {setting : Setting} {options : FetchOptions} {sources : List Source} {s : State} {j : Job}
  {phase : Phase} {values : List (Value × Value)} {o : FetchOptions}

/-! ## What is logged -/

theorem State.log_prefix_logged (s : State) (events : List Log.Event) :
    s.log <+: (s.logged events).log := List.prefix_append _ _

theorem Job.fetch_log (j : Job) (s : State) : s.log <+: (j.fetch setting options s).2.log := by
  unfold fetch
  dsimp only
  split
  · refine List.IsPrefix.trans ?_ (State.log_prefix_logged _ _)
    rw [List.append_assoc]
    exact List.prefix_append _ _
  · rw [List.append_assoc]
    exact List.prefix_append _ _

theorem Job.store_log (lines : List Text) : s.log <+: (j.store setting lines s).2.log := by
  have hlinks := s.log_prefix_logged (linkEvents setting (Retrieval.dedupe setting.verbose lines))
  unfold store
  dsimp only
  split
  · exact hlinks
  · split
    · exact hlinks
    · split
      · exact hlinks.trans (State.log_prefix_logged _ _)
      · exact hlinks

theorem Job.mark_log (rawCount : Nat) (configs : List Draft) :
    s.log <+: (j.mark setting rawCount configs s).2.log := by
  have hfetched := s.log_prefix_logged
    [.sourceFetched j.position j.source.label rawCount configs.length]
  unfold mark
  dsimp only
  split
  · exact hfetched
  · split
    · exact hfetched
    · split
      · exact hfetched
      · split
        · exact hfetched.trans (State.log_prefix_logged _ _)
        · exact hfetched

/-- **A step of a source appends to the log.** -/
theorem Job.advance_log (j : Job) (phase : Phase) (s : State) :
    s.log <+: (j.advance setting options phase s).2.log := by
  cases phase with
  | waiting => exact fetch_log j s
  | fetched lines => exact store_log lines
  | stored rawCount configs => exact mark_log rawCount configs
  | finished result => exact List.prefix_refl _

theorem Job.advanceBy_log (n : Nat) :
    s.log <+: (j.advanceBy setting options n phase s).2.log := by
  induction n generalizing phase s with
  | zero => exact List.prefix_refl _
  | succ n ih =>
    rw [advanceBy]
    exact (j.advance_log phase s).trans ih

theorem Job.process_log (j : Job) (s : State) : s.log <+: (j.process setting options s).2.log := by
  have hsteps := @Job.advanceBy_log setting options s j .waiting 3
  unfold process
  split <;> rename_i hend <;> rw [hend] at hsteps <;> exact hsteps

theorem foldl_next_log (es : List (Job × Nat)) (p : Progress) :
    p.state.log <+: (es.foldl (Progress.next setting options) p).state.log := by
  induction es generalizing p with
  | nil => exact List.prefix_refl _
  | cons e es ih =>
    have hnext : p.state.log <+: (p.next setting options e).state.log := by
      rw [Progress.next_state]
      exact e.1.process_log p.state
    rw [List.foldl_cons]
    exact hnext.trans (ih _)

theorem fanOut_log {n : Nat}
    (h : Retrieval.workersFor options.workers sources.length = .ok (n : Int)) (s : State) :
    s.log ++ [.batchStarted sources.length n] <+: (fanOut setting options sources s).2.log := by
  have hsources := @foldl_next_log setting options (jobs sources).zipIdx
    ⟨.start sources.length, none, s.logged [.batchStarted sources.length n]⟩
  unfold fanOut
  rw [h]
  dsimp only [Int.toNat_natCast]
  split <;> exact hsources

/-! ## How many workers there are -/

/-- **Accepted options ask for a number of workers in range.** -/
theorem workersInRange_of_ofEntries (h : FetchOptions.ofEntries values = .ok o) :
    WorkersInRange o := (FetchOptions.wellFormed_of_ofEntries h).workers

theorem workersFor_bounds (h : WorkersInRange options) {jobs : Nat} (hjobs : 0 < jobs) :
    ∃ n : Nat, Retrieval.workersFor options.workers jobs = .ok (n : Int) ∧ 1 ≤ n ∧
      (n : Int) ≤ options.workers ∧ n ≤ jobs := by
  have hleast : 1 ≤ options.workers := h.1
  obtain ⟨n, hn⟩ := Int.eq_ofNat_of_zero_le
    (show 0 ≤ max Retrieval.minWorkers (min options.workers jobs) by
      unfold Retrieval.minWorkers
      omega)
  refine ⟨n, by rw [workersFor_eq h, hn], ?_⟩
  unfold Retrieval.minWorkers at hn
  omega

theorem fanOut_ne_workers (h : WorkersInRange options) (p : Retrieval.WorkersOutOfRange) :
    (fanOut setting options sources s).1 ≠ .error (.workers p) := by
  rw [fanOut_result h]
  split <;> nofun

end Run

open Options Run

/-- **Accepted options are well formed, and a run has workers for them.** Values that choose no
source, or two, are refused. -/
theorem accepted_options (values : List (Value × Value)) :
    (∀ o, FetchOptions.ofEntries values = .ok o →
      FetchOptions.WellFormed values o ∧
        Retrieval.workersFor o.workers o.workers = .ok o.workers ∧
        ∀ sources : List Source, sources ≠ [] →
          ∃ n : Nat, Retrieval.workersFor o.workers sources.length = .ok (n : Int) ∧ 1 ≤ n ∧
            (n : Int) ≤ o.workers ∧ n ≤ sources.length ∧
            ∀ setting s,
              s.log ++ [.batchStarted sources.length n] <+: (fanOut setting o sources s).2.log ∧
                ∀ p, (fanOut setting o sources s).1 ≠ .error (.workers p)) ∧
      ((∀ m, ¬FetchOptions.Chooses values m) ∨
          (∃ m m', m ≠ m' ∧ FetchOptions.Chooses values m ∧ FetchOptions.Chooses values m') →
        ∃ rejection, FetchOptions.ofEntries values = .error rejection) := by
  constructor
  · intro o h
    have hworkers := workersInRange_of_ofEntries h
    refine ⟨FetchOptions.wellFormed_of_ofEntries h, ?_, ?_⟩
    · rw [workersFor_eq hworkers, min_self, max_eq_right hworkers.1]
    · intro sources hsome
      obtain ⟨n, hn, hpositive, hasked, hsources⟩ :=
        workersFor_bounds hworkers (List.length_pos_iff.mpr hsome)
      exact ⟨n, hn, hpositive, hasked, hsources,
        fun setting s => ⟨fanOut_log hn s, fun p => fanOut_ne_workers hworkers p⟩⟩
  · intro hchoice
    cases h : FetchOptions.ofEntries values with
    | error rejection => exact ⟨rejection, rfl⟩
    | ok o =>
      have hchooses := (FetchOptions.wellFormed_of_ofEntries h).chooses
      rcases hchoice with hnone | ⟨m, m', hne, hm, hm'⟩
      · exact absurd ((hchooses o.mode).mpr rfl) (hnone o.mode)
      · exact absurd (((hchooses m).mp hm).trans ((hchooses m').mp hm').symm) hne

/-- All subscriptions, with a zero for the number of one and a blank URL beside them. -/
def fetchAllValues : List (Value × Value) :=
  [(.ofText "subscription_id", .int 0), (.ofText "url", .ofText " "),
    (.ofText "fetch_all", .ofText "yes"), (.ofText "proxy", .ofText " socks5://h:1 "),
    (.ofText "workers", .ofText "5")]

/-- Five workers are asked for, and two sources have two. A file beside the subscriptions is one
choice too many. -/
theorem accepted_options_fetchAllValues :
    let o : FetchOptions := ⟨none, none, true, none, none, some "socks5://h:1", 5, none⟩
    FetchOptions.ofEntries fetchAllValues = .ok o ∧ FetchOptions.WellFormed fetchAllValues o ∧
      o.mode = .allEnabled ∧
      (∀ setting s, .batchStarted 2 2 ∈
        (fanOut setting o [.ofUrl "http://a/", .ofUrl "http://b/"] s).2.log) ∧
      ∃ rejection, FetchOptions.ofEntries
        ((.ofText "file_input", .ofText "urls.txt") :: fetchAllValues) = .error rejection := by
  intro o
  have haccepted : FetchOptions.ofEntries fetchAllValues = .ok o := by rfl
  obtain ⟨hwell, -, hworkers⟩ := (accepted_options fetchAllValues).1 o haccepted
  refine ⟨haccepted, hwell, rfl, ?_, ?_⟩
  · intro setting s
    obtain ⟨n, hn, -, -, -, hrun⟩ :=
      hworkers [.ofUrl "http://a/", .ofUrl "http://b/"] (List.cons_ne_nil _ _)
    have htwo : Retrieval.workersFor o.workers 2 = .ok 2 := by rfl
    obtain rfl : 2 = n := Int.ofNat_inj.mp (Except.ok.inj (htwo.symm.trans hn))
    exact (hrun setting s).1.subset (List.mem_append_right _ (List.mem_singleton_self _))
  · refine (accepted_options _).2 (.inr ⟨.allEnabled, .byFile, nofun, ?_, ?_⟩)
    · exact ⟨.ofText "yes", by rfl, by rfl⟩
    · exact ⟨.ofText "urls.txt", by rfl, nofun, nofun⟩

end LinkHarvest
