import LinkHarvest.Proofs.Command.Desk
import LinkHarvest.Proofs.Run.Export
import LinkHarvest.Proofs.Run.Selection
import LinkHarvest.Proofs.Run.Workers
import LinkHarvest.Proofs.Store.Again

/-!
# The exit code of a fetch

A fetch succeeds exactly when its options are accepted and its run gives a result without failed
sources. The exit code then tells what is in the database: `fetch_exitCode` says that after a
success every line that a selected source served is a stored link, and that after a run with failed
sources the lines of all the others are.
-/

namespace LinkHarvest

open Fallible

/-! ## What a run stores -/

namespace Run

variable {setting : Setting} {options : Options.FetchOptions} {s t : State} {source : Source}
  {sources : List Source} {turn : Turn} {files : Files}

/-- A source served lines, and each of them is the link of a row. -/
def Stored (setting : Setting) (options : Options.FetchOptions) (s : State) (db : Database)
    (source : Source) : Prop :=
  ∃ lines, source.served setting options s = .ok lines ∧ ∀ line ∈ lines, db.rowsOf line ≠ []

theorem link_mem_writes {o : Outcome} (h : source.verdict setting options s = .ok o)
    (hok : o.ok = true) :
    ∃ lines, source.served setting options s = .ok lines ∧
      ∀ line ∈ lines, line ∈ (source.writes setting options s).map ConfigValues.link := by
  rcases Source.verdict_cases h with ⟨p, -, rfl⟩ | ⟨lines, p, -, -, -, rfl⟩ |
    ⟨lines, rows, hserved, hrows, rfl⟩
  · cases hok
  · cases hok
  · refine ⟨lines, hserved, ?_⟩
    intro line hline
    have hdraft : Job.draft setting source.subscription line ∈ source.drafts setting lines :=
      List.mem_map_of_mem (Retrieval.mem_firsts.mpr hline)
    rw [Source.writes_of_served hserved, hrows, (Source.rows_eq_ok hrows).1]
    refine List.mem_map.mpr ⟨_, List.mem_map_of_mem hdraft, ?_⟩
    rw [Store.values, Job.draft_link]
    rfl

/-- **The lines of a source that did not fail are stored.** -/
theorem stored_of_after (h : After setting options s t sources)
    (hturn : turn ∈ turns setting options s sources) {o : Outcome}
    (hverdict : turn.verdict setting options = .ok o) (hok : o.ok = true) :
    Stored setting options s t.store.database turn.source := by
  obtain ⟨lines, hserved, hlinks⟩ := link_mem_writes hverdict hok
  refine ⟨lines, ?_, ?_⟩
  · rw [← Source.served_congr (frame_of_mem_turns hturn _)]
    exact hserved
  · intro line hline
    have hlink : line ∈ ((turns setting options s sources).flatMap
        (Turn.writes setting options)).map ConfigValues.link := by
      obtain ⟨v, hv, hvlink⟩ := List.mem_map.mp (hlinks line hline)
      exact List.mem_map.mpr ⟨v, List.mem_flatMap.mpr ⟨turn, hturn, hv⟩, hvlink⟩
    rw [h.store, State.pastAll_store]
    exact Database.rowsOf_putAll_ne_nil hlink

theorem stored_of_result {r : BatchResult} (hworkers : WorkersInRange options)
    (h : (run setting options files s).result = .ok r) :
    ∃ sources, selected options files s.store = .ok sources ∧
      (r.failedSources = 0 → ∀ o ∈ r.outcomes, o.ok = true) ∧
      List.Forall₂ (fun source o => o.ok = true → Stored setting options s
        (run setting options files s).state.store.database source) sources r.outcomes := by
  obtain ⟨sources, output, hselected, hverdicts, hr⟩ := run_outcomes h
  refine ⟨sources, hselected, ?_, ?_⟩
  · have hfailed := congrArg BatchResult.failedSources hr
    rw [BatchResult.ofOutcomes_eq] at hfailed
    dsimp only at hfailed
    intro hnone
    rw [hfailed, List.length_eq_zero_iff, List.filter_eq_nil_iff] at hnone
    intro o ho
    simpa using hnone o ho
  · have hafter : After setting options s (run setting options files s).state sources :=
      run_after hworkers hselected
    have hmembers := (List.forall₂_and_left _ _).mpr ⟨fun _ h => h, mapM_eq_ok hverdicts⟩
    have hstored : List.Forall₂ (fun turn o => o.ok = true → Stored setting options s
        (run setting options files s).state.store.database turn.source)
        (turns setting options s sources) r.outcomes := by
      refine hmembers.imp ?_
      rintro turn o ⟨hturn, hverdict⟩ hok
      exact stored_of_after hafter hturn hverdict hok
    rw [← @turns_source setting options s sources, List.forall₂_map_left_iff]
    exact hstored

end Run

/-! ## The command -/

namespace Command

open Run

variable {env : Environment} {args : List Text} {selection : Selection} {d : Desk}
  {a : FetchArguments} {options : Options.FetchOptions} {r : BatchResult}

def Desk.begin (d : Desk) : State := .start d.store []

/-- The options of a fetch are accepted, and its run gives a result. -/
structure Fetches (env : Environment) (d : Desk) (a : FetchArguments)
    (options : Options.FetchOptions) (r : BatchResult) : Prop where
  accepted : Options.FetchOptions.ofEntries (Desk.fetchValues d.config a) = .ok options
  result : (run (d.setting env) options d.files d.begin).result = .ok r

theorem call_eq (hselection : Selection.read args = .ok selection)
    (hdesk : openDesk env selection.verbose = .ok d)
    (hinvocation : Invocation.read selection.group selection.rest = .ok (.fetch a)) :
    call env args = d.fetch env a := by
  unfold call
  rw [hselection]
  dsimp only
  rw [hdesk]
  dsimp only
  rw [hinvocation]
  rfl

theorem fetchEnding_exitCode (result : Except Run.Problem BatchResult) :
    ((Desk.fetchEnding result).exitCode = 0 ∨ (Desk.fetchEnding result).exitCode = 1) ∧
      ((Desk.fetchEnding result).exitCode = 0 ↔ ∃ r, result = .ok r ∧ r.failedSources = 0) := by
  cases result with
  | error p =>
    have hcode : (Desk.fetchEnding (.error p)).exitCode = 1 := by
      unfold Desk.fetchEnding
      dsimp only
      split <;> rfl
    rw [hcode]
    simp
  | ok r =>
    unfold Desk.fetchEnding BatchResult.ok
    cases hfailed : r.failedSources <;> simp [hfailed, Ending.exitCode]

theorem fetch_exitCode_cases (env : Environment) (d : Desk) (a : FetchArguments) :
    ((d.fetch env a).ending.exitCode = 0 ∨ (d.fetch env a).ending.exitCode = 1) ∧
      ((d.fetch env a).ending.exitCode = 0 ↔
        ∃ options r, Fetches env d a options r ∧ r.failedSources = 0) := by
  unfold Desk.fetch
  cases haccepted : Options.FetchOptions.ofEntries (Desk.fetchValues d.config a) with
  | error rejection =>
    have hcode : ∀ options r, ¬ Fetches env d a options r := by
      intro options r h
      have haccepted' := h.accepted
      rw [haccepted] at haccepted'
      cases haccepted'
    cases rejection <;> simp [hcode, Desk.finish, Desk.fail, Report.bare, Ending.exitCode]
  | ok options =>
    obtain ⟨hcodes, hzero⟩ := fetchEnding_exitCode
      (run (d.setting env) options d.files d.begin).result
    refine ⟨hcodes, hzero.trans ?_⟩
    constructor
    · rintro ⟨r, hresult, hfailed⟩
      exact ⟨options, r, ⟨haccepted, hresult⟩, hfailed⟩
    · rintro ⟨options', r, hfetches, hfailed⟩
      have haccepted' := hfetches.accepted
      rw [haccepted] at haccepted'
      cases haccepted'
      exact ⟨r, hfetches.result, hfailed⟩

/-- The options name no output file that leads to the database. -/
def Desk.Spares (d : Desk) (options : Options.FetchOptions) : Prop :=
  ∀ path, options.output = some path → Apart d.files path d.place

instance (d : Desk) (options : Options.FetchOptions) : Decidable (d.Spares options) :=
  decidable_of_iff (∀ path ∈ options.output, Apart d.files path d.place) Iff.rfl

theorem run_database (hdesk : openDesk env selection.verbose = .ok d) (hspares : d.Spares options)
    (setting : Setting) (s : State) :
    (run setting options d.files s).files.find d.place = .ok (.database d.store.database) := by
  have hfind := openDesk_database hdesk
  rcases run_files setting options d.files s with hfiles | ⟨path, links, houtput, hexport⟩
  · rw [hfiles]
    exact hfind
  · exact exportLinks_find (hspares path houtput) hfind hexport

/-- **The exit code of a fetch.** It is zero exactly when the options are accepted and the run gives
a result without failed sources, and one otherwise. In the database that the call leaves, every line
of every source that did not fail is a stored link; so after exit code zero, every line of every
selected source is. -/
theorem fetch_exitCode (hselection : Selection.read args = .ok selection)
    (hdesk : openDesk env selection.verbose = .ok d)
    (hinvocation : Invocation.read selection.group selection.rest = .ok (.fetch a)) :
    ((call env args).ending.exitCode = 0 ↔
      ∃ options r, Fetches env d a options r ∧ r.failedSources = 0) ∧
    ((call env args).ending.exitCode ≠ 0 → (call env args).ending.exitCode = 1) ∧
    ∀ options r, Fetches env d a options r → d.Spares options →
      ∃ sources db, selected options d.files d.store = .ok sources ∧
        (call env args).files.find d.place = .ok (.database db) ∧
        List.Forall₂
          (fun source o => o.ok = true → Stored (d.setting env) options d.begin db source)
          sources r.outcomes ∧
        ((call env args).ending.exitCode = 0 →
          ∀ source ∈ sources, Stored (d.setting env) options d.begin db source) := by
  rw [call_eq hselection hdesk hinvocation]
  obtain ⟨hcodes, hzero⟩ := fetch_exitCode_cases env d a
  refine ⟨hzero, fun hne => hcodes.resolve_left hne, ?_⟩
  intro options r hfetches hspares
  obtain ⟨sources, hselected, hfailed, hstored⟩ :=
    stored_of_result (workersInRange_of_ofEntries hfetches.accepted) hfetches.result
  have hreport : (d.fetch env a).files =
      d.filed (run (d.setting env) options d.files d.begin).state.store
        (run (d.setting env) options d.files d.begin).files := by
    unfold Desk.fetch
    rw [hfetches.accepted]
    rfl
  refine ⟨sources, _, hselected, ?_, hstored, ?_⟩
  · rw [hreport]
    exact filed_database (run_database hdesk hspares (d.setting env) d.begin)
  · intro hexit source hsource
    obtain ⟨options', r', hfetches', hnone⟩ := hzero.mp hexit
    cases Except.ok.inj (hfetches.accepted.symm.trans hfetches'.accepted)
    cases Except.ok.inj (hfetches.result.symm.trans hfetches'.result)
    obtain ⟨o, ho, hone⟩ := exists_mem_of_forall₂ hstored.flip hsource
    exact hone (hfailed hnone o ho)

/-- An empty directory, in which a page of three lines is fetched. -/
def emptyDirectory : Environment :=
  ⟨⟨["home".toList], []⟩, threeLines.routes, threeLines.now, fun _ => none, []⟩

def fetchPage : List Text := ["subs", "fetch", "--url", "http://a/"].map String.toList

/-- The first call in a directory sets up the project and stores the lines of the page. -/
theorem fetch_exitCode_of_fetchPage :
    ∃ d options sources db, openDesk emptyDirectory false = .ok d ∧
      (call emptyDirectory fetchPage).ending.exitCode = 0 ∧
      (call emptyDirectory fetchPage).files.find d.place = .ok (.database db) ∧
      selected options d.files d.store = .ok sources ∧
      ∀ source ∈ sources, Stored (d.setting emptyDirectory) options d.begin db source := by
  have hselection : Selection.read fetchPage =
      .ok ⟨false, .subscriptions, fetchPage.drop 1⟩ := by decide +kernel
  have hinvocation : Invocation.read .subscriptions (fetchPage.drop 1) =
      .ok (.fetch ⟨none, some "http://a/".toList, false, none, none, none, none, none⟩) := by
    decide +kernel
  have hexit : (call emptyDirectory fetchPage).ending.exitCode = 0 := by decide +kernel
  have hopens : (openDesk emptyDirectory false).toOption.isSome = true := by decide +kernel
  have hspared : (openDesk emptyDirectory false).toOption.all (fun d =>
      (Options.FetchOptions.ofEntries (Desk.fetchValues d.config
        ⟨none, some "http://a/".toList, false, none, none, none, none, none⟩)).toOption.all
          fun options => decide (d.Spares options)) = true := by decide +kernel
  cases hdesk : openDesk emptyDirectory false with
  | error report =>
    rw [hdesk] at hopens
    cases hopens
  | ok d =>
    obtain ⟨hzero, -, hstored⟩ := fetch_exitCode hselection hdesk hinvocation
    obtain ⟨options, r, hfetches, -⟩ := hzero.mp hexit
    have hspares : d.Spares options := by
      rw [hdesk] at hspared
      simp only [Except.toOption, Option.all_some, hfetches.accepted] at hspared
      exact of_decide_eq_true hspared
    obtain ⟨sources, db, hselected, hfind, -, hlines⟩ := hstored options r hfetches hspares
    exact ⟨d, options, sources, db, rfl, hexit, hfind, hselected, hlines hexit⟩

end Command

end LinkHarvest
