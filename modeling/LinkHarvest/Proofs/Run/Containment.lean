import LinkHarvest.Proofs.Run.FanOut
import LinkHarvest.Proofs.Run.Storable

/-!
# Problems stay with their sources

A run of several sources gives every source its outcome, with the source's own problem in it, as
long as no source breaks in its turn; `fanOut_contains` says both halves. A source breaks when it
serves a link whose remark has an unpaired half of a surrogate pair, and numbers are left for the
links before it: the remark is decoded without complaint, and the complaint of the store about it is
none that a source's outcome can hold. Then the whole run ends.
-/

namespace LinkHarvest

namespace Run

open Fallible

/-- The outcome of a source holds the source's own problem, or all its links. -/
structure Contained (setting : Setting) (options : Options.FetchOptions) (s : State)
    (source : Source) (o : Outcome) : Prop where
  url : o.url = source.url
  label : o.label = source.label
  subscription : o.subscription = source.subscription
  unserved : ∀ p, source.served setting options s = .error p →
    o.problem = some (.retrieval p) ∧ o.rawCount = 0 ∧ o.configs = []
  served : ∀ lines, source.served setting options s = .ok lines →
    o.rawCount = lines.length ∧
      ((o.problem = none ∧
          List.Forall₂ (Kept setting source.subscription) lines.eraseDups o.configs) ∨
        ∃ p, p.isReported = true ∧ o.problem = some (.store p) ∧ o.configs = [])

variable {setting : Setting} {options : Options.FetchOptions} {s t : State} {source : Source}
  {sources : List Source} {o : Outcome}

theorem Contained.congr (hframe : s.frame options.proxy = t.frame options.proxy)
    (h : Contained setting options s source o) : Contained setting options t source o := by
  have hserved := @Source.served_congr setting options s t source hframe
  exact ⟨h.url, h.label, h.subscription, hserved ▸ h.unserved, hserved ▸ h.served⟩

theorem contained_of_verdict (h : source.verdict setting options s = .ok o) :
    Contained setting options s source o := by
  rcases Source.verdict_cases h with ⟨p, hserved, rfl⟩ | ⟨lines, p, hserved, -, hreported, rfl⟩ |
    ⟨lines, rows, hserved, -, rfl⟩
  · refine ⟨rfl, rfl, rfl, ?_, ?_⟩
    · intro p' h'
      cases hserved.symm.trans h'
      exact ⟨rfl, rfl, rfl⟩
    · intro lines h'
      cases hserved.symm.trans h'
  · refine ⟨rfl, rfl, rfl, ?_, ?_⟩
    · intro p' h'
      cases hserved.symm.trans h'
    · intro lines' h'
      cases hserved.symm.trans h'
      exact ⟨rfl, .inr ⟨p, hreported, rfl, rfl⟩⟩
  · refine ⟨rfl, rfl, rfl, ?_, ?_⟩
    · intro p' h'
      cases hserved.symm.trans h'
    · intro lines' h'
      cases hserved.symm.trans h'
      exact ⟨rfl, .inl ⟨rfl, Source.drafts_kept⟩⟩

theorem Source.verdict_ok (hclock : setting.ClockInRange) (hfits : source.Fits)
    (h : ¬source.Breaks setting options s) :
    ∃ o, source.verdict setting options s = .ok o := by
  unfold verdict
  cases hserved : source.served setting options s with
  | error p => exact ⟨_, rfl⟩
  | ok lines =>
    dsimp only
    have hstorable : source.Taken s lines →
        ∀ link ∈ source.reached s lines, ¬Unstorable setting.registry link :=
      fun htaken link hlink hbad => h ⟨lines, hserved, htaken, link, hlink, hbad⟩
    rcases rows_of_not_breaks hclock hfits hstorable with ⟨rows, hrows⟩ | ⟨p, hp, hreported⟩
    · rw [hrows]
      exact ⟨_, rfl⟩
    · rw [hp]
      exact ⟨_, if_pos hreported⟩

theorem Source.verdict_of_breaks (hclock : setting.ClockInRange) (hfits : source.Fits)
    (h : source.Breaks setting options s) :
    ∃ t, source.verdict setting options s = .error (.unpairedHalf t) := by
  obtain ⟨lines, hserved, htaken, hbad⟩ := h
  obtain ⟨t, ht⟩ := rows_of_breaks hclock hfits htaken hbad
  refine ⟨t, ?_⟩
  unfold verdict
  rw [hserved]
  dsimp only
  rw [ht]
  rfl

theorem Source.Breaks.of_turn (hframe : t.frame options.proxy = s.frame options.proxy)
    (hleft : t.store.database.numbersLeft ≤ s.store.database.numbersLeft)
    (h : source.Breaks setting options t) : source.Breaks setting options s := by
  obtain ⟨lines, hserved, ⟨hopen, hrefusal⟩, link, hlink, hbad⟩ := h
  obtain ⟨hopenFrame, hrefusalFrame, -⟩ := Store.Frame.mk.injEq .. ▸ State.frame_store hframe
  have hknows := Store.knows_congr (State.frame_store hframe)
  refine ⟨lines, (served_congr hframe).symm.trans hserved, ⟨?_, ?_⟩, link, ?_, hbad⟩
  · rw [← hopenFrame]
    exact hopen
  · rw [← hrefusalFrame]
    exact hrefusal
  · unfold reached at hlink ⊢
    rw [hknows] at hlink
    apply (List.take_subset_take_left _ _) hlink
    split <;> omega

/-! ## All sources -/

section turns

variable (hclock : setting.ClockInRange) (hfits : ∀ source ∈ sources, source.Fits)

include hclock hfits

theorem mapM_verdict_ok
    (h : ∀ turn ∈ turns setting options s sources, ¬turn.source.Breaks setting options turn.state) :
    ∃ os, (turns setting options s sources).mapM (Turn.verdict setting options) = .ok os :=
  exists_mapM_eq_ok fun turn hturn =>
    Source.verdict_ok hclock (hfits turn.source (source_mem_of_mem_turns hturn)) (h turn hturn)

theorem mapM_verdict_of_breaks {turn : Turn} (hturn : turn ∈ turns setting options s sources)
    (h : turn.source.Breaks setting options turn.state) :
    ∃ t, (turns setting options s sources).mapM (Turn.verdict setting options) =
      .error (.unpairedHalf t) := by
  have hfits' : ∀ turn ∈ turns setting options s sources, turn.source.Fits :=
    fun turn hturn => hfits turn.source (source_mem_of_mem_turns hturn)
  obtain ⟨t, ht⟩ := Source.verdict_of_breaks hclock (hfits' turn hturn) h
  cases hverdicts : (turns setting options s sources).mapM (Turn.verdict setting options) with
  | ok os =>
    obtain ⟨o, ho⟩ := ok_of_mem_of_mapM_eq_ok hverdicts hturn
    cases ht.symm.trans ho
  | error e =>
    obtain ⟨turn', hturn', he⟩ := exists_mem_of_mapM_eq_error hverdicts
    by_cases hbreaks : turn'.source.Breaks setting options turn'.state
    · obtain ⟨t', ht'⟩ := Source.verdict_of_breaks hclock (hfits' turn' hturn') hbreaks
      exact ⟨t', congrArg Except.error (Except.error.inj (he.symm.trans ht'))⟩
    · obtain ⟨o, ho⟩ := Source.verdict_ok hclock (hfits' turn' hturn') hbreaks
      cases he.symm.trans ho

end turns

theorem not_breaks_of_mem_turns (h : ∀ source ∈ sources, ¬source.Breaks setting options s) :
    ∀ turn ∈ turns setting options s sources, ¬turn.source.Breaks setting options turn.state :=
  fun turn hturn hbreaks => h turn.source (source_mem_of_mem_turns hturn)
    (hbreaks.of_turn (frame_of_mem_turns hturn _) (numbersLeft_of_mem_turns hturn))

theorem contained_of_verdicts {os : List Outcome}
    (h : (turns setting options s sources).mapM (Turn.verdict setting options) = .ok os) :
    List.Forall₂ (Contained setting options s) sources os := by
  have hturns : List.Forall₂ (fun turn o => Contained setting options s turn.source o)
      (turns setting options s sources) os := by
    refine ((List.forall₂_and_left _ _).mpr ⟨fun _ hturn => hturn, mapM_eq_ok h⟩).imp
      fun turn o ho => ?_
    exact (contained_of_verdict ho.2).congr (frame_of_mem_turns ho.1 _)
  rw [← List.forall₂_map_left_iff, turns_source] at hturns
  exact hturns

/-- **A run of several sources fails exactly when a source breaks in its turn.** Otherwise every
source has one outcome, and every problem of a source is in the outcome of this source. -/
theorem fanOut_contains (hworkers : WorkersInRange options) (hclock : setting.ClockInRange)
    (hfits : ∀ source ∈ sources, source.Fits) :
    ((∀ turn ∈ turns setting options s sources,
        ¬turn.source.Breaks setting options turn.state) →
      ∃ r, (fanOut setting options sources s).1 = .ok r ∧
        List.Forall₂ (Contained setting options s) sources r.outcomes) ∧
    ((∃ turn ∈ turns setting options s sources,
        turn.source.Breaks setting options turn.state) →
      ∃ t, (fanOut setting options sources s).1 =
        .error (.source (.store (.unpairedHalf t)))) := by
  rw [fanOut_result hworkers]
  constructor
  · intro h
    obtain ⟨os, hos⟩ := mapM_verdict_ok hclock hfits h
    refine ⟨_, by rw [hos], ?_⟩
    rw [BatchResult.ofOutcomes_outcomes]
    exact contained_of_verdicts hos
  · rintro ⟨turn, hturn, h⟩
    obtain ⟨t, ht⟩ := mapM_verdict_of_breaks hclock hfits hturn h
    exact ⟨t, by rw [ht]⟩

/-- A link whose remark is written as `\ud800` in its JSON object. -/
def halfRemark : Text := "vmess://eyJhZGQiOiJoIiwicHMiOiJcdWQ4MDAifQ=="

theorem halfRemark_unstorable : Unstorable .default halfRemark :=
  ⟨⟨"vmess", [.half 0xd800], LooseText.ofText "h", [("server", .text (LooseText.ofText "h"))]⟩,
    by decide +kernel, rfl⟩

/-- One link of one source ends a run of two sources. -/
theorem fanOut_ends_at_halfRemark :
    ∃ t, (fanOut (.serving [("http://a/", pageOf halfRemark)]) allSources
      [.ofUrl "http://a/", .ofUrl "http://b/"] (.start (.ofDatabase .empty) [])).1 =
        .error (.source (.store (.unpairedHalf t))) := by
  refine (fanOut_contains allSources_workers (Setting.serving_clock _) ?_).2
    ⟨_, List.mem_cons_self, [halfRemark], by decide +kernel, ⟨rfl, rfl⟩, halfRemark,
      List.mem_cons_self, halfRemark_unstorable⟩
  intro source hsource id hid
  rcases List.mem_cons.mp hsource with rfl | hsource
  · cases hid
  · rw [List.mem_singleton.mp hsource] at hid
    cases hid

end Run

end LinkHarvest
