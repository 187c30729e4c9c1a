import LinkHarvest.Proofs.Files.Tree
import LinkHarvest.Proofs.Retrieval.Ending
import LinkHarvest.Proofs.Run.Failure

/-!
# Exported links

The file that a run writes gives back the links of its result: `run_export_round_trip`. Every link
that reaches the export was once a line of a body, plain or encoded, so it stands on a line of its
own (`onLine_of_contained`): it has something in it, no blank character at its ends, and no line
feed. Lines written from such links are read as these links (`nonBlankLines_exportText`), and a
character that base64 does not know keeps the file from being taken for an encoded body.
-/

namespace LinkHarvest

namespace Run

open Fallible

variable {setting : Setting} {options : Options.FetchOptions} {s : State} {source : Source}
  {sources : List Source} {files files' : Files} {path : FilePath} {links lines : List Text}
  {r : BatchResult} {o : Outcome} {d : Draft}

/-- **What a source serves are lines**, however the body is encoded. -/
theorem onLine_of_served (h : source.served setting options s = .ok lines) {line : Text}
    (hline : line ∈ lines) : Text.OnLine line := by
  obtain ⟨fetched, hfetched, rfl⟩ := map_eq_ok.mp h
  obtain ⟨bytes, hbody⟩ := Retrieval.fetch_body hfetched
  obtain ⟨t, hlinks⟩ := Retrieval.links_readBody bytes
  rw [hbody, hlinks] at hline
  exact Text.onLine_of_mem hline

theorem onLine_of_contained (h : Contained setting options s source o) (hd : d ∈ o.configs) :
    ∃ link, d.link = some link ∧ Text.OnLine link := by
  cases hserved : source.served setting options s with
  | error p =>
    rw [(h.unserved p hserved).2.2] at hd
    cases hd
  | ok lines =>
    rcases (h.served lines hserved).2 with ⟨-, hkept⟩ | ⟨p, -, -, hnone⟩
    · obtain ⟨link, hlink, hsame⟩ := exists_mem_of_forall₂ hkept hd
      exact ⟨link, hsame.same, onLine_of_served hserved (List.mem_eraseDups.mp hlink)⟩
    · rw [hnone] at hd
      cases hd

/-! ## Writing and reading -/

/-- **Links that are lines are read back** from the text that is written of them. -/
theorem nonBlankLines_exportText (h : ∀ link ∈ links, Text.OnLine link) :
    Text.nonBlankLines (exportText links) = links := by
  induction links with
  | nil => rfl
  | cons link links ih =>
    obtain ⟨hlink, hlinks⟩ := List.forall_mem_cons.mp h
    have htext : exportText (link :: links) = link ++ '\n' :: exportText links := by
      simp [exportText]
    rw [htext, hlink.nonBlankLines_append, ih hlinks]

theorem read_of_exportLinks (h : exportLinks files path links = .ok files') :
    files'.read path = .ok (Utf8.encode (exportText links)) := by
  unfold exportLinks at h
  split at h
  · cases h
  · exact Files.read_of_write (mapError_eq_ok.mp h)

/-- What a run with the result `r` writes to its file: the text `t` as the bytes `content`. -/
structure Exported (r : BatchResult) (content : Bytes) (t : Text) : Prop where
  written : t = r.links.flatMap fun link => link ++ ['\n']
  decoded : Utf8.decode content = .ok t
  lines : Text.nonBlankLines t = r.links
  count : r.links.length = r.totalConfigs
  served : (∃ link ∈ r.links, ∃ c ∈ link, c ≠ '\r' ∧ Base64.isSign c = false) →
    Retrieval.readBody content = ⟨r.links, false⟩

theorem exported_of_links (hlines : ∀ link ∈ r.links, Text.OnLine link)
    (hcount : r.links.length = r.totalConfigs) :
    Exported r (Utf8.encode (exportText r.links)) (exportText r.links) := by
  have hread := nonBlankLines_exportText hlines
  refine ⟨rfl, Utf8.decode_encode _, hread, hcount, ?_⟩
  intro hsign
  rw [← hread] at hsign
  rw [(Retrieval.readBody_forms _ hsign).1, hread]

/-! ## The result of a run -/

theorem collect_without_workers (hmode : isSingle options.mode = false)
    (hworkers : ¬WorkersInRange options) (h : (collect setting options files s).1 = .ok r) :
    selected options files s.store = .ok [] ∧ r = .empty := by
  unfold collect at h
  unfold selected
  cases hname : options.mode with
  | byId =>
    rw [hname] at hmode
    cases hmode
  | byUrl =>
    rw [hname] at hmode
    cases hmode
  | allEnabled =>
    rw [hname] at h
    dsimp only at h ⊢
    unfold allEnabled at h
    cases hlist : s.store.list with
    | error p =>
      rw [hlist] at h
      cases h
    | ok subscriptions =>
      rw [hlist] at h
      dsimp only at h ⊢
      split at h
      · rename_i hempty
        cases h
        rw [List.isEmpty_iff.mp hempty]
        exact ⟨rfl, rfl⟩
      · exact (hworkers (workersInRange_of_result h)).elim
  | byFile =>
    rw [hname] at h
    dsimp only at h
    unfold byFile at h
    split at h
    · cases h
    · exact (hworkers (workersInRange_of_result h)).elim

/-- **The result of a run sums up the verdicts on its turns**, apart from the file that its links
are written to. -/
theorem run_outcomes (h : (run setting options files s).result = .ok r) :
    ∃ sources output, selected options files s.store = .ok sources ∧
      (turns setting options s sources).mapM (Turn.verdict setting options) = .ok r.outcomes ∧
      { r with output } = BatchResult.ofOutcomes r.outcomes.length r.outcomes := by
  obtain ⟨output, hcollect⟩ := collect_of_run h
  cases hselected : selected options files s.store with
  | error p =>
    rw [collect_of_selected_error hselected] at hcollect
    cases hcollect
  | ok sources =>
    refine ⟨sources, output, rfl, ?_⟩
    by_cases hworkers : WorkersInRange options
    · rw [(collect_of_selected hworkers hselected).1] at hcollect
      exact exists_outcomes_of_resultOf hcollect
    · cases hmode : isSingle options.mode with
      | true =>
        obtain ⟨source, rfl, -, hresult⟩ :=
          @collect_single setting options s _ files hmode hselected
        exact exists_outcomes_of_resultOf (hresult.symm.trans hcollect)
      | false =>
        obtain ⟨hnone, hr⟩ := collect_without_workers hmode hworkers hcollect
        cases hselected.symm.trans hnone
        have houtcomes : r.outcomes = [] := congrArg BatchResult.outcomes hr
        rw [hr, houtcomes]
        exact ⟨rfl, rfl⟩

/-- The configs of a result are those of the sources that did not fail, in the order of the sources,
and each of them has its link. -/
structure Ordered (setting : Setting) (options : Options.FetchOptions) (s : State)
    (sources : List Source) (r : BatchResult) : Prop where
  outcomes : List.Forall₂ (Contained setting options s) sources r.outcomes
  configs : r.configs = (r.outcomes.filter Outcome.ok).flatMap Outcome.configs
  links : r.configs.map Draft.link = r.links.map some

theorem map_link {ds : List Draft} (h : ∀ d ∈ ds, ∃ link, d.link = some link) :
    ds.map Draft.link = (ds.filterMap Draft.link).map some := by
  induction ds with
  | nil => rfl
  | cons d ds ih =>
    obtain ⟨⟨link, hlink⟩, hrest⟩ := List.forall_mem_cons.mp h
    rw [List.map_cons, List.filterMap_cons, hlink, ih hrest]
    rfl

theorem onLine_of_configs
    (houtcomes : List.Forall₂ (Contained setting options s) sources r.outcomes)
    (hconfigs : r.configs = (r.outcomes.filter Outcome.ok).flatMap Outcome.configs)
    (hd : d ∈ r.configs) : ∃ link, d.link = some link ∧ Text.OnLine link := by
  rw [hconfigs] at hd
  obtain ⟨o, ho, hd⟩ := List.mem_flatMap.mp hd
  obtain ⟨source, -, hcontained⟩ := exists_mem_of_forall₂ houtcomes (List.mem_of_mem_filter ho)
  exact onLine_of_contained hcontained hd

theorem run_read (houtput : options.output = some path)
    (h : (run setting options files s).result = .ok r) :
    (0 < r.totalConfigs →
        (run setting options files s).files.read path = .ok (Utf8.encode (exportText r.links))) ∧
      (r.totalConfigs = 0 → (run setting options files s).files = files) := by
  unfold run at h ⊢
  rw [houtput] at h ⊢
  generalize collect setting options files s = part at h ⊢
  obtain ⟨result, t⟩ := part
  cases result with
  | error p => cases h
  | ok collected =>
    dsimp only at h ⊢
    by_cases hsome : 0 < collected.totalConfigs
    · rw [if_pos hsome] at h ⊢
      unfold exportResult at h ⊢
      cases hexport : exportLinks files path collected.links with
      | error p =>
        rw [hexport] at h
        cases h
      | ok written =>
        rw [hexport] at h
        cases h
        exact ⟨fun _ => read_of_exportLinks hexport, fun hnone => absurd hnone hsome.ne'⟩
    · rw [if_neg hsome] at h ⊢
      cases h
      exact ⟨fun hlinks => absurd hlinks hsome, fun _ => rfl⟩

/-- **What a run exports can be read again.** A run with an output file and a result with configs
leaves the links of these configs in the file, in the order of the sources and each followed by a
line feed, whatever the file held before. The lines of the file are these links again, and a server
that answers with the file serves them, once some link holds a character that base64 does not know.
A run without configs leaves the files alone. -/
theorem run_export_round_trip (houtput : options.output = some path)
    (h : (run setting options files s).result = .ok r) :
    (∃ sources, selected options files s.store = .ok sources ∧
        Ordered setting options s sources r) ∧
      (0 < r.totalConfigs → ∃ content t,
        (run setting options files s).files.read path = .ok content ∧ Exported r content t) ∧
      (r.totalConfigs = 0 → (run setting options files s).files = files) := by
  obtain ⟨sources, output, hselected, hverdicts, hr⟩ := run_outcomes h
  have houtcomes : List.Forall₂ (Contained setting options s) sources r.outcomes :=
    contained_of_verdicts hverdicts
  have hconfigs : r.configs = (r.outcomes.filter Outcome.ok).flatMap Outcome.configs := by
    rw [BatchResult.ofOutcomes_eq] at hr
    exact congrArg BatchResult.configs hr
  have hlines : ∀ d ∈ r.configs, ∃ link, d.link = some link ∧ Text.OnLine link :=
    fun d hd => onLine_of_configs houtcomes hconfigs hd
  have hlinks : r.configs.map Draft.link = r.links.map some :=
    map_link fun d hd => (hlines d hd).imp fun _ hlink => hlink.1
  have hcount : r.links.length = r.totalConfigs := by
    rw [BatchResult.ofOutcomes_eq] at hr
    have htotal : r.totalConfigs =
        ((r.outcomes.filter Outcome.ok).map fun o => o.configs.length).sum :=
      congrArg BatchResult.totalConfigs hr
    have hlength := congrArg List.length hlinks
    rw [List.length_map, List.length_map] at hlength
    rw [← hlength, htotal, hconfigs, List.length_flatMap]
  have honLine : ∀ link ∈ r.links, Text.OnLine link := by
    intro link hlink
    obtain ⟨d, hd, hsame⟩ := List.mem_filterMap.mp hlink
    obtain ⟨link', hlink', hline⟩ := hlines d hd
    cases hsame.symm.trans hlink'
    exact hline
  obtain ⟨hread, hnone⟩ := run_read houtput h
  exact ⟨⟨sources, hselected, houtcomes, hconfigs, hlinks⟩,
    fun hsome => ⟨_, _, hread hsome, exported_of_links honLine hcount⟩, hnone⟩

/-- A file of that name is there already, with a longer text. -/
def olderLinks : Files :=
  ⟨[], [(["links.txt".toList], .file (Utf8.encode "vless://some-older-and-longer-link@h:443"))]⟩

/-- The two links of a page take the place of the older text, and serve as a page themselves. -/
theorem run_exports_over_older_links :
    let finished := run threeLines intoFile olderLinks (.start oneSubscription [])
    ∃ r content t, finished.result = .ok r ∧
      r.links = ["trojan://pw@h:443#B".toList, "foo".toList] ∧
      finished.files.read (.ofText "links.txt") = .ok content ∧ Exported r content t ∧
      Retrieval.readBody content = ⟨r.links, false⟩ := by
  intro finished
  have hlinks : finished.result.toOption.map BatchResult.links =
      some ["trojan://pw@h:443#B".toList, "foo".toList] := by decide +kernel
  have hcount : finished.result.toOption.map BatchResult.totalConfigs = some 2 := by
    decide +kernel
  cases hresult : finished.result with
  | error p =>
    rw [hresult] at hlinks
    cases hlinks
  | ok r =>
    rw [hresult] at hlinks hcount
    have hlinks : r.links = ["trojan://pw@h:443#B".toList, "foo".toList] :=
      Option.some.inj hlinks
    have hcount : r.totalConfigs = 2 := Option.some.inj hcount
    obtain ⟨-, hwritten, -⟩ := @run_export_round_trip threeLines intoFile
      (.start oneSubscription []) olderLinks _ r rfl hresult
    obtain ⟨content, t, hread, hexported⟩ := hwritten (by rw [hcount]; decide)
    refine ⟨r, content, t, rfl, hlinks, hread, hexported, hexported.served ?_⟩
    rw [hlinks]
    exact ⟨_, List.mem_cons_self, ':', by decide, by decide, by decide⟩

end Run

end LinkHarvest
